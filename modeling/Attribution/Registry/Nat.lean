import Attribution.Registry.Events

/-! Moving connections to the destinations that they have after NAT. -/

namespace Attribution.Registry

/-- How many requests are answered together. -/
def batchLimit : Nat := 256

/-- Applies the answer to one request. Tells whether a connection moved. -/
def applyAnswer (registry : Registry) (request : NatRequest) (answer : Option Address) :
    Registry × Bool :=
  match answer with
  | none => (registry, false)
  | some actual =>
    if actual = request.flow.destination then (registry, false)
    else
      let moves := (registry.container? request.container).any fun container =>
        (container.tracker.redirect request.socket request.timestamp actual).1
      (registry.track request.container fun tracker =>
        (tracker.redirect request.socket request.timestamp actual).2, moves)

/-- Applies answers in the order of the requests and counts the connections that move. -/
def applyAnswers (registry : Registry) : List (NatRequest × Option Address) → Registry × Nat
  | [] => (registry, 0)
  | (request, answer) :: rest =>
    let (registry, moved) := registry.applyAnswer request answer
    let (registry, count) := registry.applyAnswers rest
    (registry, if moved then count + 1 else count)

/-- Asks for all destinations of a batch at once, then moves the connections. -/
def resolveBatch (conntrack : Conntrack) (registry : Registry) (requests : List NatRequest) :
    Registry × Nat :=
  registry.applyAnswers (requests.zip (conntrack (requests.map (·.flow))))

/-- A list cut into batches of at most `limit` items, the order kept. -/
def batches {α : Type} (limit : Nat) : (fuel : Nat) → List α → List (List α)
  | 0, _ => []
  | _, [] => []
  | fuel + 1, item :: rest =>
    let items := item :: rest
    items.take limit :: batches limit fuel (items.drop limit)

/-- Answers every request that waits. -/
def drain (conntrack : Conntrack) (registry : Registry) : Registry :=
  let waiting := registry.queue
  (batches batchLimit waiting.length waiting).foldl
    (fun registry requests => (registry.resolveBatch conntrack requests).1)
    { registry with queue := [] }

/-- Takes in all events and then answers the requests they have led to. -/
def run (sources : Sources) (conntrack : Conntrack) (registry : Registry) (events : List Event)
    (now : Instant) : Registry :=
  (registry.handleAll sources events now).drain conntrack

end Attribution.Registry
