import Attribution.Proofs.Tracker.Requests

/-!
Requests on a descriptor that has been used again.

A request without a time counts for whatever its socket holds.  Connections to loopback are not
recorded, so one that is opened where another has not been closed leaves the other in its place.
Main statement: exactly then such a request counts for an earlier use of the descriptor, and it always
counts for the latest use that is recorded at all.
-/

namespace Attribution.Tracker

variable {socket : Socket} {acts : List Act}

/-! ### Openings on a socket -/

/-- The opening that an act records or ignores, if it is on a socket. -/
def Act.opening? (socket : Socket) : Act → Option Opening
  | .opened opening _ => if opening.connection.socket = socket then some opening else none
  | _ => none

/-- All openings on a socket in the course of a run, loopback included. -/
def openingsOn (socket : Socket) (acts : List Act) : List Opening :=
  acts.filterMap (·.opening? socket)

def latestOpening? (socket : Socket) (acts : List Act) : Option Opening :=
  (openingsOn socket acts).getLast?

/-- The latest opening on a socket that goes elsewhere than to loopback. -/
def latestRecorded? (socket : Socket) (acts : List Act) : Option Opening :=
  ((openingsOn socket acts).filter fun opening => !opening.destination.isLoopback).getLast?

/-- A connection goes back to an opening; its destination after NAT may have been found since. -/
def Opening.LeadsTo (opening : Opening) (connection : Connection) : Prop :=
  connection = { opening.connection with actual := connection.actual }

theorem latestRecorded?_snoc (socket : Socket) (acts : List Act) (act : Act) :
    latestRecorded? socket (acts ++ [act]) =
      ((act.opening? socket).filter fun opening => !opening.destination.isLoopback).or
        (latestRecorded? socket acts) := by
  unfold latestRecorded? openingsOn
  rw [List.filterMap_append, List.filter_append, List.getLast?_append]
  congr 1
  cases opens : act.opening? socket with
  | none => simp [opens]
  | some opening =>
    cases loopback : opening.destination.isLoopback <;> simp [opens, loopback, Option.filter]

theorem latestRecorded?_loud {opening : Opening} (recorded : latestRecorded? socket acts = some opening) :
    opening.destination.isLoopback = false := by
  have member := List.mem_of_getLast? recorded
  simpa using (List.mem_filter.1 member).2

theorem latestRecorded?_of_latest {opening : Opening} (latest : latestOpening? socket acts = some opening)
    (loud : opening.destination.isLoopback = false) : latestRecorded? socket acts = some opening := by
  obtain ⟨early, whole⟩ := List.getLast?_eq_some_iff.1 latest
  rw [latestRecorded?, whole, List.filter_append, List.getLast?_append]
  simp [loud]

theorem exists_latestOpening? {opening : Opening} (recorded : latestRecorded? socket acts = some opening) :
    ∃ latest, latestOpening? socket acts = some latest := by
  cases none : latestOpening? socket acts with
  | some latest => exact ⟨latest, rfl⟩
  | none =>
    rw [latestOpening?, List.getLast?_eq_none_iff] at none
    simp [latestRecorded?, none] at recorded

/-! ### What a socket's connection goes back to -/

theorem not_concerns_opened {opening : Opening} {now : Instant}
    (unopened : (Act.opened opening now).opening? socket = none) :
    (Act.opened opening now).concerns socket = false := by
  simpa [Act.opening?, Act.concerns] using unopened

theorem follow_none {act : Act} (unopened : act.opening? socket = none)
    (concerned : act.concerns socket = true) : follow none act = none := by
  cases act with
  | opened opening now => exact absurd (not_concerns_opened unopened) (by simp [concerned])
  | _ => rfl

theorem leadsTo_follow {opening : Opening} {connection next : Connection} {act : Act}
    (leads : opening.LeadsTo connection) (unopened : act.opening? socket = none)
    (concerned : act.concerns socket = true) (followed : follow (some connection) act = some next) :
    opening.LeadsTo next := by
  cases act with
  | opened other now => exact absurd (not_concerns_opened unopened) (by simp [concerned])
  | close other timestamp now =>
    simp only [follow, Option.filter_eq_some_iff, Option.some.injEq] at followed
    exact followed.1 ▸ leads
  | redirect other timestamp actual =>
    simp only [follow, Option.map_some, Option.some.injEq] at followed
    unfold Opening.LeadsTo at leads ⊢
    rw [← followed]
    split
    · rw [leads]
    · exact leads
  | requested other timestamp request =>
    simp only [follow, Option.some.injEq] at followed
    exact followed ▸ leads
  | exit pid now => simp [follow] at followed
  | _ => simp [Act.concerns] at concerned

/-- The connection of a socket goes back to the latest opening there that was recorded. -/
theorem latestRecorded?_of_current {connection : Connection}
    (current : currentOf socket acts = some connection) :
    ∃ opening, latestRecorded? socket acts = some opening ∧ opening.LeadsTo connection := by
  induction acts using List.reverseRecOn generalizing connection with
  | nil => cases current
  | append_singleton acts act ih =>
    rw [currentOf_snoc] at current
    rw [latestRecorded?_snoc]
    cases opens : act.opening? socket with
    | none =>
      simp only [Option.filter_none, Option.none_or]
      split at current
      · rename_i concerned
        cases before : currentOf socket acts with
        | none =>
          rw [before, follow_none opens concerned] at current
          cases current
        | some earlier =>
          obtain ⟨opening, recorded, leads⟩ := ih before
          rw [before] at current
          exact ⟨opening, recorded, leadsTo_follow leads opens concerned current⟩
      · exact ih current
    | some opening =>
      cases act with
      | opened other now =>
        simp only [Act.opening?, Option.ite_none_right_eq_some, Option.some.injEq] at opens
        obtain ⟨here, rfl⟩ := opens
        simp only [Act.concerns, here, decide_true, if_true, follow] at current
        cases loopback : other.destination.isLoopback with
        | true =>
          simp only [loopback, if_true] at current
          rw [Option.filter_some, if_neg (by simp [loopback]), Option.none_or]
          exact ih current
        | false =>
          simp only [loopback, Bool.false_eq_true, if_false, Option.some.injEq] at current
          exact ⟨other, by simp [loopback], by rw [← current]; rfl⟩
      | _ => cases opens

/-! ### Requests without a time -/

/-- The connection opened last on a socket goes to loopback, and the socket still has an earlier one. -/
def Masked (socket : Socket) (acts : List Act) : Prop :=
  (∃ opening, latestOpening? socket acts = some opening ∧ opening.destination.isLoopback = true) ∧
    ∃ connection, currentOf socket acts = some connection

/-- A request without a time is accepted, and counted for the connection that an opening has led to. -/
def CountsFor (tracker : Tracker) (socket : Socket) (request : Request) (opening : Opening) : Prop :=
  ∃ connection, tracker.held.get? socket = some connection ∧ opening.LeadsTo connection ∧
    (tracker.requested socket 0 request).1 = true ∧
    (tracker.requested socket 0 request).2.usage.get? (request.protocol, connection.actual) =
      some ((tracker.usage.getD (request.protocol, connection.actual) .none).add request)

theorem countsFor_of_held {tracker : Tracker} {connection : Connection} {opening : Opening}
    (held : tracker.held.get? socket = some connection) (leads : opening.LeadsTo connection)
    (request : Request) : tracker.CountsFor socket request opening := by
  have current : tracker.current? socket 0 = some connection :=
    current?_eq_some_iff.2 ⟨held, .inl rfl⟩
  refine ⟨connection, held, leads, requested_fst_iff.2 ⟨connection, current⟩, ?_⟩
  rw [usage_requested, current]
  simp

theorem accepted_iff_current (acts : List Act) (socket : Socket) (request : Request) :
    ((after acts).requested socket 0 request).1 = true ↔
      ∃ connection, currentOf socket acts = some connection := by
  rw [requested_fst_iff]
  simp [current?_eq_some_iff, held_after]

/-- After any run, a request without a time that is accepted on a socket counts for the connection
opened last there, exactly unless that one goes to loopback and an earlier one has not been closed;
then the request is accepted and counts for the earlier one.  It always counts for the connection
opened last of those that do not go to loopback. -/
theorem request_follows_latest_iff (acts : List Act) (socket : Socket) (request : Request) :
    ((((after acts).requested socket 0 request).1 = true → ∃ opening,
        latestOpening? socket acts = some opening ∧ (after acts).CountsFor socket request opening) ↔
      ¬Masked socket acts) ∧
      (((after acts).requested socket 0 request).1 = true ↔ ∃ opening,
        latestRecorded? socket acts = some opening ∧ (after acts).CountsFor socket request opening) := by
  have counts {connection : Connection} (current : currentOf socket acts = some connection) :
      ∃ opening, latestRecorded? socket acts = some opening ∧
        (after acts).CountsFor socket request opening := by
    obtain ⟨opening, recorded, leads⟩ := latestRecorded?_of_current current
    exact ⟨opening, recorded, countsFor_of_held ((held_after acts socket).trans current) leads request⟩
  rw [accepted_iff_current]
  refine ⟨⟨?_, ?_⟩, ?_, ?_⟩
  · rintro follows ⟨⟨opening, latest, loopback⟩, connection, current⟩
    obtain ⟨other, same, found, held, leads, _⟩ := follows ⟨connection, current⟩
    cases latest.symm.trans same
    cases current.symm.trans ((held_after acts socket).symm.trans held)
    obtain ⟨recorded, loud, origin⟩ := latestRecorded?_of_current current
    -- Both openings would have to be to the destination that the connection has.
    have destination : recorded.destination = opening.destination :=
      congrArg Connection.destination (origin.symm.trans leads)
    have quiet := latestRecorded?_loud loud
    rw [destination, loopback] at quiet
    cases quiet
  · rintro unmasked ⟨connection, current⟩
    obtain ⟨recorded, found, counted⟩ := counts current
    obtain ⟨latest, isLatest⟩ := exists_latestOpening? found
    cases loopback : latest.destination.isLoopback with
    | true => exact absurd ⟨⟨latest, isLatest, loopback⟩, connection, current⟩ unmasked
    | false =>
      cases found.symm.trans (latestRecorded?_of_latest isLatest loopback)
      exact ⟨_, isLatest, counted⟩
  · rintro ⟨connection, current⟩
    exact counts current
  · rintro ⟨opening, _, connection, held, _⟩
    exact ⟨connection, (held_after acts socket).symm.trans held⟩

/-- A descriptor whose close was lost is used again for a connection to loopback. -/
def reuseForLoopback : List Act :=
  [.opened ⟨.v4 0x0A000002 40000, .v4 0x0A000009 80, .v4 0x0A000009 80, 7, 3, 100⟩ 1000,
    .opened ⟨.v4 0x7F000001 40001, .v4 0x7F000001 8080, .v4 0x7F000001 8080, 7, 3, 200⟩ 1000]

/-- A request can count for a connection that its descriptor was used for before. -/
theorem not_always_latest :
    ¬∀ (acts : List Act) (socket : Socket) (request : Request),
      ((after acts).requested socket 0 request).1 = true →
      ∃ opening, latestOpening? socket acts = some opening ∧
        (after acts).CountsFor socket request opening := by
  intro always
  let request : Request := ⟨.http, 200, 0, 0, 0, []⟩
  obtain ⟨opening, latest, connection, held, leads, _⟩ :=
    always reuseForLoopback ⟨7, 3⟩ request (by decide)
  have destination : (latestOpening? ⟨7, 3⟩ reuseForLoopback).map (·.destination) =
      some (.v4 0x7F000001 8080) := by decide
  have before : ((after reuseForLoopback).held.get? ⟨7, 3⟩).map (·.destination) =
      some (.v4 0x0A000009 80) := by decide
  rw [latest, Option.map_some] at destination
  rw [held, Option.map_some, leads] at before
  cases destination.symm.trans before

end Attribution.Tracker
