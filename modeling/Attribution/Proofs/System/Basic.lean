import Attribution.Proofs.Registry.Founding
import Attribution.Proofs.Registry.Ownership

/-!
The registry and the resolver of destinations side by side.

The registry takes events in and forgets old connections; the resolver takes a batch of requests from
the queue, asks for all their destinations at once, and then applies one answer after the other.
Their steps interleave in any order, so an answer can come when much has happened since its request.
-/

namespace Attribution

/-- The registry, and what the resolver has in hand. -/
structure System where
  registry : Registry
  /-- Answers that are still to be applied, each with its request. -/
  answers : List (NatRequest × Option Address)
  /-- Every answer ever given, with the flow that was asked for. -/
  told : List (Flow × Option Address)

namespace System

/-- A step of either of the two.  The processes, the runtime and the kernel's table can be others at
every step. -/
inductive Step where
  | event (sources : Sources) (event : Event) (now : Instant)
  | purge (now ttl : Instant)
  /-- The resolver takes up to `count` requests and asks for their destinations. -/
  | take (count : Nat) (conntrack : Conntrack)
  /-- The resolver applies its next answer. -/
  | deliver

/-- Requests leave the queue with the answers they get. -/
def takeBatch (system : System) (count : Nat) (conntrack : Conntrack) : System :=
  let requests := system.registry.queue.take (min count Registry.batchLimit)
  let flows := requests.map (·.flow)
  { registry := { system.registry with queue := system.registry.queue.drop requests.length }
    answers := requests.zip (conntrack flows)
    told := system.told ++ flows.zip (conntrack flows) }

def perform (system : System) : Step → System
  | .event sources event now =>
    { system with registry := system.registry.handle sources event now }
  | .purge now ttl => { system with registry := system.registry.purge now ttl }
  | .take count conntrack =>
    -- A batch is done with before the next one is taken.
    match system.answers with
    | [] => system.takeBatch count conntrack
    | _ :: _ => system
  | .deliver =>
    match system.answers with
    | [] => system
    | (request, answer) :: rest =>
      { system with registry := (system.registry.applyAnswer request answer).1, answers := rest }

def empty : System :=
  ⟨.empty, [], []⟩

/-- What a run leads to, from a registry that knows nothing. -/
def after (steps : List Step) : System :=
  steps.foldl perform empty

theorem after_snoc (steps : List Step) (step : Step) :
    after (steps ++ [step]) = (after steps).perform step := by
  simp [after]

/-! ### Whole batches -/

/-- A run in which the registry takes no event in. -/
def Eventless (steps : List Step) : Prop :=
  ∀ sources event now, Step.event sources event now ∉ steps

/-- Steps without an event lead from one state of the two to another. -/
def LeadsTo (system next : System) : Prop :=
  ∃ steps : List Step, Eventless steps ∧ steps.foldl perform system = next

theorem LeadsTo.refl (system : System) : system.LeadsTo system :=
  ⟨[], fun _ _ _ => List.not_mem_nil, rfl⟩

theorem LeadsTo.trans {system middle last : System} (first : system.LeadsTo middle)
    (second : middle.LeadsTo last) : system.LeadsTo last := by
  obtain ⟨steps, quiet, rfl⟩ := first
  obtain ⟨more, silent, rfl⟩ := second
  refine ⟨steps ++ more, ?_, List.foldl_append⟩
  intro sources event now listed
  rcases List.mem_append.1 listed with here | there
  · exact quiet sources event now here
  · exact silent sources event now there

variable {registry : Registry} {told : List (Flow × Option Address)}

theorem leadsTo_take (system : System) (count : Nat) (conntrack : Conntrack) :
    system.LeadsTo (system.perform (.take count conntrack)) :=
  ⟨[.take count conntrack], by simp [Eventless], rfl⟩

theorem leadsTo_deliver (system : System) : system.LeadsTo (system.perform .deliver) :=
  ⟨[.deliver], by simp [Eventless], rfl⟩

theorem deliver_all (answers : List (NatRequest × Option Address)) :
    LeadsTo ⟨registry, answers, told⟩ ⟨(registry.applyAnswers answers).1, [], told⟩ := by
  induction answers generalizing registry with
  | nil => exact .refl _
  | cons first rest ih =>
    obtain ⟨request, answer⟩ := first
    exact (leadsTo_deliver _).trans ih

theorem resolve_at_once (registry : Registry) (told : List (Flow × Option Address)) (count : Nat)
    (conntrack : Conntrack) :
    let requests := registry.queue.take (min count Registry.batchLimit)
    ∃ answers, LeadsTo ⟨registry, [], told⟩ ⟨(Registry.resolveBatch conntrack
      { registry with queue := registry.queue.drop requests.length } requests).1, [], answers⟩ := by
  intro requests
  exact ⟨_, (leadsTo_take _ count conntrack).trans (deliver_all _)⟩

theorem applyAnswers_withQueue (answers : List (NatRequest × Option Address)) (registry : Registry)
    (queue : List NatRequest) :
    (Registry.applyAnswers { registry with queue := queue } answers).1 =
      { (registry.applyAnswers answers).1 with queue := queue } := by
  induction answers generalizing registry with
  | nil => rfl
  | cons first rest ih =>
    obtain ⟨request, answer⟩ := first
    have same : (Registry.applyAnswer { registry with queue := queue } request answer).1 =
        { (registry.applyAnswer request answer).1 with queue := queue } := by
      unfold Registry.applyAnswer
      split
      · rfl
      · split <;> rfl
    have whole (registry : Registry) : (registry.applyAnswers ((request, answer) :: rest)).1 =
        ((registry.applyAnswer request answer).1.applyAnswers rest).1 := rfl
    rw [whole, whole, same, ih]

theorem drop_length_take {α : Type} (limit : Nat) (items : List α) :
    items.drop (items.take limit).length = items.drop limit := by
  rw [List.length_take]
  rcases Nat.le_total limit items.length with fits | short
  · rw [Nat.min_eq_left fits]
  · rw [Nat.min_eq_right short, List.drop_length, List.drop_eq_nil_of_le short]

theorem batches_lead (conntrack : Conntrack) (fuel : Nat) (waiting : List NatRequest)
    (enough : waiting.length ≤ fuel) (registry : Registry) (told : List (Flow × Option Address)) :
    ∃ answers, LeadsTo ⟨{ registry with queue := waiting }, [], told⟩
      ⟨(Registry.batches Registry.batchLimit fuel waiting).foldl
        (fun registry requests => (registry.resolveBatch conntrack requests).1)
        { registry with queue := [] }, [], answers⟩ := by
  induction fuel generalizing waiting registry told with
  | zero =>
    rw [List.length_eq_zero_iff.1 (Nat.le_zero.1 enough)]
    exact ⟨told, .refl _⟩
  | succ fuel ih =>
    cases waiting with
    | nil => exact ⟨told, .refl _⟩
    | cons item rest =>
      let requests := (item :: rest).take Registry.batchLimit
      let left := (item :: rest).drop Registry.batchLimit
      let next := (Registry.resolveBatch conntrack { registry with queue := [] } requests).1
      -- Answers do not look at the queue, so what waits can be put aside meanwhile.
      have resolved (queue : List NatRequest) :
          (Registry.resolveBatch conntrack { registry with queue := queue } requests).1 =
            { next with queue := queue } :=
        applyAnswers_withQueue _ { registry with queue := [] } queue
      obtain ⟨answers, first⟩ := resolve_at_once { registry with queue := item :: rest } told
        Registry.batchLimit conntrack
      rw [Nat.min_self] at first
      simp only [drop_length_take] at first
      have shorter : left.length ≤ fuel := by
        simp only [left, List.length_drop, List.length_cons, Registry.batchLimit] at enough ⊢
        omega
      obtain ⟨more, others⟩ := ih left shorter next answers
      refine ⟨more, first.trans ?_⟩
      rw [resolved left]
      rw [← resolved []] at others
      exact others

theorem drain_leads (conntrack : Conntrack) (registry : Registry)
    (told : List (Flow × Option Address)) :
    ∃ answers, LeadsTo ⟨registry, [], told⟩ ⟨registry.drain conntrack, [], answers⟩ :=
  batches_lead conntrack registry.queue.length registry.queue (Nat.le_refl _) registry told

theorem foldl_events (sources : Sources) (events : List Event) (now : Instant) (system : System) :
    (events.map (Step.event sources · now)).foldl perform system =
      { system with registry := system.registry.handleAll sources events now } := by
  induction events generalizing system with
  | nil => rfl
  | cons event rest ih =>
    rw [List.map_cons, List.foldl_cons, ih]
    rfl

/-- Taking in all events and then answering all requests is one of the runs. -/
theorem run_reached (sources : Sources) (conntrack : Conntrack) (events : List Event) (now : Instant) :
    ∃ quiet told, Eventless quiet ∧ after (events.map (Step.event sources · now) ++ quiet) =
      ⟨Registry.run sources conntrack .empty events now, [], told⟩ := by
  obtain ⟨told, quiet, silent, drained⟩ := drain_leads conntrack (Registry.empty.handleAll sources events now) []
  refine ⟨quiet, told, silent, ?_⟩
  rw [after, List.foldl_append, foldl_events]
  exact drained

/-! ### Properties of the registry -/

theorem registry_induction {property : Registry → Prop} (start : property .empty)
    (handled : ∀ registry sources event now, property registry →
      property (registry.handle sources event now))
    (purged : ∀ registry now ttl, property registry → property (registry.purge now ttl))
    (answered : ∀ registry request answer, property registry →
      property (registry.applyAnswer request answer).1)
    (queued : ∀ (registry : Registry) queue, property registry →
      property { registry with queue := queue })
    (steps : List Step) : property (after steps).registry := by
  induction steps using List.reverseRecOn with
  | nil => exact start
  | append_singleton steps step ih =>
    rw [after_snoc]
    cases step with
    | event sources event now => exact handled _ sources event now ih
    | purge now ttl => exact purged _ now ttl ih
    | take count conntrack =>
      simp only [perform]
      split
      · exact queued _ _ ih
      · exact ih
    | deliver =>
      simp only [perform]
      split
      · exact ih
      · exact answered _ _ _ ih

theorem samePlaces_perform (system : System) {step : Step}
    (silent : ∀ sources event now, step ≠ .event sources event now) :
    system.registry.SamePlaces (system.perform step).registry := by
  cases step with
  | event sources event now => exact absurd rfl (silent sources event now)
  | purge now ttl => exact Registry.samePlaces_purge system.registry now ttl
  | take count conntrack =>
    simp only [perform]
    split <;> exact ⟨fun _ => rfl, fun _ => rfl, fun _ => rfl, fun _ _ => Iff.rfl⟩
  | deliver =>
    simp only [perform]
    split
    · exact .refl _
    · exact Registry.samePlaces_applyAnswer system.registry _ _

/-! ### Every container goes back to an event -/

/-- The event leads to the founding, by what its sources say at first or when they are read again. -/
inductive Founder (founding : Founding) : Step → Prop where
  | first {sources : Sources} {event : Event} {now : Instant} (founds : sources.Founds event.pid founding) :
      Founder founding (.event sources event now)
  | again {sources : Sources} {event : Event} {now : Instant}
      (founds : sources.later.Founds event.pid founding) : Founder founding (.event sources event now)

theorem foundings_perform (system : System) (step : Step) :
    ∃ more, (system.perform step).registry.foundings = system.registry.foundings ++ more ∧
      ∀ founding ∈ more, Founder founding step := by
  have unchanged {next : Registry} (same : next.foundings = system.registry.foundings) :
      ∃ more, next.foundings = system.registry.foundings ++ more ∧ ∀ founding ∈ more, Founder founding step :=
    ⟨[], by rw [same, List.append_nil], by simp⟩
  cases step with
  | event sources event now =>
    obtain ⟨more, grown, founded⟩ := Registry.foundings_handle sources system.registry event now
    refine ⟨more, grown, fun founding member => ?_⟩
    rcases founded founding member with first | again
    · exact .first first
    · exact .again again
  | purge now ttl => exact unchanged (Registry.foundings_purge system.registry now ttl)
  | take count conntrack =>
    simp only [perform]
    split <;> exact unchanged rfl
  | deliver =>
    simp only [perform]
    split
    · exact unchanged rfl
    · exact unchanged (Registry.foundings_applyAnswer system.registry _ _)

theorem founded_after (steps : List Step) :
    ∀ founding ∈ (after steps).registry.foundings, ∃ step ∈ steps, Founder founding step := by
  induction steps using List.reverseRecOn with
  | nil => simp [after, empty, Registry.foundings, Registry.empty]
  | append_singleton steps step ih =>
    intro founding member
    obtain ⟨more, grown, founded⟩ := foundings_perform (after steps) step
    rw [after_snoc, grown, List.mem_append] at member
    rcases member with before | new
    · obtain ⟨earlier, listed, founder⟩ := ih founding before
      exact ⟨earlier, List.mem_append_left _ listed, founder⟩
    · exact ⟨step, by simp, founded founding new⟩

/-! ### Indices -/

theorem orderly_after (steps : List Step) : (after steps).registry.Orderly :=
  registry_induction Registry.orderly_empty
    (fun _ sources event now orderly => orderly.handle sources event now)
    (fun _ now ttl orderly => orderly.purge now ttl)
    (fun _ request answer orderly => orderly.applyAnswer request answer)
    (fun _ queue orderly => orderly.withQueue queue) steps

/-- After every run the indices agree: a process is mapped to the container that lists it and to no
other, the containers in the indices are the same and have processes, and a container that has lost
its last process is found by nothing. -/
theorem indices_agree (steps : List Step) :
    let registry := (after steps).registry
    (∀ pid number, registry.byPid.get? pid = some (.mapped number) ↔ registry.Hosts number pid) ∧
      (∀ pid first second, registry.Hosts first pid → registry.Hosts second pid → first = second) ∧
      (∀ identity number, registry.byIdentity.get? identity = some number →
        ∃ container, registry.container? number = some container ∧ container.identity = identity ∧
          (∃ pid, pid ∈ container.pids) ∧
          registry.byCgroup.get? container.cgroup.id = some number) ∧
      (∀ cgroup number, registry.byCgroup.get? cgroup = some number → registry.Indexed number) ∧
      (∀ pid number, registry.byPid.get? pid = some (.mapped number) → registry.Indexed number) ∧
      ∀ number, (∀ pid, ¬registry.Hosts number pid) →
        (∀ pid, registry.byPid.get? pid ≠ some (.mapped number)) ∧
          (∀ identity, registry.byIdentity.get? identity ≠ some number) ∧
          ∀ cgroup, registry.byCgroup.get? cgroup ≠ some number := by
  intro registry
  have consistent : registry.Consistent := (orderly_after steps).toConsistent
  have deserted {number : Nat} (none : ∀ pid, ¬registry.Hosts number pid) :
      ¬registry.Indexed number := by
    intro indexed
    obtain ⟨pid, hosts⟩ := consistent.inhabited indexed
    exact none pid hosts
  refine ⟨fun _ _ => consistent.mapped_iff_hosts, ?_, ?_, fun _ _ => consistent.cgroup_indexed,
    fun _ _ mapped => consistent.hosts_indexed (consistent.mapped_iff_hosts.1 mapped), ?_⟩
  · intro pid first second here there
    exact consistent.hosts_unique there here
  · intro identity number found
    obtain ⟨container, here, own, cgroup⟩ := consistent.own_identity found
    obtain ⟨pid, other, there, member⟩ := consistent.inhabited ⟨identity, found⟩
    rw [here] at there
    cases there
    exact ⟨container, here, own, ⟨pid, member⟩, cgroup⟩
  · intro number none
    refine ⟨fun pid mapped => none pid (consistent.mapped_iff_hosts.1 mapped), ?_, ?_⟩
    · intro identity found
      exact deserted none ⟨identity, found⟩
    · intro cgroup found
      exact deserted none (consistent.cgroup_indexed found)

end System

end Attribution
