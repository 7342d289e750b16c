import Attribution.Proofs.Registry.Places
import Attribution.Proofs.System.Basic

/-!
What it takes for a process that did not move to be left in peace.

When a service's process opens a connection or listens, its cgroup is read again and compared with
the one its container was first seen in.  A service can have processes in several cgroups, so a
process that has stayed in its own can still be taken for one that moved: it leaves its container and
is placed anew.  Main statement: exactly when that goes unnoticed.
-/

namespace Attribution

open Kernel (Pid)

namespace Registry

/-- Processes keep their places and the indices lead where they led, and the process of an event
keeps what it holds on other descriptors. -/
structure Undisturbed (registry next : Registry) (event : Event) : Prop where
  places : registry.SamePlaces next
  sockets : ∀ {number fd connection}, fd ≠ event.fd →
    registry.held? number ⟨event.pid, fd⟩ = some connection →
    next.held? number ⟨event.pid, fd⟩ = some connection

/-- An event moves its process, as far as the registry can tell. -/
def Moves (registry : Registry) (sources : Sources) (event : Event) (now : Instant) : Prop :=
  event.rechecks = true ∧ (event.act? now).isSome = true ∧
    registry.isElsewhere sources event.pid = true

variable {sources : Sources} {registry : Registry} {pid : Pid} {number : Nat} {event : Event}
  {now : Instant} {id : String}

theorem Consistent.prepare_of_ne (consistent : registry.Consistent) (another : event.pid ≠ pid)
    (mapped : registry.byPid.get? pid = some (.mapped number))
    (found : registry.byCgroup.get? id = some number) (sources : Sources) (now : Instant) :
    (registry.prepare sources event now).byPid.get? pid = some (.mapped number) ∧
      (registry.prepare sources event now).byCgroup.get? id = some number := by
  have hosts := consistent.mapped_iff_hosts.1 mapped
  have mappedExit : (registry.exit event.pid now).byPid.get? pid = some (.mapped number) := by
    rw [byPid_exit, if_neg another.symm, mapped]
  have foundExit : (registry.exit event.pid now).byCgroup.get? id = some number :=
    byCgroup_exit found hosts another.symm
  have preparation := prepare_preparation sources registry event now
  generalize registry.prepare sources event now = next at preparation ⊢
  cases preparation with
  | idle => exact ⟨mapped, found⟩
  | starts =>
    rw [byPid_start_of_ne another.symm]
    exact ⟨mapped, byCgroup_start found sources event.pid⟩
  | exits kind => exact ⟨mappedExit, foundExit⟩
  | moves asks speaks elsewhere =>
    rw [byPid_start_of_ne another.symm]
    exact ⟨mappedExit, byCgroup_start foundExit sources.later event.pid⟩

theorem prepare_of_unmoved (mapped : registry.byPid.get? event.pid = some (.mapped number))
    (stays : ¬registry.Moves sources event now) (remains : event.kind ≠ .processExit) :
    registry.prepare sources event now = registry := by
  have preparation := prepare_preparation sources registry event now
  generalize registry.prepare sources event now = next at preparation ⊢
  cases preparation with
  | idle => rfl
  | starts => exact start_eq_of_known mapped
  | exits kind => exact absurd kind remains
  | moves asks speaks elsewhere => exact absurd ⟨asks, speaks, elsewhere⟩ stays

theorem Consistent.leads_of_first (consistent : registry.Consistent)
    (unknown : registry.byPid.get? event.pid = none) {cgroup : Cgroup}
    (read : sources.cgroupOf event.pid = .ok cgroup)
    (mapped : (registry.handle sources event now).byPid.get? event.pid = some (.mapped number)) :
    (registry.handle sources event now).byCgroup.get? cgroup.id = some number := by
  have same := samePlaces_handle sources registry event now
  rw [same.byPid] at mapped
  rw [same.byCgroup]
  have preparation := prepare_preparation sources registry event now
  generalize registry.prepare sources event now = next at preparation mapped ⊢
  cases preparation with
  | idle =>
    rw [unknown] at mapped
    cases mapped
  | starts =>
    obtain ⟨⟨_, again, leads⟩, _⟩ := consistent.placed_start unknown mapped
    rw [read] at again
    cases again
    exact leads
  | exits kind =>
    rw [byPid_exit, if_pos rfl] at mapped
    cases mapped
  | moves asks speaks elsewhere => simp [isElsewhere, containerOf?, unknown] at elsewhere

theorem Consistent.leads_of_again (consistent : registry.Consistent)
    (moves : registry.Moves sources event now) {cgroup : Cgroup}
    (read : sources.cgroupAgain event.pid = .ok cgroup)
    (mapped : (registry.handle sources event now).byPid.get? event.pid = some (.mapped number)) :
    (registry.handle sources event now).byCgroup.get? cgroup.id = some number := by
  have same := samePlaces_handle sources registry event now
  rw [same.byPid] at mapped
  rw [same.byCgroup]
  rw [prepare_of_rechecks moves.1 moves.2.1, if_pos moves.2.2] at mapped ⊢
  obtain ⟨⟨_, found, leads⟩, _⟩ :=
    (consistent.exit event.pid now).placed_start byPid_exit_self mapped
  cases read.symm.trans found
  exact leads

theorem Consistent.leads_of_unmoved (consistent : registry.Consistent)
    (mapped : registry.byPid.get? pid = some (.mapped number))
    (found : registry.byCgroup.get? id = some number)
    (unmoved : event.pid = pid → ¬registry.Moves sources event now)
    (placed : ((registry.handle sources event now).containerOf? pid).isSome = true) :
    (registry.handle sources event now).byPid.get? pid = some (.mapped number) ∧
      (registry.handle sources event now).byCgroup.get? id = some number := by
  have same := samePlaces_handle sources registry event now
  rw [same.byPid, same.byCgroup]
  by_cases own : event.pid = pid
  · subst own
    have remains : event.kind ≠ .processExit := by
      intro kind
      obtain ⟨_, kept⟩ := Option.isSome_iff_exists.1 placed
      rw [containerOf?_eq_some_iff, same.byPid, prepare_of_exit kind, byPid_exit_self] at kept
      cases kept
    rw [prepare_of_unmoved mapped (unmoved rfl) remains]
    exact ⟨mapped, found⟩
  · exact consistent.prepare_of_ne own mapped found sources now

theorem undisturbed_of_prepare (still : registry.prepare sources event now = registry) :
    Undisturbed registry (registry.handle sources event now) event where
  places := by
    have same := samePlaces_handle sources registry event now
    rw [still] at same
    exact same
  sockets := by
    intro n fd connection other holds
    have another : (⟨event.pid, fd⟩ : Socket) ≠ event.socket :=
      fun same => other (congrArg Socket.fd same)
    rw [handle_eq, still, held?_record_of_ne another, holds]

/-- A process that is taken out of its container and put back loses what it held; and if it was the
only one there, it is not put back. -/
theorem Orderly.undisturbed_moves_iff (orderly : registry.Orderly)
    (mapped : registry.byPid.get? event.pid = some (.mapped number))
    (moves : registry.Moves sources event now) {cgroup : Cgroup}
    (again : sources.cgroupAgain event.pid = .ok cgroup)
    (leads : registry.byCgroup.get? cgroup.id = some number) :
    Undisturbed registry (registry.handle sources event now) event ↔
      (∃ other, registry.Hosts number other ∧ other ≠ event.pid) ∧
        ∀ fd, fd ≠ event.fd → registry.held? number ⟨event.pid, fd⟩ = none := by
  have same := samePlaces_handle sources registry event now
  have moved : registry.prepare sources event now =
      (registry.exit event.pid now).start sources.later event.pid := by
    rw [prepare_of_rechecks moves.1 moves.2.1, if_pos moves.2.2]
  constructor
  · intro undisturbed
    constructor
    · by_contra none
      have alone (other : Pid) (hosts : registry.Hosts number other) : other = event.pid := by
        by_contra another
        exact none ⟨other, hosts, another⟩
      -- The container was retired, and its number is not given again.
      have back := undisturbed.places.byPid event.pid
      rw [mapped, same.byPid, moved] at back
      obtain ⟨_, indexed | new⟩ := (orderly.toConsistent.exit event.pid now).placed_start byPid_exit_self back
      · exact orderly.not_indexed_exit alone indexed
      · rw [length_exit] at new
        exact absurd new (Nat.ne_of_lt (lt_of_hosts (orderly.mapped_iff_hosts.1 mapped)))
    · intro fd other
      cases holds : registry.held? number ⟨event.pid, fd⟩ with
      | none => rfl
      | some connection =>
        have another : (⟨event.pid, fd⟩ : Socket) ≠ event.socket :=
          fun same => other (congrArg Socket.fd same)
        have remains := undisturbed.sockets other holds
        rw [handle_eq, moved, held?_record_of_ne another, held?_start, held?_exit,
          if_pos ⟨mapped, rfl⟩] at remains
        cases remains
  · rintro ⟨others, free⟩
    have read : sources.later.cgroupOf event.pid = .ok cgroup := again
    have rejoined : (registry.exit event.pid now).start sources.later event.pid =
        (registry.leaving event.pid number now).attach event.pid number :=
      exit_start_eq mapped others read leads
    constructor
    · rw [moved, rejoined] at same
      exact (orderly.samePlaces_rejoin mapped now).trans same
    · intro n fd connection other holds
      have here := orderly.hosts_unique (orderly.mapped_iff_hosts.1 mapped) (orderly.owned holds)
      rw [here, free fd other] at holds
      cases holds

end Registry

namespace System

variable {steps : List Step} {pid : Pid} {id : String}

/-- In the course of a run a process was placed in its container, lastly by the cgroup `id`. -/
inductive PlacedBy (pid : Pid) : String → List Step → Prop where
  | first {steps : List Step} {sources : Sources} {event : Event} {now : Instant} {cgroup : Cgroup}
      (own : event.pid = pid) (unknown : (after steps).registry.byPid.get? pid = none)
      (read : sources.cgroupOf pid = .ok cgroup)
      (placed : ((after (steps ++ [.event sources event now])).registry.containerOf? pid).isSome = true) :
      PlacedBy pid cgroup.id (steps ++ [.event sources event now])
  | again {steps : List Step} {sources : Sources} {event : Event} {now : Instant} {cgroup : Cgroup}
      (own : event.pid = pid) (moves : (after steps).registry.Moves sources event now)
      (read : sources.cgroupAgain pid = .ok cgroup)
      (placed : ((after (steps ++ [.event sources event now])).registry.containerOf? pid).isSome = true) :
      PlacedBy pid cgroup.id (steps ++ [.event sources event now])
  | stays {id : String} {steps : List Step} {step : Step} (before : PlacedBy pid id steps)
      (unmoved : ∀ sources event now, step = .event sources event now → event.pid = pid →
        ¬(after steps).registry.Moves sources event now)
      (placed : ((after (steps ++ [step])).registry.containerOf? pid).isSome = true) :
      PlacedBy pid id (steps ++ [step])

theorem PlacedBy.leads (placed : PlacedBy pid id steps) :
    ∃ number, (after steps).registry.byPid.get? pid = some (.mapped number) ∧
      (after steps).registry.byCgroup.get? id = some number := by
  have present {steps : List Step}
      (placed : ((after steps).registry.containerOf? pid).isSome = true) :
      ∃ number, (after steps).registry.byPid.get? pid = some (.mapped number) := by
    obtain ⟨number, mapped⟩ := Option.isSome_iff_exists.1 placed
    exact ⟨number, Registry.containerOf?_eq_some_iff.1 mapped⟩
  induction placed with
  | @first steps sources event now cgroup own unknown read placed =>
    subst own
    obtain ⟨number, mapped⟩ := present placed
    refine ⟨number, mapped, ?_⟩
    rw [after_snoc] at mapped ⊢
    exact (orderly_after steps).leads_of_first unknown read mapped
  | @again steps sources event now cgroup own moves read placed =>
    subst own
    obtain ⟨number, mapped⟩ := present placed
    refine ⟨number, mapped, ?_⟩
    rw [after_snoc] at mapped ⊢
    exact (orderly_after steps).leads_of_again moves read mapped
  | @stays id steps step before unmoved placed ih =>
    obtain ⟨number, mapped, found⟩ := ih
    refine ⟨number, ?_⟩
    rw [after_snoc] at placed ⊢
    by_cases silent : ∀ sources event now, step ≠ .event sources event now
    · have same := samePlaces_perform (after steps) silent
      rw [same.byPid, same.byCgroup]
      exact ⟨mapped, found⟩
    · simp only [ne_eq, not_forall, not_not] at silent
      obtain ⟨sources, event, now, rfl⟩ := silent
      exact (orderly_after steps).leads_of_unmoved mapped found (unmoved sources event now rfl) placed

/-- A service's process that is still in the cgroup by which it was placed is left in peace exactly
when this is the cgroup its container was first seen in, or when others are in the container and the
process holds nothing on other descriptors. -/
theorem undisturbed_iff {steps : List Step} {id : String} {number : Nat} {container : Container}
    {sources : Sources} {event : Event} {now : Instant} {cgroup again : Cgroup}
    (placed : PlacedBy event.pid id steps)
    (mapped : (after steps).registry.containerOf? event.pid = some number)
    (here : (after steps).registry.container? number = some container)
    (service : container.cgroup.kind = .systemd) (asks : event.rechecks = true)
    (read : sources.cgroupOf event.pid = .ok cgroup) (same : cgroup.id = id)
    (readAgain : sources.cgroupAgain event.pid = .ok again) (sameAgain : again.id = id) :
    ((after steps).registry.Undisturbed ((after steps).registry.handle sources event now) event) ↔
      ((event.act? now).isSome = true → id = container.cgroup.id ∨
        (∃ other, other ∈ container.pids ∧ other ≠ event.pid) ∧
          ∀ fd, fd ≠ event.fd → (after steps).registry.held? number ⟨event.pid, fd⟩ = none) := by
  obtain ⟨n, mappedHere, leads⟩ := placed.leads
  rw [Registry.containerOf?_eq_some_iff, mappedHere] at mapped
  cases mapped
  have orderly := orderly_after steps
  have elsewhere := Registry.isElsewhere_iff mappedHere here service read
  by_cases moves : (after steps).registry.Moves sources event now
  · have hosts (other : Pid) : (after steps).registry.Hosts number other ↔ other ∈ container.pids := by
      simp [Registry.Hosts, here]
    have away : id ≠ container.cgroup.id := same ▸ elsewhere.1 moves.2.2
    rw [orderly.undisturbed_moves_iff mappedHere moves readAgain (sameAgain ▸ leads)]
    simp only [hosts, moves.2.1, away, false_or, forall_const]
  · have remains : event.kind ≠ .processExit := by
      intro kind
      simp [Event.rechecks, kind] at asks
    have still := Registry.undisturbed_of_prepare (Registry.prepare_of_unmoved mappedHere moves remains)
    simp only [still, true_iff]
    intro speaks
    by_contra unfit
    refine moves ⟨asks, speaks, elsewhere.2 ?_⟩
    rintro own
    exact unfit (.inl (same.symm.trans own))

/-! ### A service with two cgroups -/

/-- The service runs in a cgroup of its own, process 101 in one below it. -/
def serviceSources : Sources where
  cgroupOf pid := .ok ⟨if pid = 100 then "/system.slice/nginx.service" else "/system.slice/nginx.service/worker",
    .v2, .systemd, "/system.slice/nginx.service", .empty⟩
  metadataOf _ := .ok .empty

def workerOpens (fd timestamp : UInt64) (port : UInt16) : Event :=
  ⟨.connectionOpen, .none, 101, fd, timestamp, some (.v4 0x0A000002 port), some (.v4 0x0A000009 80), none⟩

/-- Both processes are seen; they belong to one service. -/
def serviceStarts : List Step :=
  [.event serviceSources (.start 100) 0, .event serviceSources (.start 101) 0]

/-- The second process opens a connection. -/
def workerStarts : List Step :=
  serviceStarts ++ [.event serviceSources (workerOpens 3 1 40000) 0]

theorem workerStarts_placedBy : PlacedBy 101 "/system.slice/nginx.service/worker" workerStarts := by
  have moves : (after serviceStarts).registry.Moves serviceSources (workerOpens 3 1 40000) 0 :=
    ⟨rfl, rfl, by decide⟩
  have placed : ((after workerStarts).registry.containerOf? 101).isSome = true := by decide
  exact .again rfl moves rfl placed

theorem workerStarts_isSome : ((after workerStarts).registry.container? 0).isSome = true := by decide

theorem worker_disturbed :
    ¬(after workerStarts).registry.Undisturbed
      ((after workerStarts).registry.handle serviceSources (workerOpens 4 2 40001) 0)
      (workerOpens 4 2 40001) := by
  have here := (Option.some_get workerStarts_isSome).symm
  rw [undisturbed_iff workerStarts_placedBy (by decide) here (by decide) rfl rfl rfl rfl rfl]
  intro enough
  rcases enough rfl with first | ⟨_, free⟩
  · exact absurd first (by decide)
  · exact absurd (free 3 (by decide)) (by decide)

/-- A process that did not move can lose a connection by opening another. -/
theorem not_always_undisturbed :
    ¬∀ (steps : List Step) (id : String) (number : Nat) (container : Container) (sources : Sources)
      (event : Event) (now : Instant) (cgroup again : Cgroup),
      PlacedBy event.pid id steps → (after steps).registry.containerOf? event.pid = some number →
      (after steps).registry.container? number = some container → container.cgroup.kind = .systemd →
      event.rechecks = true → sources.cgroupOf event.pid = .ok cgroup → cgroup.id = id →
      sources.cgroupAgain event.pid = .ok again → again.id = id →
      (after steps).registry.Undisturbed ((after steps).registry.handle sources event now) event := by
  intro always
  have here := (Option.some_get workerStarts_isSome).symm
  have undisturbed := always workerStarts _ 0 _ serviceSources (workerOpens 4 2 40001) 0 _ _
    workerStarts_placedBy (by decide) here (by decide) rfl rfl rfl rfl rfl
  have held : ((after workerStarts).registry.held? 0 ⟨101, 3⟩).isSome = true := by decide
  obtain ⟨connection, holds⟩ := Option.isSome_iff_exists.1 held
  have remains := undisturbed.sockets (by decide) holds
  have gone : ((after workerStarts).registry.handle serviceSources (workerOpens 4 2 40001) 0).held? 0
      ⟨101, 3⟩ = none := by decide
  cases gone.symm.trans remains

end System

end Attribution
