import Attribution.Proofs.Registry.Places
import Attribution.Proofs.System.Interruption

/-!
What an event leaves to other processes.

Processes share containers, trackers and cgroups, and an event can make its own process leave, move, or
take its container out of the indices.  Main statement: whatever an event does, every other process
stays where it was, holds what it held, and is found where it was found.
-/

namespace Attribution

open Kernel (Pid)

namespace Registry

/-- What a change of the registry leaves to a process: its place, what its sockets hold, and the names
under which its container is found. -/
structure Untouched (registry next : Registry) (pid : Pid) : Prop where
  place : next.byPid.get? pid = registry.byPid.get? pid
  member : ∀ number, next.Hosts number pid ↔ registry.Hosts number pid
  sockets : ∀ number fd, next.held? number ⟨pid, fd⟩ = registry.held? number ⟨pid, fd⟩
  named : ∀ number identity, registry.Hosts number pid →
    registry.byIdentity.get? identity = some number → next.byIdentity.get? identity = some number
  reached : ∀ number id, registry.Hosts number pid →
    registry.byCgroup.get? id = some number → next.byCgroup.get? id = some number

variable {sources : Sources} {registry : Registry} {pid other : Pid} {event : Event} {now : Instant}

theorem Untouched.refl (registry : Registry) (pid : Pid) : registry.Untouched registry pid :=
  ⟨rfl, fun _ => Iff.rfl, fun _ _ => rfl, fun _ _ _ found => found, fun _ _ _ found => found⟩

theorem Untouched.trans {middle last : Registry} (first : registry.Untouched middle pid)
    (second : middle.Untouched last pid) : registry.Untouched last pid where
  place := second.place.trans first.place
  member number := (second.member number).trans (first.member number)
  sockets number fd := (second.sockets number fd).trans (first.sockets number fd)
  named number identity hosts found :=
    second.named number identity ((first.member number).2 hosts) (first.named number identity hosts found)
  reached number id hosts found :=
    second.reached number id ((first.member number).2 hosts) (first.reached number id hosts found)

theorem untouched_start (another : other ≠ pid) (sources : Sources) :
    registry.Untouched (registry.start sources pid) other where
  place := byPid_start_of_ne another
  member _ := hosts_start_of_ne another
  sockets number fd := held?_start sources registry pid number ⟨other, fd⟩
  named _ _ _ found := byIdentity_start found sources pid
  reached _ _ _ found := byCgroup_start found sources pid

theorem Consistent.untouched_exit (consistent : registry.Consistent) (another : other ≠ pid)
    (now : Instant) : registry.Untouched (registry.exit pid now) other where
  place := by rw [byPid_exit, if_neg another]
  member _ := ⟨hosts_of_exit, fun hosts => hosts_exit hosts another⟩
  sockets number _ := by
    rw [held?_exit, if_neg]
    exact fun own => another own.2
  named _ _ hosts found := consistent.byIdentity_exit found hosts another
  reached _ _ hosts found := byCgroup_exit found hosts another

theorem untouched_record (another : other ≠ event.pid) (now : Instant) :
    registry.Untouched (registry.record event now) other where
  place := (samePlaces_record registry event now).byPid other
  member number := (samePlaces_record registry event now).hosts number other
  sockets number _ := held?_record_of_ne (fun same => another (congrArg Socket.pid same)) number
  named _ identity _ found := ((samePlaces_record registry event now).byIdentity identity).trans found
  reached _ id _ found := ((samePlaces_record registry event now).byCgroup id).trans found

theorem Consistent.untouched_prepare (consistent : registry.Consistent) (another : other ≠ event.pid)
    (sources : Sources) (now : Instant) :
    registry.Untouched (registry.prepare sources event now) other := by
  have preparation := prepare_preparation sources registry event now
  generalize registry.prepare sources event now = next at preparation ⊢
  cases preparation with
  | idle => exact .refl registry other
  | starts => exact untouched_start another sources
  | exits kind => exact consistent.untouched_exit another now
  | moves asks speaks elsewhere =>
    exact (consistent.untouched_exit another now).trans (untouched_start another sources.later)

end Registry

namespace Tasks

/-- Whatever an event does to its own process, at whatever moment it comes, every other process stays
known, ignored or unknown as it was and in the containers it was in, its sockets hold what they held in
every container, and its container is found under the same identity and cgroups. -/
theorem others_untouched (moves : List Move) (sources : Sources) (event : Event) (now : Instant) (pid : Pid)
    (another : pid ≠ event.pid) :
    (after moves).registry.Untouched ((after moves).registry.handle sources event now) pid := by
  rw [Registry.handle_eq]
  have prepared := (orderly_after moves).toConsistent.untouched_prepare another sources now
  exact prepared.trans (Registry.untouched_record another now)

/-! ### A process that moves away from another -/

def serviceOf (unit : String) : Sources where
  cgroupOf _ := .ok ⟨unit, .v2, .systemd, unit, .empty⟩
  metadataOf _ := .ok .empty

def opensAt (pid : Pid) (port : UInt16) : Event :=
  ⟨.connectionOpen, .none, pid, 3, 1, some (.v4 0x0A000002 port), some (.v4 0x0A000009 80), none⟩

/-- Two processes of one service have a connection each. -/
def sharing : List Move :=
  [.begin (serviceOf "/system.slice/nginx.service") (opensAt 100 40000) 0, .proceed,
    .begin (serviceOf "/system.slice/nginx.service") (opensAt 101 40001) 0, .proceed]

/-- The second one is found in another service when it opens its next connection. -/
theorem mover_leaves_neighbour :
    let next := (after sharing).registry.handle (serviceOf "/system.slice/cron.service") (opensAt 101 40002) 1
    (100 : Pid) ≠ (opensAt 101 40002).pid ∧ next.containerOf? 101 = some 1 ∧
      next.byPid.get? 100 = some (.mapped 0) ∧ (next.held? 0 ⟨100, 3⟩).isSome = true := by
  intro next
  have another : (100 : Pid) ≠ (opensAt 101 40002).pid := by decide
  have untouched : (after sharing).registry.Untouched next 100 :=
    others_untouched sharing (serviceOf "/system.slice/cron.service") (opensAt 101 40002) 1 100 another
  refine ⟨another, by decide, ?_, ?_⟩
  · rw [untouched.place]
    decide
  · rw [untouched.sockets 0 3]
    decide

end Tasks

end Attribution
