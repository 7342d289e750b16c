import Attribution.Proofs.Registry.Consistency
import Attribution.Proofs.Registry.Trackers

/-!
Sockets are held where their processes are.

A container holds a socket of a process only while the process is among its own.  A request still
under way names a container and a socket; what this says is that nothing but that socket's process in
that container can have opened the connection found there.
-/

namespace Attribution

open Kernel (Pid)

namespace Event

theorem placed_by_act {event : Event} {now : Instant} {act : Tracker.Act} {tracker : Tracker}
    {connection : Connection} (does : event.act? now = some act)
    (placed : tracker.placed? act = some connection) :
    ∃ flow, event.flow? = some flow ∧ connection = ⟨flow.source, flow.destination, flow.destination,
      event.pid, event.fd, event.timestamp, none⟩ := by
  cases act with
  | opened opening moment =>
    unfold act? at does
    split at does <;> cases does
    rename_i source destination kind fromSource toDestination
    simp only [Tracker.placed?, Option.ite_none_left_eq_some, Option.some.injEq] at placed
    obtain ⟨loud, rfl⟩ := placed
    refine ⟨⟨source, destination⟩, ?_, rfl⟩
    simp only [flow?, kind, fromSource, toDestination, if_neg loud]
  | redirect socket timestamp actual =>
    unfold act? at does
    split at does <;> cases does
  | _ => cases placed

theorem act?_of_flow? {event : Event} {flow : Flow} (opens : event.flow? = some flow) (now : Instant) :
    flow.destination.isLoopback = false ∧ event.act? now = some (.opened
      ⟨flow.source, flow.destination, flow.destination, event.pid, event.fd, event.timestamp⟩ now) := by
  unfold flow? at opens
  split at opens
  · rename_i source destination kind fromSource toDestination
    simp only [Option.ite_none_left_eq_some, Option.some.injEq] at opens
    obtain ⟨loud, rfl⟩ := opens
    exact ⟨by simpa using loud, by simp only [act?, kind, fromSource, toDestination]⟩
  · cases opens

theorem held_by_act {event : Event} {now : Instant} {act : Tracker.Act}
    (does : event.act? now = some act) {socket : Socket} (another : socket ≠ event.socket)
    (tracker : Tracker) : (tracker.perform act).held.get? socket = tracker.held.get? socket := by
  unfold act? at does
  split at does <;> cases does
  · rw [Tracker.perform, Tracker.held_opened, if_neg]
    exact fun own => another own.2
  · exact congrArg (·.get? socket) (Tracker.held_failedOpen tracker _ now)
  · rw [Tracker.perform, Tracker.held_close, if_neg]
    exact fun own => another own.1
  · rfl
  · rfl
  · rfl
  · exact congrArg (·.get? socket) (Tracker.held_requested tracker _ _ _)

end Event

namespace Registry

variable {sources : Sources} {registry : Registry} {pid : Pid} {number : Nat} {event : Event}
  {now : Instant}

def held? (registry : Registry) (number : Nat) (socket : Socket) : Option Connection :=
  (registry.tracker? number).bind (·.held.get? socket)

theorem held?_start (sources : Sources) (registry : Registry) (pid : Pid) (n : Nat) (socket : Socket) :
    (registry.start sources pid).held? n socket = registry.held? n socket := by
  unfold held?
  rcases tracker?_start sources registry pid n with same | ⟨none, new, _⟩
  · rw [same]
  · rw [none, new]
    rfl

theorem held?_exit (registry : Registry) (pid : Pid) (now : Instant) (n : Nat) (socket : Socket) :
    (registry.exit pid now).held? n socket =
      if registry.byPid.get? pid = some (.mapped n) ∧ socket.pid = pid then none
      else registry.held? n socket := by
  unfold held?
  rw [tracker?_exit]
  by_cases mapped : registry.byPid.get? pid = some (.mapped n)
  · simp only [mapped, if_true, true_and]
    cases registry.tracker? n with
    | none => simp
    | some tracker => exact Tracker.held_exit tracker pid now socket
  · simp [mapped]

theorem hosts_start {n : Nat} {other : Pid} (hosts : registry.Hosts n other) (sources : Sources)
    (pid : Pid) : (registry.start sources pid).Hosts n other := by
  have resolution := start_resolution sources registry pid
  generalize registry.start sources pid = next at resolution ⊢
  have noted (cgroup : Cgroup) : (registry.noteLookup cgroup).Hosts n other := by
    obtain ⟨_, noted⟩ := noteLookup_eq registry cgroup
    rw [noted]
    exact hosts
  cases resolution with
  | settled found => exact hosts
  | unreadable unknown read => exact hosts
  | known unknown read found => exact (hosts_attach n other).2 (.inl hosts)
  | unanswered unknown read fresh failed => exact noted _
  | untracked unknown read fresh answered nameless => exact noted _
  | joined unknown read fresh answered named found => exact (hosts_attach n other).2 (.inl (noted _))
  | created unknown read fresh answered named first =>
    exact (hosts_create _ _ _ n other).2 (.inl (noted _))

theorem hosts_exit {n : Nat} {other : Pid} (hosts : registry.Hosts n other) (another : other ≠ pid) :
    (registry.exit pid now).Hosts n other := by
  have departure := exit_departure registry pid now
  generalize registry.exit pid now = next at departure ⊢
  have left (number : Nat) : (registry.leaving pid number now).Hosts n other :=
    (hosts_leaving n other).2 ⟨hosts, fun same => another same.2⟩
  cases departure with
  | unknown absent => exact hosts
  | ignored found => exact hosts
  | remains found inhabited => exact left _
  | last found deserted => exact left _

/-- The indices agree, trackers are well kept, and a socket's process is where the socket is. -/
structure Orderly (registry : Registry) : Prop extends Consistent registry where
  kept : registry.Everywhere Tracker.WellKept
  owned : ∀ {number socket connection}, registry.held? number socket = some connection →
    registry.Hosts number socket.pid

theorem Orderly.held?_of_not_hosts (orderly : registry.Orderly) {socket : Socket}
    (absent : ¬registry.Hosts number socket.pid) : registry.held? number socket = none := by
  cases holds : registry.held? number socket with
  | none => rfl
  | some connection => exact absurd (orderly.owned holds) absent

theorem orderly_empty : empty.Orderly where
  toConsistent := consistent_empty
  kept _ _ found := by cases found
  owned found := by cases found

theorem Orderly.start (orderly : registry.Orderly) (sources : Sources) (pid : Pid) :
    (registry.start sources pid).Orderly where
  toConsistent := orderly.toConsistent.start sources pid
  kept := everywhere_start Tracker.wellKept_empty orderly.kept sources pid
  owned := by
    intro n socket connection found
    rw [held?_start] at found
    exact hosts_start (orderly.owned found) sources pid

theorem Orderly.exit (orderly : registry.Orderly) (pid : Pid) (now : Instant) :
    (registry.exit pid now).Orderly where
  toConsistent := orderly.toConsistent.exit pid now
  kept := everywhere_exit orderly.kept fun _ kept => Tracker.wellKept_perform kept _
  owned := by
    intro n socket connection found
    rw [held?_exit] at found
    split at found
    · cases found
    · rename_i stays
      have hosts := orderly.owned found
      apply hosts_exit hosts
      intro same
      exact stays ⟨orderly.mapped_iff_hosts.2 (same ▸ hosts), same⟩

theorem Orderly.prepare (orderly : registry.Orderly) (sources : Sources) (event : Event)
    (now : Instant) : (registry.prepare sources event now).Orderly := by
  have preparation := prepare_preparation sources registry event now
  generalize registry.prepare sources event now = next at preparation ⊢
  cases preparation with
  | idle => exact orderly
  | starts => exact orderly.start sources event.pid
  | exits kind => exact orderly.exit event.pid now
  | moves asks speaks elsewhere => exact (orderly.exit event.pid now).start sources.later event.pid

/-- What a socket holds after an event is what it held before or what the event has opened. -/
theorem Orderly.held?_record (orderly : registry.Orderly) {n : Nat} {socket : Socket}
    {connection : Connection} (found : (registry.record event now).held? n socket = some connection) :
    registry.held? n socket = some connection ∨
      ∃ flow, event.flow? = some flow ∧ socket = event.socket ∧
        registry.byPid.get? event.pid = some (.mapped n) ∧
        connection = ⟨flow.source, flow.destination, flow.destination, event.pid, event.fd,
          event.timestamp, none⟩ := by
  unfold held? at found ⊢
  rcases tracker?_record registry event now n with same | ⟨act, does, mapped, performed⟩
  · rw [same] at found
    exact .inl found
  · rw [performed] at found
    cases present : registry.tracker? n with
    | none =>
      rw [present] at found
      cases found
    | some tracker =>
      rw [present, Option.map_some, Option.bind_some] at found
      have kept := orderly.kept n tracker present
      rcases (Tracker.perform_effect kept act).held_some kept found with ⟨placed, own⟩ | before
      · obtain ⟨flow, opens, rfl⟩ := Event.placed_by_act does placed
        exact .inr ⟨flow, opens, own.symm, mapped, rfl⟩
      · exact .inl before

theorem held?_record_of_ne {socket : Socket} (another : socket ≠ event.socket) (n : Nat) :
    (registry.record event now).held? n socket = registry.held? n socket := by
  unfold held?
  rcases tracker?_record registry event now n with same | ⟨act, does, _, performed⟩
  · rw [same]
  · rw [performed]
    cases registry.tracker? n with
    | none => rfl
    | some tracker => exact Event.held_by_act does another tracker

theorem Orderly.record (orderly : registry.Orderly) (event : Event) (now : Instant) :
    (registry.record event now).Orderly where
  toConsistent := orderly.toConsistent.record event now
  kept := by
    intro n tracker found
    rcases tracker?_record registry event now n with same | ⟨act, _, _, performed⟩
    · exact orderly.kept n tracker (same ▸ found)
    · rw [performed, Option.map_eq_some_iff] at found
      obtain ⟨before, present, rfl⟩ := found
      exact Tracker.wellKept_perform (orderly.kept n before present) act
  owned := by
    intro n socket connection found
    rw [(samePlaces_record registry event now).hosts]
    rcases orderly.held?_record found with before | ⟨_, _, rfl, mapped, _⟩
    · exact orderly.owned before
    · exact orderly.mapped_iff_hosts.1 mapped

theorem Orderly.held?_applyAnswer (orderly : registry.Orderly) {request : NatRequest}
    {answer : Option Address} {n : Nat} {socket : Socket} {connection : Connection}
    (found : (registry.applyAnswer request answer).1.held? n socket = some connection) :
    ∃ before, registry.held? n socket = some before ∧ before.timestamp = connection.timestamp := by
  unfold held? at found ⊢
  rcases tracker?_applyAnswer registry request answer n with same | ⟨actual, _, _, performed⟩
  · rw [same] at found
    exact ⟨connection, found, rfl⟩
  · rw [performed] at found
    cases present : registry.tracker? n with
    | none =>
      rw [present] at found
      cases found
    | some tracker =>
      rw [present, Option.map_some, Option.bind_some] at found
      have kept := orderly.kept n tracker present
      rcases (Tracker.perform_effect kept _).held_some kept found with ⟨placed, own⟩ | before
      · simp only [Tracker.placed?, Tracker.movable?, Option.map_eq_some_iff,
          Option.filter_eq_some_iff] at placed
        obtain ⟨before, ⟨holds, _⟩, rfl⟩ := placed
        have same := kept.own holds
        exact ⟨before, by rw [Option.bind_some, ← own]; exact same ▸ holds, rfl⟩
      · exact ⟨connection, before, rfl⟩

theorem Orderly.applyAnswer (orderly : registry.Orderly) (request : NatRequest)
    (answer : Option Address) : (registry.applyAnswer request answer).1.Orderly where
  toConsistent := orderly.toConsistent.applyAnswer request answer
  kept := everywhere_applyAnswer (fun _ _ _ _ kept => Tracker.wellKept_perform kept _) orderly.kept
  owned := by
    intro n socket connection found
    obtain ⟨before, holds, _⟩ := orderly.held?_applyAnswer found
    rw [(samePlaces_applyAnswer registry request answer).hosts]
    exact orderly.owned holds

theorem Orderly.handle (orderly : registry.Orderly) (sources : Sources) (event : Event)
    (now : Instant) : (registry.handle sources event now).Orderly := by
  rw [handle_eq]
  exact (orderly.prepare sources event now).record event now

theorem held?_track_of_kept {update : Tracker → Tracker}
    (keeps : ∀ tracker, (update tracker).held = tracker.held) (n : Nat) (socket : Socket) :
    (registry.track number update).held? n socket = registry.held? n socket := by
  unfold held?
  rw [tracker?_track]
  split
  · cases registry.tracker? n with
    | none => rfl
    | some tracker => simp [keeps]
  · rfl

theorem held?_purge (registry : Registry) (now ttl : Instant) (n : Nat) (socket : Socket) :
    (registry.purge now ttl).held? n socket = registry.held? n socket :=
  purge_induction (·.held? n socket = registry.held? n socket) now ttl rfl fun _ _ same =>
    (held?_track_of_kept (fun tracker => tracker.held_purge now ttl) n socket).trans same

theorem Orderly.purge (orderly : registry.Orderly) (now ttl : Instant) :
    (registry.purge now ttl).Orderly where
  toConsistent := orderly.toConsistent.purge now ttl
  kept := everywhere_purge (fun _ kept => Tracker.wellKept_perform kept (.purge now ttl)) orderly.kept
  owned := by
    intro n socket connection found
    rw [held?_purge] at found
    rw [(samePlaces_purge registry now ttl).hosts]
    exact orderly.owned found

theorem Orderly.withQueue (orderly : registry.Orderly) (queue : List NatRequest) :
    Orderly { registry with queue := queue } where
  toConsistent := orderly.toConsistent.withQueue queue
  kept := orderly.kept
  owned := orderly.owned

end Registry

end Attribution
