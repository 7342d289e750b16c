import Attribution.Proofs.Registry.Outcome
import Attribution.Proofs.System.Neighbours

/-!
A process that really left its service.

Its cgroup leads neither to the container it is in nor to that container's name.  The move is an end and
a resolution afresh, and what the resolution comes to is told from the registry before the move.  Main
statement: the process is out of the old container with everything it held, and out of the indices with
it if it was the last one there; and it is where its cgroup leads, the event recorded there and nowhere
else, or recorded nowhere if its cgroup leads nowhere.
-/

namespace Attribution

open Kernel (Pid)

namespace Registry

variable {sources : Sources} {registry next : Registry} {pid : Pid} {number m : Nat} {event : Event}
  {now : Instant} {identity : Identity} {container : Container} {cgroup : Cgroup}

/-! ### Trackers when a process is placed -/

theorem tracker?_start_of_nowhere (nowhere : (registry.start sources pid).containerOf? pid = none) (n : Nat) :
    (registry.start sources pid).tracker? n = registry.tracker? n := by
  rcases tracker?_start sources registry pid n with same | ⟨-, -, mapped⟩
  · exact same
  · rw [containerOf?_eq_some_iff.2 mapped] at nowhere
    cases nowhere

theorem Consistent.tracker?_start_of_mapped (consistent : registry.Consistent)
    (mapped : (registry.start sources pid).byPid.get? pid = some (.mapped m)) (n : Nat) :
    (registry.start sources pid).tracker? n =
      if n = m then some ((registry.tracker? m).getD .empty) else registry.tracker? n := by
  rcases tracker?_start sources registry pid n with same | ⟨none, new, here⟩
  · rw [same]
    split
    · rename_i own
      subst own
      obtain ⟨container, found, _⟩ := (consistent.start sources pid).mapped_iff_hosts.1 mapped
      rw [← same, tracker?, found, Option.map_some, Option.getD_some]
    · rfl
  · cases mapped.symm.trans here
    rw [if_pos rfl, new, none, Option.getD_none]

/-! ### A process departs -/

/-- A process is out of a container, with everything it held there, and nothing leads to the container
any longer if the process was the last one in it. -/
structure Departed (registry next : Registry) (pid : Pid) (number : Nat) : Prop where
  member : ¬next.Hosts number pid
  sockets : ∀ fd, next.held? number ⟨pid, fd⟩ = none
  last : (∀ other, registry.Hosts number other → other = pid) →
    (∀ id, next.byCgroup.get? id ≠ some number) ∧
      (∀ identity, next.byIdentity.get? identity ≠ some number) ∧
      ∀ other, next.byPid.get? other ≠ some (.mapped number)

theorem Orderly.departed (orderly : registry.Orderly) (sources : Sources) (event : Event) (now : Instant)
    (away : (registry.handle sources event now).byPid.get? event.pid ≠ some (.mapped number)) :
    registry.Departed (registry.handle sources event now) event.pid number := by
  have after := orderly.handle sources event now
  have member : ¬(registry.handle sources event now).Hosts number event.pid :=
    fun hosts => away (after.mapped_iff_hosts.2 hosts)
  refine ⟨member, fun fd => after.held?_of_not_hosts member, ?_⟩
  intro alone
  have deserted : ¬(registry.handle sources event now).Indexed number := by
    intro indexed
    obtain ⟨other, hosts⟩ := after.inhabited indexed
    by_cases own : other = event.pid
    · exact member (own ▸ hosts)
    · have before := (orderly.untouched_prepare own sources now).trans (untouched_record own now)
      rw [handle_eq] at hosts
      exact own (alone other ((before.member number).1 hosts))
  exact ⟨fun _ found => deserted (after.cgroup_indexed found), fun identity found => deserted ⟨identity, found⟩,
    fun _ found => deserted (after.hosts_indexed (after.mapped_iff_hosts.1 found))⟩

/-! ### Where the process comes to -/

theorem byCgroup_exit_of_ne {id : String} (mapped : registry.byPid.get? pid = some (.mapped number))
    (another : registry.byCgroup.get? id ≠ some number) :
    (registry.exit pid now).byCgroup.get? id = registry.byCgroup.get? id := by
  have departure := exit_departure registry pid now
  generalize registry.exit pid now = next at departure ⊢
  cases departure with
  | unknown absent => rfl
  | ignored found => rfl
  | remains found inhabited => rfl
  | last found deserted =>
    rw [mapped] at found
    cases found
    rw [byCgroup_retire]
    change (registry.byCgroup.get? id).filter (· ≠ number) = registry.byCgroup.get? id
    cases leads : registry.byCgroup.get? id with
    | none => rfl
    | some n =>
      have other : n ≠ number := fun same => another (leads.trans (congrArg some same))
      simp [other]

/-- A cgroup that does not lead to the container comes to the same before and after its process has left. -/
theorem outcome_exit (mapped : registry.byPid.get? pid = some (.mapped number))
    (read : sources.cgroupOf pid = .ok cgroup) (still : sources.cgroupAgain pid = sources.cgroupOf pid)
    (another : registry.byCgroup.get? cgroup.id ≠ some number) :
    (registry.exit pid now).outcome sources.later pid = registry.outcome sources pid := by
  have names : (registry.exit pid now).name? = registry.name? := by
    funext n
    rw [name?_eq, name?_eq, foundings_exit]
  have again : sources.later.cgroupOf pid = .ok cgroup := still.trans read
  simp only [outcome, read, again, byCgroup_exit_of_ne mapped another, names]
  rfl

theorem Consistent.prepare_of_left (consistent : registry.Consistent)
    (mapped : registry.byPid.get? event.pid = some (.mapped number))
    (here : registry.container? number = some container) (service : container.cgroup.kind = .systemd)
    (asks : event.rechecks = true) (speaks : (event.act? now).isSome = true)
    (read : sources.cgroupOf event.pid = .ok cgroup)
    (another : registry.byCgroup.get? cgroup.id ≠ some number) :
    registry.prepare sources event now = (registry.exit event.pid now).start sources.later event.pid := by
  obtain ⟨identity, found⟩ := consistent.hosts_indexed (consistent.mapped_iff_hosts.1 mapped)
  obtain ⟨_, again, -, first⟩ := consistent.own_identity found
  cases here.symm.trans again
  have elsewhere : cgroup.id ≠ container.cgroup.id := by
    intro same
    exact another (same ▸ first)
  rw [prepare_of_rechecks asks speaks, if_pos ((isElsewhere_iff mapped here service read).2 elsewhere)]

/-! ### What is recorded -/

/-- The tracker of a container after a process of another one has ended. -/
def trackerLeft? (registry : Registry) (pid : Pid) (number : Nat) (now : Instant) (n : Nat) : Option Tracker :=
  if n = number then (registry.tracker? n).map (·.perform (.exit pid now)) else registry.tracker? n

def Listens (registry : Registry) (number : Nat) (address : Address) : Prop :=
  ∃ tracker, registry.tracker? number = some tracker ∧ address ∈ tracker.listens

/-- Nothing is recorded of an event, but that its process has left its container. -/
structure Unrecorded (registry next : Registry) (event : Event) (number : Nat) (now : Instant) : Prop where
  trackers : ∀ n, next.tracker? n = registry.trackerLeft? event.pid number now n
  queue : next.queue = registry.queue

/-- The container `m` takes note of an event and no other does; its process has left its container. -/
structure RecordedIn (registry next : Registry) (event : Event) (number m : Nat) (now : Instant) : Prop where
  trackers : ∀ act, event.act? now = some act → ∀ n, next.tracker? n =
    if n = m then some (((registry.tracker? m).getD .empty).perform act)
    else registry.trackerLeft? event.pid number now n
  opened : ∀ flow, event.flow? = some flow → ∀ n, next.held? n event.socket =
    if n = m then some ⟨flow.source, flow.destination, flow.destination, event.pid, event.fd, event.timestamp,
      none⟩
    else none
  listens : ∀ address, event.kind = .listenOpen → event.source = some address → ∀ n other,
    next.Listens n other ↔ registry.Listens n other ∨ n = m ∧ other = address
  requests : ∀ request ∈ next.queue, request ∈ registry.queue ∨ request.container = m

theorem tracker?_exit_eq (mapped : registry.byPid.get? pid = some (.mapped number)) (now : Instant) (n : Nat) :
    (registry.exit pid now).tracker? n = registry.trackerLeft? pid number now n := by
  rw [tracker?_exit, trackerLeft?, mapped]
  simp only [Option.some.injEq, PidState.mapped.injEq, eq_comm]

theorem trackerLeft?_of_ne (another : m ≠ number) :
    registry.trackerLeft? pid number now m = registry.tracker? m :=
  if_neg another

theorem listens_left (n : Nat) (address : Address) :
    (∃ tracker, registry.trackerLeft? pid number now n = some tracker ∧ address ∈ tracker.listens) ↔
      registry.Listens n address := by
  unfold trackerLeft? Listens
  split
  · cases registry.tracker? n with
    | none => simp
    | some tracker => simp [Tracker.perform, Tracker.exit]
  · rfl

theorem unrecorded_of_nowhere (mapped : registry.byPid.get? event.pid = some (.mapped number))
    (prepared : registry.prepare sources event now = (registry.exit event.pid now).start sources.later event.pid)
    (nowhere : (registry.prepare sources event now).containerOf? event.pid = none) :
    registry.Unrecorded (registry.handle sources event now) event number now := by
  have silent : registry.handle sources event now = registry.prepare sources event now := by
    rw [handle_eq, record_of_nowhere nowhere]
  rw [silent]
  refine ⟨fun n => ?_, queue_prepare sources registry event now⟩
  rw [prepared] at nowhere ⊢
  rw [tracker?_start_of_nowhere nowhere, tracker?_exit_eq mapped]

theorem Orderly.recordedIn (orderly : registry.Orderly)
    (mapped : registry.byPid.get? event.pid = some (.mapped number))
    (prepared : registry.prepare sources event now = (registry.exit event.pid now).start sources.later event.pid)
    (arrives : (registry.prepare sources event now).byPid.get? event.pid = some (.mapped m))
    (another : m ≠ number) : registry.RecordedIn (registry.handle sources event now) event number m now := by
  have after := orderly.handle sources event now
  have hosts : (registry.handle sources event now).Hosts m event.pid :=
    after.mapped_iff_hosts.1 (((samePlaces_handle sources registry event now).byPid event.pid).trans arrives)
  have trackers (act : Tracker.Act) (does : event.act? now = some act) (n : Nat) :
      (registry.handle sources event now).tracker? n =
        if n = m then some (((registry.tracker? m).getD .empty).perform act)
        else registry.trackerLeft? event.pid number now n := by
    have placed := tracker?_record_of_mapped does arrives n
    rw [← handle_eq] at placed
    rw [prepared] at arrives placed
    rw [placed, (orderly.exit event.pid now).tracker?_start_of_mapped arrives,
      tracker?_exit_eq mapped, tracker?_exit_eq mapped, trackerLeft?_of_ne another]
    split <;> rfl
  refine ⟨trackers, ?_, ?_, ?_⟩
  · intro flow opens n
    obtain ⟨loud, does⟩ := Event.act?_of_flow? opens now
    split
    · rename_i same
      rw [held?, trackers _ does, if_pos same, Option.bind_some, Tracker.perform, Tracker.held_opened, if_pos]
      · rfl
      · exact ⟨by simp [loud], rfl⟩
    · rename_i other
      exact after.held?_of_not_hosts fun there => other (after.hosts_unique hosts there)
  · intro address kind source n other
    have does : event.act? now = some (.listen address) := by simp only [Event.act?, kind, source]
    rw [Listens, trackers _ does]
    split
    · rename_i same
      subst same
      cases before : registry.tracker? n with
      | none => simp [Tracker.perform, Tracker.listen, Listens, before, Tracker.empty]
      | some tracker => simp [Tracker.perform, Tracker.listen, Listens, before, or_comm]
    · rename_i elsewhere
      rw [listens_left]
      simp [elsewhere]
  · intro request member
    rw [handle_eq] at member
    rcases mem_queue_record member with before | ⟨-, -, -, own⟩
    · rw [queue_prepare] at before
      exact .inl before
    · rw [containerOf?_eq_some_iff, arrives] at own
      cases own
      exact .inr rfl

end Registry

namespace Tasks

/-- At every moment: when an event finds that a service's process is in a cgroup that leads neither to its
container nor to the container's name, the process departs; it comes to the container that its cgroup
leads to, which alone takes note of the event; and if its cgroup cannot be resolved or leads to no name,
nobody does. -/
theorem moved_completely (moves : List Move) (sources : Sources) (event : Event) (now : Instant)
    {number : Nat} {container : Container} {cgroup : Cgroup}
    (mapped : (after moves).registry.byPid.get? event.pid = some (.mapped number))
    (here : (after moves).registry.container? number = some container)
    (service : container.cgroup.kind = .systemd)
    (asks : event.rechecks = true) (speaks : (event.act? now).isSome = true)
    (read : sources.cgroupOf event.pid = .ok cgroup)
    (still : sources.cgroupAgain event.pid = sources.cgroupOf event.pid)
    (another : (after moves).registry.byCgroup.get? cgroup.id ≠ some number)
    (renamed : (after moves).registry.outcome sources event.pid ≠ .of container.identity) :
    let registry := (after moves).registry
    let next := registry.handle sources event now
    registry.Departed next event.pid number ∧
      (registry.Fails sources event.pid →
        next.byPid.get? event.pid = none ∧ registry.Unrecorded next event number now) ∧
      (registry.outcome sources event.pid = .ignored →
        next.byPid.get? event.pid = some .ignored ∧ registry.Unrecorded next event number now) ∧
      ∀ identity, registry.outcome sources event.pid = .of identity →
        ∃ m, next.byIdentity.get? identity = some m ∧ next.byPid.get? event.pid = some (.mapped m) ∧
          (∀ n, next.Hosts n event.pid ↔ n = m) ∧ registry.RecordedIn next event number m now := by
  intro registry next
  have orderly : registry.Orderly := orderly_after moves
  have left : (registry.exit event.pid now).Consistent := orderly.toConsistent.exit event.pid now
  have after : next.Orderly := orderly.handle sources event now
  have prepared := orderly.prepare_of_left mapped here service asks speaks read another
  have same := Registry.samePlaces_handle sources registry event now
  have comes : (registry.prepare sources event now).standing event.pid =
      registry.outcome sources event.pid := by
    rw [prepared, left.standing_start Registry.byPid_exit_self, Registry.outcome_exit mapped read still another]
  have away : (registry.prepare sources event now).byPid.get? event.pid ≠ some (.mapped number) := by
    intro back
    obtain ⟨more, grown, -⟩ := Registry.foundings_start sources.later (registry.exit event.pid now) event.pid
    rw [Registry.foundings_exit, ← prepared] at grown
    have named : (registry.prepare sources event now).name? number = some container.identity := by
      apply Registry.NamesStay.of_foundings grown
      rw [Registry.name?, here, Option.map_some]
    exact renamed (comes.symm.trans (Registry.standing_eq_of_iff.2 ⟨number, back, named⟩))
  have placed := orderly.prepare sources event now
  refine ⟨orderly.departed sources event now (by rwa [same.byPid]), ?_, ?_, ?_⟩
  · intro fails
    rw [orderly.outcome_eq_unknown_iff.2 fails, placed.standing_eq_unknown_iff] at comes
    exact ⟨(same.byPid event.pid).trans comes,
      Registry.unrecorded_of_nowhere mapped prepared (Registry.containerOf?_of_unknown comes)⟩
  · intro nameless
    rw [nameless, Registry.standing_eq_ignored_iff] at comes
    exact ⟨(same.byPid event.pid).trans comes,
      Registry.unrecorded_of_nowhere mapped prepared (Registry.containerOf?_of_ignored comes)⟩
  · intro identity belongs
    rw [belongs, Registry.standing_eq_of_iff] at comes
    obtain ⟨m, arrives, named⟩ := comes
    have indexed := placed.hosts_indexed (placed.mapped_iff_hosts.1 arrives)
    have mappedNext : next.byPid.get? event.pid = some (.mapped m) := (same.byPid event.pid).trans arrives
    have hosts := after.mapped_iff_hosts.1 mappedNext
    have other : m ≠ number := fun back => away (back ▸ arrives)
    exact ⟨m, (same.byIdentity identity).trans (placed.byIdentity_of_name indexed named), mappedNext,
      fun n => ⟨after.hosts_unique hosts, fun here => here ▸ hosts⟩,
      orderly.recordedIn mapped prepared arrives other⟩

/-! ### The last process of a service -/

/-- A process has a connection, and is alone in its service. -/
def alone : List Move :=
  [.begin (serviceOf "/system.slice/nginx.service") (opensAt 100 40000) 0, .proceed]

theorem alone_isSome : ((after alone).registry.container? 0).isSome = true := by decide

/-- It is found in another service when it opens its next connection. -/
theorem mover_arrives :
    let next := (after alone).registry.handle (serviceOf "/system.slice/cron.service") (opensAt 100 40002) 1
    (∀ id, next.byCgroup.get? id ≠ some 0) ∧
      ∃ m, next.byIdentity.get? ⟨"/system.slice/cron.service"⟩ = some m ∧
        next.held? m ⟨100, 3⟩ = some ⟨.v4 0x0A000002 40002, .v4 0x0A000009 80, .v4 0x0A000009 80, 100, 3, 1, none⟩ := by
  intro next
  have here := (Option.some_get alone_isSome).symm
  obtain ⟨departed, -, -, arrived⟩ := moved_completely alone (serviceOf "/system.slice/cron.service")
    (opensAt 100 40002) 1 (by decide) here (by decide) rfl rfl rfl rfl (by decide) (by decide)
  have single (other : Pid) (hosts : (after alone).registry.Hosts 0 other) : other = 100 := by
    obtain ⟨container, found, member⟩ := hosts
    have members : ((after alone).registry.container? 0).map (·.pids.members) = some [100] := by decide
    rw [found, Option.map_some, Option.some.injEq] at members
    exact List.mem_singleton.1 (members ▸ member)
  obtain ⟨m, named, -, -, recorded⟩ := arrived ⟨"/system.slice/cron.service"⟩ (by decide)
  refine ⟨(departed.last single).1, m, named, ?_⟩
  have holds := recorded.opened ⟨.v4 0x0A000002 40002, .v4 0x0A000009 80⟩ rfl m
  rwa [if_pos rfl] at holds

end Tasks

end Attribution
