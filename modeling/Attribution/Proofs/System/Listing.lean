import Attribution.Api
import Attribution.Proofs.Registry.Snapshots
import Attribution.Proofs.System.Interruption
import Attribution.Proofs.Tracker.Requests

/-!
What is shown is what is tracked.

Whether a socket is open follows from its own history: it has opened a connection, and since then neither
that connection was closed nor has its process ended or left.  Main statement: at every moment each
container that a process is mapped to is shown once and nothing else is, by name, with exactly its
processes and with the number of their open sockets.
-/

namespace Attribution

open Kernel (Pid)

/-! ### When the connection of a socket was opened -/

/-- Whether a connection goes on after a close that names a time; a close of time zero names any. -/
def outlasts (closed opened : UInt64) : Bool :=
  !(closed = 0 || opened = closed)

theorem Event.opened_by_act {event : Event} {now : Instant} {act : Tracker.Act}
    (does : event.act? now = some act) (tracker : Tracker) :
    ((tracker.perform act).held.get? event.socket).map (·.timestamp) =
      if event.flow?.isSome then some event.timestamp
      else if event.kind = .connectionClose then
        ((tracker.held.get? event.socket).map (·.timestamp)).filter (outlasts event.timestamp)
      else (tracker.held.get? event.socket).map (·.timestamp) := by
  rw [Tracker.held_perform]
  unfold act? at does
  split at does <;> cases does
  · rename_i source destination kind fromSource toDestination
    have own : (Tracker.Act.opened ⟨source, destination, destination, event.pid, event.fd, event.timestamp⟩
        now).concerns event.socket = true := by
      simp [Tracker.Act.concerns, socket, Tracker.Opening.connection, Connection.socket]
    rw [own]
    cases loopback : destination.isLoopback with
    | true => simp [Tracker.follow, flow?, kind, fromSource, toDestination, loopback]
    | false =>
      simp [Tracker.follow, flow?, kind, fromSource, toDestination, loopback, Tracker.Opening.connection]
  · rename_i kind _ _
    simp [Tracker.Act.concerns, flow?, kind]
  · rename_i kind
    simp only [Tracker.Act.concerns, Tracker.follow, flow?, kind]
    cases tracker.held.get? event.socket with
    | none => simp
    | some connection =>
      have kept : (!(decide (event.timestamp = 0) || decide (connection.timestamp = event.timestamp))) =
          outlasts event.timestamp connection.timestamp := rfl
      simp only [decide_true, if_true, Option.map_some, Option.filter_some, kept, Option.isSome_none,
        Bool.false_eq_true, if_false]
      split <;> rfl
  · rename_i kind _
    simp [Tracker.Act.concerns, flow?, kind]
  · rename_i kind _
    simp [Tracker.Act.concerns, flow?, kind]
  · rename_i kind _ _
    simp [Tracker.Act.concerns, flow?, kind]
  · rename_i kind _
    simp [Tracker.Act.concerns, Tracker.follow, flow?, kind]

namespace Registry

variable {sources : Sources} {registry : Registry} {pid : Pid} {number : Nat} {socket : Socket}
  {event : Event} {now : Instant}

/-- When the connection that a socket of a container holds was opened. -/
def openedAt? (registry : Registry) (number : Nat) (socket : Socket) : Option UInt64 :=
  (registry.held? number socket).map (·.timestamp)

theorem openedAt?_start (sources : Sources) (registry : Registry) (pid : Pid) :
    (registry.start sources pid).openedAt? number socket = registry.openedAt? number socket := by
  rw [openedAt?, openedAt?, held?_start]

theorem Orderly.openedAt?_of_elsewhere (orderly : registry.Orderly)
    (elsewhere : registry.byPid.get? socket.pid ≠ some (.mapped number)) :
    registry.openedAt? number socket = none := by
  rw [openedAt?, Option.map_eq_none_iff]
  exact orderly.held?_of_not_hosts fun hosts => elsewhere (orderly.mapped_iff_hosts.2 hosts)

theorem Orderly.openedAt?_exit (orderly : registry.Orderly) (pid : Pid) (now : Instant) :
    (registry.exit pid now).openedAt? number socket =
      if socket.pid = pid then none else registry.openedAt? number socket := by
  by_cases own : socket.pid = pid
  · rw [if_pos own]
    apply (orderly.exit pid now).openedAt?_of_elsewhere
    rw [own, byPid_exit_self]
    nofun
  · rw [if_neg own, openedAt?, held?_exit, if_neg fun both => own both.2, openedAt?]

theorem Orderly.openedAt?_prepare (orderly : registry.Orderly)
    (stays : registry.leaves sources event now = false) :
    (registry.prepare sources event now).openedAt? number socket =
      if event.kind = .processExit ∧ socket.pid = event.pid then none
      else registry.openedAt? number socket := by
  by_cases ends : event.kind = .processExit
  · simp only [prepare_of_exit ends, orderly.openedAt?_exit, ends, true_and]
  · rw [if_neg fun both => ends both.1]
    have preparation := prepare_preparation sources registry event now
    generalize registry.prepare sources event now = next at preparation ⊢
    cases preparation with
    | idle => rfl
    | starts => exact openedAt?_start sources registry event.pid
    | exits kind => exact absurd kind ends
    | moves asks speaks elsewhere => simp [leaves, asks, speaks, elsewhere] at stays

theorem openedAt?_purge (registry : Registry) (now ttl : Instant) :
    (registry.purge now ttl).openedAt? number socket = registry.openedAt? number socket := by
  rw [openedAt?, openedAt?, held?_purge]

theorem openedAt?_applyAnswer (registry : Registry) (request : NatRequest) (answer : Option Address) :
    (registry.applyAnswer request answer).1.openedAt? number socket = registry.openedAt? number socket := by
  unfold openedAt? held?
  rcases tracker?_applyAnswer registry request answer number with same | ⟨actual, _, _, performed⟩
  · rw [same]
  · rw [performed]
    cases registry.tracker? number with
    | none => rfl
    | some tracker =>
      simp only [Option.map_some, Option.bind_some, Tracker.held_perform]
      split
      · simp only [Tracker.follow, Option.map_map]
        congr 1
        funext connection
        simp only [Function.comp_apply]
        split <;> rfl
      · rfl

theorem Orderly.openedAt?_record (orderly : registry.Orderly) (event : Event) (now : Instant) :
    (registry.record event now).openedAt? number socket =
      if event.socket = socket ∧ registry.containerOf? event.pid = some number ∧ event.flow?.isSome then
        some event.timestamp
      else if event.socket = socket ∧ event.kind = .connectionClose then
        (registry.openedAt? number socket).filter (outlasts event.timestamp)
      else registry.openedAt? number socket := by
  by_cases own : event.socket = socket
  · subst own
    by_cases here : registry.containerOf? event.pid = some number
    · simp only [here, true_and]
      cases does : event.act? now with
      | none =>
        have silent : event.flow?.isSome = false := by
          rw [Option.isSome_eq_false_iff, Option.isNone_iff_eq_none]
          by_contra opens
          obtain ⟨flow, opens⟩ := Option.ne_none_iff_exists'.1 opens
          cases does.symm.trans (Event.act?_of_flow? opens now).2
        have unclosing : event.kind ≠ .connectionClose := by
          intro kind
          simp [Event.act?, kind] at does
        have unrecorded : registry.record event now = registry := by simp only [Registry.record, does]
        rw [unrecorded, silent, if_neg Bool.false_ne_true, if_neg unclosing]
      | some act =>
        have mapped := containerOf?_eq_some_iff.1 here
        obtain ⟨container, found, _⟩ := orderly.mapped_iff_hosts.1 mapped
        have tracked : registry.tracker? number = some container.tracker := by
          rw [tracker?, found, Option.map_some]
        simp only [openedAt?, held?, tracker?_record_of_mapped does mapped, if_true, tracked, Option.map_some,
          Option.bind_some]
        exact Event.opened_by_act does container.tracker
    · have elsewhere : registry.byPid.get? event.socket.pid ≠ some (.mapped number) :=
        fun mapped => here (containerOf?_eq_some_iff.2 mapped)
      have after : (registry.record event now).byPid.get? event.socket.pid ≠ some (.mapped number) := by
        rwa [(samePlaces_record registry event now).byPid]
      simp [here, (orderly.record event now).openedAt?_of_elsewhere after, orderly.openedAt?_of_elsewhere elsewhere]
  · simp only [own, false_and, if_false, openedAt?, held?_record_of_ne (Ne.symm own)]

end Registry

namespace Tasks

variable {tasks : Tasks} {number : Nat} {socket : Socket} {timestamp : UInt64} {moves : List Move} {move : Move}

/-! ### The history of a socket -/

/-- A container takes note of a connection that a socket has opened.  Failed attempts and connections
within the host are none. -/
inductive Opens (tasks : Tasks) (number : Nat) (socket : Socket) (timestamp : UInt64) : Move → Prop where
  | noted {event : Event} {now : Instant} (hand : tasks.rest = .note event now)
      (opens : event.flow?.isSome = true) (own : event.socket = socket) (time : event.timestamp = timestamp)
      (here : tasks.registry.containerOf? event.pid = some number) :
      Opens tasks number socket timestamp .proceed

/-- What ends a connection opened at that time: a close that does not contradict, or that its process ends
or leaves its container. -/
inductive Ends (tasks : Tasks) (socket : Socket) (timestamp : UInt64) : Move → Prop where
  | closed {event : Event} {now : Instant} (hand : tasks.rest = .note event now)
      (kind : event.kind = .connectionClose) (own : event.socket = socket)
      (timely : event.timestamp = 0 ∨ timestamp = event.timestamp) : Ends tasks socket timestamp .proceed
  | exited {sources : Sources} {event : Event} {now : Instant} (free : tasks.rest = .nothing)
      (kind : event.kind = .processExit) (own : socket.pid = event.pid) :
      Ends tasks socket timestamp (.begin sources event now)
  | left {sources : Sources} {event : Event} {now : Instant} (free : tasks.rest = .nothing)
      (leaves : tasks.registry.leaves sources event now = true) (own : socket.pid = event.pid) :
      Ends tasks socket timestamp (.begin sources event now)

/-- The last connection that a socket has opened in a container, at that time, has not ended since. -/
inductive StaysOpen (number : Nat) (socket : Socket) (timestamp : UInt64) : List Move → Prop where
  | opened {moves : List Move} {move : Move} (opens : (after moves).Opens number socket timestamp move) :
      StaysOpen number socket timestamp (moves ++ [move])
  | stays {moves : List Move} {move : Move} (before : StaysOpen number socket timestamp moves)
      (lasts : ¬(after moves).Ends socket timestamp move)
      (latest : ∀ other, ¬(after moves).Opens number socket other move) :
      StaysOpen number socket timestamp (moves ++ [move])

theorem not_staysOpen_nil : ¬StaysOpen number socket timestamp [] := by
  generalize none : [] = moves
  intro opened
  cases opened <;> simp at none

theorem staysOpen_snoc : StaysOpen number socket timestamp (moves ++ [move]) ↔
    (after moves).Opens number socket timestamp move ∨
      (StaysOpen number socket timestamp moves ∧ ¬(after moves).Ends socket timestamp move ∧
        ∀ other, ¬(after moves).Opens number socket other move) := by
  constructor
  · generalize whole : moves ++ [move] = all
    intro opened
    cases opened with
    | opened opens =>
      obtain ⟨rfl, last⟩ := List.append_inj' whole rfl
      cases last
      exact .inl opens
    | stays before lasts latest =>
      obtain ⟨rfl, last⟩ := List.append_inj' whole rfl
      cases last
      exact .inr ⟨before, lasts, latest⟩
  · rintro (opens | ⟨before, lasts, latest⟩)
    · exact .opened opens
    · exact .stays before lasts latest

theorem openedAt?_iff_of_silent {next : Registry}
    (same : next.openedAt? number socket = tasks.registry.openedAt? number socket)
    (lasts : ∀ timestamp, ¬tasks.Ends socket timestamp move)
    (latest : ∀ timestamp, ¬tasks.Opens number socket timestamp move) :
    next.openedAt? number socket = some timestamp ↔ tasks.Opens number socket timestamp move ∨
      (tasks.registry.openedAt? number socket = some timestamp ∧ ¬tasks.Ends socket timestamp move ∧
        ∀ other, ¬tasks.Opens number socket other move) := by
  simp [same, lasts, latest]

theorem openedAt?_begin (orderly : tasks.registry.Orderly) (sources : Sources) (event : Event) (now : Instant) :
    (tasks.begin sources event now).registry.openedAt? number socket =
      if (event.kind = .processExit ∨ tasks.registry.leaves sources event now = true) ∧ socket.pid = event.pid
      then none else tasks.registry.openedAt? number socket := by
  unfold begin
  split
  · rename_i leaves
    simp only [leaves, or_true, true_and]
    exact orderly.openedAt?_exit event.pid now
  · rename_i stays
    rw [Bool.not_eq_true] at stays
    simp only [stays, Bool.false_eq_true, or_false]
    exact orderly.openedAt?_prepare stays

theorem openedAt?_note (orderly : tasks.registry.Orderly) {event : Event} {now : Instant}
    (hand : tasks.rest = .note event now) :
    tasks.proceed.registry.openedAt? number socket = some timestamp ↔
      tasks.Opens number socket timestamp .proceed ∨
        (tasks.registry.openedAt? number socket = some timestamp ∧ ¬tasks.Ends socket timestamp .proceed ∧
          ∀ other, ¬tasks.Opens number socket other .proceed) := by
  have recorded : tasks.proceed.registry = tasks.registry.record event now := by
    simp only [proceed, hand]
    rfl
  have opens (time : UInt64) : tasks.Opens number socket time .proceed ↔
      (event.socket = socket ∧ tasks.registry.containerOf? event.pid = some number ∧ event.flow?.isSome) ∧
        event.timestamp = time := by
    constructor
    · rintro ⟨again, opens, own, rfl, here⟩
      cases hand.symm.trans again
      exact ⟨⟨own, here, opens⟩, rfl⟩
    · rintro ⟨⟨own, here, opens⟩, time⟩
      exact .noted hand opens own time here
  have ends : tasks.Ends socket timestamp .proceed ↔
      (event.socket = socket ∧ event.kind = .connectionClose) ∧ outlasts event.timestamp timestamp = false := by
    rw [outlasts, Bool.not_eq_false', Bool.or_eq_true, decide_eq_true_eq, decide_eq_true_eq]
    constructor
    · rintro ⟨again, kind, own, timely⟩
      cases hand.symm.trans again
      exact ⟨⟨own, kind⟩, timely⟩
    · rintro ⟨⟨own, kind⟩, timely⟩
      exact .closed hand kind own timely
  rw [recorded, orderly.openedAt?_record]
  simp only [opens, ends]
  split
  · rename_i opening
    simp [opening]
  · rename_i silent
    simp only [silent, false_and, not_false_eq_true, implies_true, and_true, false_or]
    split
    · rename_i closing
      simp [closing, Option.filter_eq_some_iff]
    · rename_i unclosing
      simp [unclosing]

theorem openedAt?_begun (orderly : tasks.registry.Orderly) {sources : Sources} {event : Event} {now : Instant}
    (free : tasks.rest = .nothing) :
    (tasks.perform (.begin sources event now)).registry.openedAt? number socket = some timestamp ↔
      tasks.Opens number socket timestamp (.begin sources event now) ∨
        (tasks.registry.openedAt? number socket = some timestamp ∧
          ¬tasks.Ends socket timestamp (.begin sources event now) ∧
          ∀ other, ¬tasks.Opens number socket other (.begin sources event now)) := by
  have begun : tasks.perform (.begin sources event now) = tasks.begin sources event now := by
    simp only [perform, free]
  have ends : tasks.Ends socket timestamp (.begin sources event now) ↔
      (event.kind = .processExit ∨ tasks.registry.leaves sources event now = true) ∧ socket.pid = event.pid := by
    constructor
    · rintro (_ | ⟨_, kind, own⟩ | ⟨_, leaves, own⟩)
      · exact ⟨.inl kind, own⟩
      · exact ⟨.inr leaves, own⟩
    · rintro ⟨kind | leaves, own⟩
      · exact .exited free kind own
      · exact .left free leaves own
  have silent (other : UInt64) : ¬tasks.Opens number socket other (.begin sources event now) := by
    rintro ⟨⟩
  rw [begun, openedAt?_begin orderly, ends]
  simp only [silent, not_false_eq_true, implies_true, and_true, false_or]
  split <;> simp_all

/-- A socket is open after a move if the move opens it, or if it was open before and goes on as it is. -/
theorem openedAt?_perform (orderly : tasks.registry.Orderly) (move : Move) :
    (tasks.perform move).registry.openedAt? number socket = some timestamp ↔
      tasks.Opens number socket timestamp move ∨
        (tasks.registry.openedAt? number socket = some timestamp ∧ ¬tasks.Ends socket timestamp move ∧
          ∀ other, ¬tasks.Opens number socket other move) := by
  cases move with
  | begin sources event now =>
    cases free : tasks.rest with
    | nothing => exact openedAt?_begun orderly free
    | place | note =>
      apply openedAt?_iff_of_silent
      · simp only [perform, free]
      · rintro time (_ | ⟨busy, _⟩ | ⟨busy, _⟩) <;> cases free.symm.trans busy
      · rintro time ⟨⟩
  | proceed =>
    cases hand : tasks.rest with
    | nothing =>
      apply openedAt?_iff_of_silent
      · simp only [perform, proceed, hand]
      · rintro time ⟨other, _⟩
        cases hand.symm.trans other
      · rintro time ⟨other, _⟩
        cases hand.symm.trans other
    | place sources event now =>
      apply openedAt?_iff_of_silent
      · simp only [perform, proceed, hand]
        exact Registry.openedAt?_start sources.later tasks.registry event.pid
      · rintro time ⟨other, _⟩
        cases hand.symm.trans other
      · rintro time ⟨other, _⟩
        cases hand.symm.trans other
    | note event now => exact openedAt?_note orderly hand
  | purge now ttl =>
    apply openedAt?_iff_of_silent
    · simp only [perform]
      split
      · exact Registry.openedAt?_purge tasks.registry now ttl
      · rfl
    · rintro time ⟨⟩
    · rintro time ⟨⟩
  | take count conntrack =>
    apply openedAt?_iff_of_silent
    · simp only [perform, System.perform]
      split <;> rfl
    · rintro time ⟨⟩
    · rintro time ⟨⟩
  | deliver =>
    apply openedAt?_iff_of_silent
    · simp only [perform, System.perform]
      split
      · rfl
      · exact Registry.openedAt?_applyAnswer tasks.registry _ _
    · rintro time ⟨⟩
    · rintro time ⟨⟩

theorem openedAt?_after (moves : List Move) :
    (after moves).registry.openedAt? number socket = some timestamp ↔
      StaysOpen number socket timestamp moves := by
  induction moves using List.reverseRecOn generalizing timestamp with
  | nil =>
    simp only [not_staysOpen_nil, iff_false]
    nofun
  | append_singleton moves move ih =>
    rw [after_snoc, openedAt?_perform (orderly_after moves), ih, staysOpen_snoc]

/-! ### What is shown -/

/-- What is shown of a container: its processes, ascending, and how many of their sockets are open. -/
structure Shown (moves : List Move) (number : Nat) (snapshot : Snapshot) : Prop where
  container : ∃ container, (after moves).registry.container? number = some container ∧
    snapshot = .ofContainer container
  pids : ∀ pid, pid ∈ snapshot.pids ↔ (after moves).registry.byPid.get? pid = some (.mapped number)
  ascending : snapshot.pids.Pairwise (· < ·)
  openCount : ∃ sockets : Roster Socket, snapshot.connections.openCount = sockets.size ∧
    ∀ socket, socket ∈ sockets ↔
      socket.pid ∈ snapshot.pids ∧ ∃ timestamp, StaysOpen number socket timestamp moves

theorem shown_of_shows {entry : Identity × Nat} {snapshot : Snapshot}
    (shows : (after moves).registry.Shows entry snapshot) : Shown moves entry.2 snapshot := by
  obtain ⟨container, here, -, rfl⟩ := shows
  have orderly := orderly_after moves
  have pids (pid : Pid) : pid ∈ (Snapshot.ofContainer container).pids ↔
      (after moves).registry.byPid.get? pid = some (.mapped entry.2) := by
    rw [Snapshot.mem_pids_ofContainer, orderly.mapped_iff_hosts]
    simp [Registry.Hosts, here]
  refine ⟨⟨container, here, rfl⟩, pids, Snapshot.ascending_pids container, container.openSockets,
    container.openCount_snapshot, ?_⟩
  intro socket
  simp only [Registry.mem_openSockets here, pids, ← openedAt?_after, Registry.openedAt?,
    Option.map_eq_some_iff]
  constructor
  · rintro ⟨connection, holds⟩
    exact ⟨orderly.mapped_iff_hosts.2 (orderly.owned holds), connection.timestamp, connection, holds, rfl⟩
  · rintro ⟨_, _, connection, holds, _⟩
    exact ⟨connection, holds⟩

/-- At every moment, in whatever order the index of containers is read: one snapshot is shown of every
container that a process is mapped to and none of any other, strictly ascending by identity, each with
exactly the processes mapped to it and the number of their open sockets. -/
theorem tracked_shown (moves : List Move) :
    let registry := (after moves).registry
    (∃ numbers : List Nat, numbers.Nodup ∧
        (∀ n, n ∈ numbers ↔ ∃ pid, registry.byPid.get? pid = some (.mapped n)) ∧
        List.Forall₂ (Shown moves) numbers registry.snapshots) ∧
      (registry.snapshots.Pairwise fun a b => a.identity.text < b.identity.text) ∧
      (∀ index : Table Identity Nat, index.entries.Perm registry.byIdentity.entries →
        Registry.snapshots { registry with byIdentity := index } = registry.snapshots) ∧
      ∀ uri, Api.pathOf uri = "/containers" →
        Api.respond registry "GET" uri = ⟨200, .json (.list Snapshot.toJson registry.snapshots)⟩ := by
  intro registry
  have consistent : registry.Consistent := (orderly_after moves).toConsistent
  obtain ⟨entries, arranged, shows⟩ := consistent.shows_snapshots
  have numbers : (entries.map Prod.snd).Perm registry.byIdentity.values := arranged.map Prod.snd
  refine ⟨⟨entries.map Prod.snd, ?_, ?_, ?_⟩, consistent.ascending_snapshots,
    fun index same => consistent.snapshots_congr same, ?_⟩
  · exact numbers.nodup_iff.2 consistent.nodup_values
  · intro n
    rw [numbers.mem_iff, consistent.mem_values_iff]
  · exact List.forall₂_map_left_iff.2 (shows.imp fun _ _ => shown_of_shows)
  · intro uri path
    simp only [Api.respond, path, Api.resourceAt?]
    rfl

end Tasks

end Attribution
