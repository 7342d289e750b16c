import Attribution.Connection.Tracker
import Mathlib.Data.List.Induction

/-!
A tracker under any course of events.

Each operation is an act and a run is a list of acts.  What an operation leaves in the sockets and
in the pairs is said once, by what is found there afterwards; no later proof opens an operation.
-/

namespace Attribution

theorem Connection.isSame_iff {a b : Connection} :
    a.isSame b = true ↔ a.socket = b.socket ∧ a.timestamp = b.timestamp := by
  simp [isSame, socket, and_assoc]

namespace Tracker

/-- One operation of a tracker with its arguments. -/
inductive Act where
  | opened (opening : Opening) (now : Instant)
  | failedOpen (destination : Address) (now : Instant)
  | close (socket : Socket) (timestamp : UInt64) (now : Instant)
  | exit (pid : UInt32) (now : Instant)
  | redirect (socket : Socket) (timestamp : UInt64) (actual : Address)
  | requested (socket : Socket) (timestamp : UInt64) (request : Request)
  | retransmitted (destination : Address)
  | listen (address : Address)
  | unlisten (address : Address)
  | purge (now ttl : Instant)

/-- The moment at which an act happens, where it matters. -/
def Act.moment? : Act → Option Instant
  | .opened _ now | .failedOpen _ now | .close _ _ now | .exit _ now | .purge now _ => some now
  | _ => none

def perform (tracker : Tracker) : Act → Tracker
  | .opened opening now => tracker.opened opening now
  | .failedOpen destination now => tracker.failedOpen destination now
  | .close socket timestamp now => (tracker.close socket timestamp now).2
  | .exit pid now => (tracker.exit pid now).2
  | .redirect socket timestamp actual => (tracker.redirect socket timestamp actual).2
  | .requested socket timestamp request => (tracker.requested socket timestamp request).2
  | .retransmitted destination => tracker.retransmitted destination
  | .listen address => tracker.listen address
  | .unlisten address => tracker.unlisten address
  | .purge now ttl => (tracker.purge now ttl).2

def after (acts : List Act) : Tracker :=
  acts.foldl perform empty

theorem after_snoc (acts : List Act) (act : Act) :
    after (acts ++ [act]) = (after acts).perform act := by
  simp [after]

/-! ### Sockets -/

theorem held_opened (tracker : Tracker) (opening : Opening) (now : Instant) (socket : Socket) :
    (tracker.opened opening now).held.get? socket =
      if opening.destination.isLoopback = false ∧ socket = opening.connection.socket
      then some opening.connection else tracker.held.get? socket := by
  unfold opened
  by_cases loopback : opening.destination.isLoopback
  · simp [loopback]
  · simp [loopback, Table.get?_insert]

@[simp] theorem held_failedOpen (tracker : Tracker) (destination : Address) (now : Instant) :
    (tracker.failedOpen destination now).held = tracker.held := by
  unfold failedOpen attempt
  split <;> rfl

theorem held_close (tracker : Tracker) (socket : Socket) (timestamp : UInt64) (now : Instant)
    (other : Socket) :
    (tracker.close socket timestamp now).2.held.get? other =
      if other = socket ∧ (tracker.current? socket timestamp).isSome then none
      else tracker.held.get? other := by
  unfold close
  cases current : tracker.current? socket timestamp with
  | none => simp
  | some connection => simp [Table.get?_erase]

theorem held_exit (tracker : Tracker) (pid : UInt32) (now : Instant) (socket : Socket) :
    (tracker.exit pid now).2.held.get? socket =
      if socket.pid = pid then none else tracker.held.get? socket := by
  simp only [exit, Table.get?_filter]
  by_cases own : socket.pid = pid
  · simp [own]
  · cases held : tracker.held.get? socket <;> simp [own]

@[simp] theorem held_requested (tracker : Tracker) (socket : Socket) (timestamp : UInt64)
    (request : Request) :
    (tracker.requested socket timestamp request).2.held = tracker.held := by
  unfold requested
  split <;> rfl

@[simp] theorem held_purge (tracker : Tracker) (now ttl : Instant) :
    (tracker.purge now ttl).2.held = tracker.held := rfl

theorem mem_heldBy {tracker : Tracker} {pid : UInt32} {connection : Connection} :
    connection ∈ tracker.heldBy pid ↔
      ∃ socket, tracker.held.get? socket = some connection ∧ socket.pid = pid := by
  simp only [heldBy, Table.mem_values_iff, Table.get?_filter, Option.filter_eq_some_iff,
    decide_eq_true_eq]

/-! ### Pairs -/

theorem active_opened (tracker : Tracker) (opening : Opening) (now : Instant) (pair : Pair) :
    (tracker.opened opening now).active.get? pair =
      if opening.destination.isLoopback = false ∧ pair = opening.connection.pair
      then some opening.connection else tracker.active.get? pair := by
  unfold opened
  by_cases loopback : opening.destination.isLoopback
  · simp [loopback]
  · simp [loopback, Table.get?_insert]

@[simp] theorem active_failedOpen (tracker : Tracker) (destination : Address) (now : Instant) :
    (tracker.failedOpen destination now).active = tracker.active := by
  unfold failedOpen attempt
  split <;> rfl

@[simp] theorem active_requested (tracker : Tracker) (socket : Socket) (timestamp : UInt64)
    (request : Request) :
    (tracker.requested socket timestamp request).2.active = tracker.active := by
  unfold requested
  split <;> rfl

/-- Whether the latest connection of a pair is among those that end. -/
def Ends (pair : Pair) (gone : List Connection) (latest : Connection) : Prop :=
  ∃ connection ∈ gone, pair = connection.pair ∧ latest.isSame connection = true

instance (pair : Pair) (gone : List Connection) (latest : Connection) :
    Decidable (Ends pair gone latest) :=
  inferInstanceAs (Decidable (∃ connection ∈ gone, pair = connection.pair ∧ _))

/-- The latest connection of a pair, with the moment of its end if it is among those that end. -/
def ended (now : Instant) (pair : Pair) (gone : List Connection) (latest : Connection) : Connection :=
  if Ends pair gone latest then { latest with closed := some now } else latest

theorem ended_of_not_ends {now : Instant} {pair : Pair} {gone : List Connection} {latest : Connection}
    (remains : ¬Ends pair gone latest) : ended now pair gone latest = latest :=
  if_neg remains

theorem not_ends_of_unclosed {now : Instant} {pair : Pair} {gone : List Connection}
    {latest : Connection} (unclosed : (ended now pair gone latest).closed = none) :
    ¬Ends pair gone latest := by
  intro ends
  have closed : (ended now pair gone latest).closed = some now := by
    unfold ended
    rw [if_pos ends]
  rw [unclosed] at closed
  cases closed

theorem ended_socket (now : Instant) (pair : Pair) (gone : List Connection) (latest : Connection) :
    (ended now pair gone latest).socket = latest.socket := by
  unfold ended
  split <;> rfl

theorem get?_stamp (now : Instant) (active : Table Pair Connection) (connection : Connection)
    (pair : Pair) :
    (stamp now active connection).get? pair =
      (active.get? pair).map (ended now pair [connection]) := by
  simp only [stamp, Table.get?_adjust]
  by_cases same : pair = connection.pair
  · subst same
    simp only [if_true]
    congr 1
    funext latest
    simp [ended, Ends]
  · rw [if_neg same]
    cases found : active.get? pair <;> simp [ended, Ends, same]

theorem get?_foldl_stamp (now : Instant) (gone : List Connection) (active : Table Pair Connection)
    (pair : Pair) :
    (gone.foldl (stamp now) active).get? pair = (active.get? pair).map (ended now pair gone) := by
  induction gone generalizing active with
  | nil =>
    have still : ended now pair [] = id := by
      funext latest
      simp [ended, Ends]
    simp [still]
  | cons connection rest ih =>
    rw [List.foldl_cons, ih, get?_stamp, Option.map_map]
    congr 1
    funext latest
    simp only [Function.comp, ended, Ends, List.mem_cons, exists_eq_or_imp]
    by_cases first : pair = connection.pair ∧ latest.isSame connection = true
    · simp [first]
    · simp [first]

theorem active_close (tracker : Tracker) (socket : Socket) (timestamp : UInt64) (now : Instant)
    (pair : Pair) :
    (tracker.close socket timestamp now).2.active.get? pair =
      (tracker.active.get? pair).map
        (ended now pair (tracker.current? socket timestamp).toList) := by
  unfold close
  cases tracker.current? socket timestamp with
  | none => exact (get?_foldl_stamp now [] tracker.active pair)
  | some connection => exact get?_stamp now tracker.active connection pair

theorem active_exit (tracker : Tracker) (pid : UInt32) (now : Instant) (pair : Pair) :
    (tracker.exit pid now).2.active.get? pair =
      (tracker.active.get? pair).map (ended now pair (tracker.heldBy pid)) :=
  get?_foldl_stamp now (tracker.heldBy pid) tracker.active pair

theorem get?_vacate (active : Table Pair Connection) (connection : Connection) (pair : Pair) :
    (vacate active connection).get? pair =
      if pair = connection.pair then
        (active.get? pair).filter fun latest => !latest.isSame connection
      else active.get? pair := by
  by_cases same : pair = connection.pair
  · subst same
    unfold vacate
    cases found : active.get? connection.pair with
    | none => simp [found]
    | some latest =>
      by_cases own : latest.isSame connection
      · simp [own, Option.filter]
      · simp [own, found, Option.filter]
  · rw [if_neg same]
    unfold vacate
    split
    · split
      · rw [Table.get?_erase, if_neg same]
      · rfl
    · rfl

theorem active_purge (tracker : Tracker) (now ttl : Instant) (pair : Pair) :
    (tracker.purge now ttl).2.active.get? pair =
      (tracker.active.get? pair).filter fun latest => !latest.closed.any (isExpired now ttl) :=
  Table.get?_filter _ _ pair

/-! ### What an act leaves -/

/-- The connection that a redirection moves, as it is before the move. -/
def movable? (tracker : Tracker) (socket : Socket) (timestamp : UInt64) (actual : Address) :
    Option Connection :=
  (tracker.held.get? socket).filter fun connection =>
    connection.timestamp = timestamp ∧ connection.actual ≠ actual

/-- The connection that an act puts on a socket and on a pair. -/
def placed? (tracker : Tracker) : Act → Option Connection
  | .opened opening _ => if opening.destination.isLoopback then none else some opening.connection
  | .redirect socket timestamp actual =>
    (tracker.movable? socket timestamp actual).map fun connection =>
      { connection with actual := actual }
  | _ => none

/-- What an act leaves in the sockets and in the pairs. -/
inductive Effect (tracker : Tracker) : Act → Tracker → Prop where
  | idle {act : Act} {next : Tracker} (nothing : tracker.placed? act = none)
      (held : next.held = tracker.held) (active : next.active = tracker.active) :
      Effect tracker act next
  | opens {opening : Opening} {now : Instant} {next : Tracker}
      (loud : opening.destination.isLoopback = false)
      (held : ∀ socket, next.held.get? socket =
        if socket = opening.connection.socket then some opening.connection
        else tracker.held.get? socket)
      (active : ∀ pair, next.active.get? pair =
        if pair = opening.connection.pair then some opening.connection
        else tracker.active.get? pair) :
      Effect tracker (.opened opening now) next
  | moves {socket : Socket} {timestamp : UInt64} {actual : Address} {connection : Connection}
      {next : Tracker} (found : tracker.held.get? socket = some connection)
      (timely : connection.timestamp = timestamp) (elsewhere : connection.actual ≠ actual)
      (held : ∀ other, next.held.get? other =
        if other = socket then some { connection with actual := actual }
        else tracker.held.get? other)
      (active : ∀ pair, next.active.get? pair =
        if pair = ⟨connection.source, actual⟩ then some { connection with actual := actual }
        else if pair = connection.pair then
          (tracker.active.get? pair).filter fun latest => !latest.isSame connection
        else tracker.active.get? pair) :
      Effect tracker (.redirect socket timestamp actual) next
  | releases {act : Act} {next : Tracker} (now : Instant) (gone : List Connection)
      (nothing : tracker.placed? act = none) (timed : act.moment? = some now)
      (were : ∀ connection ∈ gone, tracker.held.get? connection.socket = some connection)
      (held : ∀ socket, next.held.get? socket =
        if ∃ connection ∈ gone, connection.socket = socket then none
        else tracker.held.get? socket)
      (active : ∀ pair, next.active.get? pair =
        (tracker.active.get? pair).map (ended now pair gone)) :
      Effect tracker act next
  | forgets {now ttl : Instant} {next : Tracker} (held : next.held = tracker.held)
      (active : ∀ pair, next.active.get? pair =
        (tracker.active.get? pair).filter fun latest => !latest.closed.any (isExpired now ttl)) :
      Effect tracker (.purge now ttl) next

/-- What every run keeps: sockets hold open connections of their own, and a pair whose latest
connection is held on it has it marked as open. -/
structure WellKept (tracker : Tracker) : Prop where
  own : ∀ {socket connection}, tracker.held.get? socket = some connection → connection.socket = socket
  unclosed : ∀ {socket connection}, tracker.held.get? socket = some connection →
    connection.closed = none
  latest_unclosed : ∀ {socket connection latest}, tracker.held.get? socket = some connection →
    tracker.active.get? connection.pair = some latest → latest.isSame connection = true →
    latest.closed = none

theorem opened_effect (tracker : Tracker) (opening : Opening) (now : Instant) :
    Effect tracker (.opened opening now) (tracker.opened opening now) := by
  by_cases loopback : opening.destination.isLoopback
  · have same : tracker.opened opening now = tracker := by simp [opened, loopback]
    rw [same]
    exact .idle (by simp [placed?, loopback]) rfl rfl
  · have loud : opening.destination.isLoopback = false := by simpa using loopback
    refine .opens loud ?_ ?_
    · intro socket
      simp only [held_opened, loud, true_and]
    · intro pair
      simp only [active_opened, loud, true_and]

theorem current?_eq_some_iff {tracker : Tracker} {socket : Socket} {timestamp : UInt64}
    {connection : Connection} :
    tracker.current? socket timestamp = some connection ↔
      tracker.held.get? socket = some connection ∧
        (timestamp = 0 ∨ connection.timestamp = timestamp) := by
  simp [current?, Option.filter_eq_some_iff]

theorem close_effect {tracker : Tracker} (kept : tracker.WellKept) (socket : Socket)
    (timestamp : UInt64) (now : Instant) :
    Effect tracker (.close socket timestamp now) (tracker.close socket timestamp now).2 := by
  cases current : tracker.current? socket timestamp with
  | none =>
    have same : (tracker.close socket timestamp now).2 = tracker := by simp [close, current]
    rw [same]
    exact .idle rfl rfl rfl
  | some connection =>
    have held := (current?_eq_some_iff.1 current).1
    have own := kept.own held
    refine .releases now [connection] rfl rfl ?_ ?_ ?_
    · intro other member
      rw [List.mem_singleton] at member
      rw [member, own]
      exact held
    · intro other
      rw [held_close]
      simp [current, own, eq_comm]
    · intro pair
      rw [active_close, current]
      rfl

theorem exit_effect {tracker : Tracker} (kept : tracker.WellKept) (pid : UInt32) (now : Instant) :
    Effect tracker (.exit pid now) (tracker.exit pid now).2 := by
  refine .releases now (tracker.heldBy pid) rfl rfl ?_ ?_ (active_exit tracker pid now)
  · intro connection member
    obtain ⟨socket, held, _⟩ := mem_heldBy.1 member
    rw [kept.own held]
    exact held
  · intro socket
    rw [held_exit]
    cases found : tracker.held.get? socket with
    | none => simp
    | some connection =>
      have gone : (∃ other ∈ tracker.heldBy pid, other.socket = socket) ↔ socket.pid = pid := by
        constructor
        · rintro ⟨other, member, rfl⟩
          obtain ⟨_, held, ofPid⟩ := mem_heldBy.1 member
          rw [kept.own held]
          exact ofPid
        · intro ofPid
          exact ⟨connection, mem_heldBy.2 ⟨socket, found, ofPid⟩, kept.own found⟩
      simp only [gone]

theorem redirect_eq_of_moves {tracker : Tracker} {socket : Socket} {timestamp : UInt64}
    {actual : Address} {connection : Connection} (found : tracker.held.get? socket = some connection)
    (timely : connection.timestamp = timestamp) (elsewhere : connection.actual ≠ actual) :
    tracker.redirect socket timestamp actual =
      (true, { tracker with
        held := tracker.held.insert socket { connection with actual := actual }
        active := (vacate tracker.active connection).insert ⟨connection.source, actual⟩
          { connection with actual := actual }
        successful := countUp (countDown tracker.successful connection.pair)
          ⟨connection.source, actual⟩ }) := by
  have moves : ¬(connection.timestamp ≠ timestamp ∨ connection.actual = actual) := by
    simp [timely, elsewhere]
  simp only [redirect, found, if_neg moves]
  rfl

theorem redirect_cases (tracker : Tracker) (socket : Socket) (timestamp : UInt64) (actual : Address) :
    (∃ connection, tracker.held.get? socket = some connection ∧ connection.timestamp = timestamp ∧
      connection.actual ≠ actual) ∨
      (tracker.movable? socket timestamp actual = none ∧
        tracker.redirect socket timestamp actual = (false, tracker)) := by
  cases found : tracker.held.get? socket with
  | none => exact .inr ⟨by simp [movable?, found], by simp [redirect, found]⟩
  | some connection =>
    by_cases stays : connection.timestamp ≠ timestamp ∨ connection.actual = actual
    · refine .inr ⟨?_, by simp only [redirect, found, if_pos stays]⟩
      rw [movable?, found, Option.filter_some, if_neg]
      rw [decide_eq_true_eq]
      rintro ⟨timely, elsewhere⟩
      exact stays.elim (absurd timely) elsewhere
    · rw [not_or, not_not] at stays
      exact .inl ⟨connection, rfl, stays.1, stays.2⟩

theorem redirect_effect (tracker : Tracker) (socket : Socket) (timestamp : UInt64) (actual : Address) :
    Effect tracker (.redirect socket timestamp actual) (tracker.redirect socket timestamp actual).2 := by
  rcases redirect_cases tracker socket timestamp actual with
    ⟨connection, found, timely, elsewhere⟩ | ⟨nothing, still⟩
  · rw [redirect_eq_of_moves found timely elsewhere]
    refine .moves found timely elsewhere ?_ ?_
    · intro other
      simp only [Table.get?_insert]
    · intro pair
      simp only [Table.get?_insert, get?_vacate]
  · rw [still]
    exact .idle (by simp [placed?, nothing]) rfl rfl

/-- Every act does one of five things to the sockets and to the pairs. -/
theorem perform_effect {tracker : Tracker} (kept : tracker.WellKept) (act : Act) :
    Effect tracker act (tracker.perform act) := by
  cases act with
  | opened opening now => exact opened_effect tracker opening now
  | close socket timestamp now => exact close_effect kept socket timestamp now
  | exit pid now => exact exit_effect kept pid now
  | redirect socket timestamp actual => exact redirect_effect tracker socket timestamp actual
  | purge now ttl => exact .forgets rfl (active_purge tracker now ttl)
  | failedOpen destination now =>
    exact .idle rfl (held_failedOpen tracker destination now) (active_failedOpen tracker destination now)
  | requested socket timestamp request =>
    exact .idle rfl (held_requested tracker socket timestamp request)
      (active_requested tracker socket timestamp request)
  | retransmitted destination => exact .idle rfl rfl rfl
  | listen address => exact .idle rfl rfl rfl
  | unlisten address => exact .idle rfl rfl rfl

theorem wellKept_empty : empty.WellKept where
  own held := by simp [empty] at held
  unclosed held := by simp [empty] at held
  latest_unclosed held := by simp [empty] at held

theorem placed?_redirect {tracker : Tracker} {socket : Socket} {timestamp : UInt64}
    {actual : Address} {connection : Connection} (found : tracker.held.get? socket = some connection)
    (timely : connection.timestamp = timestamp) (elsewhere : connection.actual ≠ actual) :
    tracker.placed? (.redirect socket timestamp actual) =
      some { connection with actual := actual } := by
  simp [placed?, movable?, found, Option.filter, timely, elsewhere]

theorem placed?_opened {tracker : Tracker} {opening : Opening} {now : Instant}
    (loud : opening.destination.isLoopback = false) :
    tracker.placed? (.opened opening now) = some opening.connection := by
  simp [placed?, loud]

theorem unclosed_of_placed? {tracker : Tracker} (kept : tracker.WellKept) {act : Act}
    {connection : Connection} (placed : tracker.placed? act = some connection) :
    connection.closed = none := by
  cases act with
  | opened opening now =>
    simp only [placed?, Option.ite_none_left_eq_some, Option.some.injEq] at placed
    rw [← placed.2]
    rfl
  | redirect socket timestamp actual =>
    simp only [placed?, movable?, Option.map_eq_some_iff, Option.filter_eq_some_iff] at placed
    obtain ⟨before, ⟨found, _⟩, rfl⟩ := placed
    have unclosed := kept.unclosed found
    exact unclosed
  | _ => simp [placed?] at placed

theorem Effect.held_some {tracker next : Tracker} {act : Act} (effect : Effect tracker act next)
    (kept : tracker.WellKept) {socket : Socket} {connection : Connection}
    (found : next.held.get? socket = some connection) :
    (tracker.placed? act = some connection ∧ connection.socket = socket) ∨
      tracker.held.get? socket = some connection := by
  cases effect with
  | idle _ held _ => exact .inr (held ▸ found)
  | opens loud held _ =>
    rw [held] at found
    split at found
    · rename_i here
      cases found
      exact .inl ⟨placed?_opened loud, here.symm⟩
    · exact .inr found
  | moves was timely elsewhere held _ =>
    rw [held] at found
    split at found
    · rename_i here
      have own := kept.own was
      cases found
      exact .inl ⟨placed?_redirect was timely elsewhere, own.trans here.symm⟩
    · exact .inr found
  | releases _ _ _ _ _ held _ =>
    rw [held] at found
    split at found
    · cases found
    · exact .inr found
  | forgets held _ => exact .inr (held ▸ found)

theorem Effect.latest_unclosed {tracker next : Tracker} {act : Act} (effect : Effect tracker act next)
    (kept : tracker.WellKept) {socket : Socket} {connection latest : Connection}
    (found : next.held.get? socket = some connection)
    (latestFound : next.active.get? connection.pair = some latest)
    (same : latest.isSame connection = true) : latest.closed = none := by
  cases effect with
  | idle _ held active => exact kept.latest_unclosed (held ▸ found) (active ▸ latestFound) same
  | opens _ held active =>
    rw [active] at latestFound
    split at latestFound
    · cases latestFound
      rfl
    · rename_i elsewhere
      rw [held] at found
      split at found
      · cases found
        exact absurd rfl elsewhere
      · exact kept.latest_unclosed found latestFound same
  | moves was _ _ held active =>
    have unclosed := kept.unclosed was
    rw [active] at latestFound
    split at latestFound
    · cases latestFound
      exact unclosed
    · rename_i notNew
      rw [held] at found
      split at found
      · cases found
        exact absurd rfl notNew
      · split at latestFound
        · exact kept.latest_unclosed found (Option.filter_eq_some_iff.1 latestFound).1 same
        · exact kept.latest_unclosed found latestFound same
  | releases now gone _ _ were held active =>
    rw [held] at found
    split at found
    · cases found
    · rename_i remains
      rw [active, Option.map_eq_some_iff] at latestFound
      obtain ⟨before, beforeFound, rfl⟩ := latestFound
      -- A latest connection ends only when its own socket lets go of it.
      have stays : ¬Ends connection.pair gone before := by
        rintro ⟨other, member, _, sameOther⟩
        have sockets := (Connection.isSame_iff.1 sameOther).1
        have ownSocket := (Connection.isSame_iff.1 same).1
        rw [ended_socket, kept.own found] at ownSocket
        exact remains ⟨other, member, sockets.symm.trans ownSocket⟩
      rw [ended_of_not_ends stays] at same ⊢
      exact kept.latest_unclosed found beforeFound same
  | forgets held active =>
    rw [active] at latestFound
    exact kept.latest_unclosed (held ▸ found) (Option.filter_eq_some_iff.1 latestFound).1 same

theorem wellKept_perform {tracker : Tracker} (kept : tracker.WellKept) (act : Act) :
    (tracker.perform act).WellKept := by
  have effect := perform_effect kept act
  constructor
  · intro socket connection found
    rcases effect.held_some kept found with ⟨_, own⟩ | before
    · exact own
    · exact kept.own before
  · intro socket connection found
    rcases effect.held_some kept found with ⟨placed, _⟩ | before
    · exact unclosed_of_placed? kept placed
    · exact kept.unclosed before
  · intro socket connection latest found latestFound same
    exact effect.latest_unclosed kept found latestFound same

theorem wellKept_after (acts : List Act) : (after acts).WellKept := by
  induction acts using List.reverseRecOn with
  | nil => exact wellKept_empty
  | append_singleton acts act ih =>
    rw [after_snoc]
    exact wellKept_perform ih act

/-! ### Known connections -/

/-- A socket holds the connection, or it is the latest of its pair. -/
def Knows (tracker : Tracker) (connection : Connection) : Prop :=
  (∃ socket, tracker.held.get? socket = some connection) ∨
    ∃ pair, tracker.active.get? pair = some connection

theorem not_knows_empty (connection : Connection) : ¬empty.Knows connection := by
  rintro (⟨_, found⟩ | ⟨_, found⟩) <;> cases found

theorem knows_perform {tracker : Tracker} (kept : tracker.WellKept) {act : Act}
    {connection : Connection} (knows : (tracker.perform act).Knows connection) :
    tracker.placed? act = some connection ∨
      ∃ before, tracker.Knows before ∧ connection = { before with closed := connection.closed } := by
  have effect := perform_effect kept act
  rcases knows with ⟨socket, found⟩ | ⟨pair, found⟩
  · rcases effect.held_some kept found with ⟨placed, _⟩ | before
    · exact .inl placed
    · exact .inr ⟨connection, .inl ⟨socket, before⟩, rfl⟩
  · have before (present : tracker.active.get? pair = some connection) :
        ∃ before, tracker.Knows before ∧ connection = { before with closed := connection.closed } :=
      ⟨connection, .inr ⟨pair, present⟩, rfl⟩
    cases effect with
    | idle _ _ active => exact .inr (before (active ▸ found))
    | opens loud _ active =>
      rw [active] at found
      split at found
      · cases found
        exact .inl (placed?_opened loud)
      · exact .inr (before found)
    | moves was timely elsewhere _ active =>
      rw [active] at found
      split at found
      · cases found
        exact .inl (placed?_redirect was timely elsewhere)
      · split at found
        · exact .inr (before (Option.filter_eq_some_iff.1 found).1)
        · exact .inr (before found)
    | releases now gone _ _ _ _ active =>
      rw [active, Option.map_eq_some_iff] at found
      obtain ⟨latest, present, rfl⟩ := found
      refine .inr ⟨latest, .inr ⟨pair, present⟩, ?_⟩
      unfold ended
      split <;> rfl
    | forgets _ active =>
      rw [active] at found
      exact .inr (before (Option.filter_eq_some_iff.1 found).1)

end Tracker

end Attribution
