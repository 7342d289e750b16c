import Attribution.Proofs.Tracker.Acts

/-!
What of a container's connections outlives its processes.

A connection whose close was missed ends with its process, since the process still holds its socket.
It is different with a socket that is used again before it was closed: the later connection takes the
place of the former, which stays the latest of its pair with nobody left to close it.  Main statement:
after all processes have ended and the time to live is over, a tracker is clear unless such a pair
was left behind and not used again.
-/

namespace Attribution.Tracker

/-- Whether the latest connection of a pair is held by its socket on that pair. -/
def Backed (tracker : Tracker) (pair : Pair) (latest : Connection) : Prop :=
  ∃ connection, tracker.held.get? latest.socket = some connection ∧ connection.pair = pair ∧
    connection.timestamp = latest.timestamp

/-- The pair's latest connection counts as open although no socket holds it there. -/
def Orphaned (tracker : Tracker) (pair : Pair) : Prop :=
  ∃ latest, tracker.active.get? pair = some latest ∧ latest.closed = none ∧
    ¬tracker.Backed pair latest

/-- An opening takes over the socket that holds the latest connection of a pair, and goes to
another pair. -/
def Displaces (tracker : Tracker) (act : Act) (pair : Pair) : Prop :=
  ∃ opening now latest, act = .opened opening now ∧ opening.destination.isLoopback = false ∧
    opening.connection.pair ≠ pair ∧ tracker.active.get? pair = some latest ∧
    latest.socket = opening.connection.socket ∧ tracker.Backed pair latest

/-- An act puts a connection on a pair. -/
def Reaches (tracker : Tracker) (act : Act) (pair : Pair) : Prop :=
  ∃ connection, tracker.placed? act = some connection ∧ connection.pair = pair

/-- In the course of a run the latest connection of a pair was displaced, and the pair was not
reached since. -/
inductive Abandoned (pair : Pair) : List Act → Prop where
  | displaced {acts : List Act} {act : Act} :
      (after acts).Displaces act pair → Abandoned pair (acts ++ [act])
  | unreached {acts : List Act} {act : Act} :
      Abandoned pair acts → ¬(after acts).Reaches act pair → Abandoned pair (acts ++ [act])

theorem placed?_of_displaces {tracker : Tracker} {act : Act} {pair : Pair}
    (displaces : tracker.Displaces act pair) : ∃ connection, tracker.placed? act = some connection := by
  obtain ⟨opening, now, _, rfl, loud, _⟩ := displaces
  exact ⟨opening.connection, placed?_opened loud⟩

theorem not_displaces_of_unplaced {tracker : Tracker} {act : Act} {pair : Pair}
    (nothing : tracker.placed? act = none) : ¬tracker.Displaces act pair := by
  intro displaces
  obtain ⟨connection, placed⟩ := placed?_of_displaces displaces
  rw [nothing] at placed
  cases placed

theorem not_reaches_of_unplaced {tracker : Tracker} {act : Act} {pair : Pair}
    (nothing : tracker.placed? act = none) : ¬tracker.Reaches act pair := by
  rintro ⟨connection, placed, _⟩
  rw [nothing] at placed
  cases placed

theorem not_orphaned_of_held {tracker : Tracker} {pair : Pair} {latest : Connection}
    (found : tracker.active.get? pair = some latest)
    (holds : tracker.held.get? latest.socket = some latest) (onPair : latest.pair = pair) :
    ¬tracker.Orphaned pair := by
  rintro ⟨other, otherFound, _, unbacked⟩
  rw [found] at otherFound
  cases otherFound
  exact unbacked ⟨latest, holds, onPair, rfl⟩

theorem orphaned_step_of_unplaced {tracker next : Tracker} {act : Act} {pair : Pair}
    (nothing : tracker.placed? act = none) (same : next.Orphaned pair ↔ tracker.Orphaned pair) :
    next.Orphaned pair ↔
      tracker.Displaces act pair ∨ (tracker.Orphaned pair ∧ ¬tracker.Reaches act pair) := by
  rw [same]
  exact ⟨fun orphaned => .inr ⟨orphaned, not_reaches_of_unplaced nothing⟩,
    fun known => known.elim (absurd · (not_displaces_of_unplaced nothing)) And.left⟩

theorem orphaned_releases {tracker next : Tracker} {now : Instant} {gone : List Connection}
    (were : ∀ connection ∈ gone, tracker.held.get? connection.socket = some connection)
    (held : ∀ socket, next.held.get? socket =
      if ∃ connection ∈ gone, connection.socket = socket then none else tracker.held.get? socket)
    (active : ∀ pair, next.active.get? pair = (tracker.active.get? pair).map (ended now pair gone))
    (pair : Pair) : next.Orphaned pair ↔ tracker.Orphaned pair := by
  constructor
  · rintro ⟨latest, found, unclosed, unbacked⟩
    rw [active, Option.map_eq_some_iff] at found
    obtain ⟨before, beforeFound, rfl⟩ := found
    have remains := not_ends_of_unclosed unclosed
    rw [ended_of_not_ends remains] at unclosed unbacked
    refine ⟨before, beforeFound, unclosed, ?_⟩
    rintro ⟨connection, holds, onPair, timely⟩
    apply unbacked
    refine ⟨connection, ?_, onPair, timely⟩
    rw [held, if_neg]
    · exact holds
    · rintro ⟨other, member, socket⟩
      have holdsOther := were other member
      rw [socket, holds] at holdsOther
      cases holdsOther
      exact remains ⟨connection, member, onPair.symm,
        Connection.isSame_iff.2 ⟨socket.symm, timely.symm⟩⟩
  · rintro ⟨latest, found, unclosed, unbacked⟩
    have remains : ¬Ends pair gone latest := by
      rintro ⟨connection, member, onPair, same⟩
      obtain ⟨sockets, times⟩ := Connection.isSame_iff.1 same
      exact unbacked ⟨connection, sockets ▸ were connection member, onPair.symm, times.symm⟩
    refine ⟨latest, by rw [active, found, Option.map_some, ended_of_not_ends remains], unclosed, ?_⟩
    rintro ⟨connection, holds, onPair, timely⟩
    rw [held] at holds
    split at holds
    · cases holds
    · exact unbacked ⟨connection, holds, onPair, timely⟩

theorem orphaned_forgets {tracker next : Tracker} {now ttl : Instant}
    (held : next.held = tracker.held)
    (active : ∀ pair, next.active.get? pair =
      (tracker.active.get? pair).filter fun latest => !latest.closed.any (isExpired now ttl))
    (pair : Pair) : next.Orphaned pair ↔ tracker.Orphaned pair := by
  unfold Orphaned Backed
  rw [active, held]
  constructor
  · rintro ⟨latest, found, unclosed, unbacked⟩
    exact ⟨latest, (Option.filter_eq_some_iff.1 found).1, unclosed, unbacked⟩
  · rintro ⟨latest, found, unclosed, unbacked⟩
    refine ⟨latest, ?_, unclosed, unbacked⟩
    rw [Option.filter_eq_some_iff]
    exact ⟨found, by simp [unclosed]⟩

theorem orphaned_opens {tracker next : Tracker} {opening : Opening} {now : Instant}
    (kept : tracker.WellKept) (loud : opening.destination.isLoopback = false)
    (held : ∀ socket, next.held.get? socket =
      if socket = opening.connection.socket then some opening.connection
      else tracker.held.get? socket)
    (active : ∀ pair, next.active.get? pair =
      if pair = opening.connection.pair then some opening.connection else tracker.active.get? pair)
    (pair : Pair) :
    next.Orphaned pair ↔ tracker.Displaces (.opened opening now) pair ∨
      (tracker.Orphaned pair ∧ ¬tracker.Reaches (.opened opening now) pair) := by
  have reaches : tracker.Reaches (.opened opening now) pair ↔ opening.connection.pair = pair := by
    simp [Reaches, placed?_opened loud]
  by_cases here : pair = opening.connection.pair
  · -- The new connection is held where it landed.
    have backed : ¬next.Orphaned pair :=
      not_orphaned_of_held (by rw [active, if_pos here]) (by rw [held, if_pos rfl]) here.symm
    have notDisplaced : ¬tracker.Displaces (.opened opening now) pair := by
      rintro ⟨other, _, _, same, _, away, _⟩
      cases same
      exact away here.symm
    have landed := reaches.2 here.symm
    simp only [backed, notDisplaced, landed, not_true_eq_false, and_false, or_false]
  · have away : ¬opening.connection.pair = pair := fun same => here same.symm
    rw [reaches]
    constructor
    · rintro ⟨latest, found, unclosed, unbacked⟩
      rw [active, if_neg here] at found
      by_cases backed : tracker.Backed pair latest
      · by_cases taken : latest.socket = opening.connection.socket
        · exact .inl ⟨opening, now, latest, rfl, loud, away, found, taken, backed⟩
        · obtain ⟨connection, holds, onPair, timely⟩ := backed
          exact absurd ⟨connection, by rw [held, if_neg taken, holds], onPair, timely⟩ unbacked
      · exact .inr ⟨⟨latest, found, unclosed, backed⟩, away⟩
    · rintro (⟨_, _, latest, same, _, _, found, taken, connection, holds, onPair, timely⟩ |
        ⟨⟨latest, found, unclosed, unbacked⟩, _⟩)
      · cases same
        have unclosed := kept.latest_unclosed holds (onPair ▸ found)
          (Connection.isSame_iff.2 ⟨(kept.own holds).symm, timely.symm⟩)
        refine ⟨latest, by rw [active, if_neg here, found], unclosed, ?_⟩
        rintro ⟨other, holdsOther, otherPair, _⟩
        rw [held, if_pos taken] at holdsOther
        cases holdsOther
        exact away otherPair
      · refine ⟨latest, by rw [active, if_neg here, found], unclosed, ?_⟩
        rintro ⟨other, holdsOther, otherPair, timely⟩
        rw [held] at holdsOther
        split at holdsOther
        · cases holdsOther
          exact away otherPair
        · exact unbacked ⟨other, holdsOther, otherPair, timely⟩

section Moves

variable {tracker next : Tracker} {socket : Socket} {timestamp : UInt64} {actual : Address}
  {connection latest : Connection} {pair : Pair}

/-- A moved connection backs no latest connection of another pair, unless it is leaving that. -/
theorem backed_moves_iff (own : connection.socket = socket)
    (found : tracker.held.get? socket = some connection)
    (held : ∀ other, next.held.get? other =
      if other = socket then some { connection with actual := actual } else tracker.held.get? other)
    (away : ¬(⟨connection.source, actual⟩ : Pair) = pair)
    (other : pair = connection.pair → latest.isSame connection = false) :
    next.Backed pair latest ↔ tracker.Backed pair latest := by
  unfold Backed
  rw [held]
  by_cases same : latest.socket = socket
  · rw [if_pos same, same, found]
    constructor
    · rintro ⟨_, moved, onPair, _⟩
      cases moved
      exact absurd onPair away
    · rintro ⟨_, stayed, onPair, times⟩
      cases stayed
      have distinct := other onPair.symm
      rw [Connection.isSame_iff.2 ⟨same.trans own.symm, times.symm⟩] at distinct
      cases distinct
  · rw [if_neg same]

theorem latest_moves_iff (active : next.active.get? pair =
      if pair = ⟨connection.source, actual⟩ then some { connection with actual := actual }
      else if pair = connection.pair then
        (tracker.active.get? pair).filter fun latest => !latest.isSame connection
      else tracker.active.get? pair)
    (away : ¬(⟨connection.source, actual⟩ : Pair) = pair) :
    next.active.get? pair = some latest ↔ tracker.active.get? pair = some latest ∧
      (pair = connection.pair → latest.isSame connection = false) := by
  rw [active, if_neg (Ne.symm away)]
  by_cases left : pair = connection.pair
  · simp [left, Option.filter_eq_some_iff]
  · simp [left]

theorem orphaned_moves (kept : tracker.WellKept) (found : tracker.held.get? socket = some connection)
    (timely : connection.timestamp = timestamp) (elsewhere : connection.actual ≠ actual)
    (held : ∀ other, next.held.get? other =
      if other = socket then some { connection with actual := actual } else tracker.held.get? other)
    (active : ∀ pair, next.active.get? pair =
      if pair = ⟨connection.source, actual⟩ then some { connection with actual := actual }
      else if pair = connection.pair then
        (tracker.active.get? pair).filter fun latest => !latest.isSame connection
      else tracker.active.get? pair)
    (pair : Pair) :
    next.Orphaned pair ↔ tracker.Displaces (.redirect socket timestamp actual) pair ∨
      (tracker.Orphaned pair ∧ ¬tracker.Reaches (.redirect socket timestamp actual) pair) := by
  have own := kept.own found
  have notDisplaced : ¬tracker.Displaces (.redirect socket timestamp actual) pair := by
    rintro ⟨_, _, _, same, _⟩
    cases same
  have reaches : tracker.Reaches (.redirect socket timestamp actual) pair ↔
      ⟨connection.source, actual⟩ = pair := by
    simp [Reaches, placed?_redirect found timely elsewhere, Connection.pair]
  simp only [notDisplaced, false_or, reaches]
  by_cases here : (⟨connection.source, actual⟩ : Pair) = pair
  · have onPair : ({ connection with actual := actual } : Connection).pair = pair := here
    have backed : ¬next.Orphaned pair :=
      not_orphaned_of_held (by rw [active, if_pos here.symm]) (by rw [held]; exact if_pos own) onPair
    simp only [backed, here, not_true_eq_false, and_false]
  · constructor
    · rintro ⟨latest, latestFound, unclosed, unbacked⟩
      obtain ⟨before, other⟩ := (latest_moves_iff (active pair) here).1 latestFound
      rw [backed_moves_iff own found held here other] at unbacked
      exact ⟨⟨latest, before, unclosed, unbacked⟩, here⟩
    · rintro ⟨⟨latest, before, unclosed, unbacked⟩, _⟩
      have other : pair = connection.pair → latest.isSame connection = false := by
        intro left
        by_contra same
        obtain ⟨sockets, times⟩ := Connection.isSame_iff.1 (by simpa using same)
        exact unbacked ⟨connection, by rw [sockets, own, found], left.symm, times.symm⟩
      refine ⟨latest, (latest_moves_iff (active pair) here).2 ⟨before, other⟩, unclosed, ?_⟩
      rw [backed_moves_iff own found held here other]
      exact unbacked

end Moves

/-- Only an opening that displaces a pair's latest connection leaves the pair orphaned, and only a
connection that lands on the pair mends it. -/
theorem orphaned_perform {tracker : Tracker} (kept : tracker.WellKept) (act : Act) (pair : Pair) :
    (tracker.perform act).Orphaned pair ↔
      tracker.Displaces act pair ∨ (tracker.Orphaned pair ∧ ¬tracker.Reaches act pair) := by
  cases perform_effect kept act with
  | idle nothing held active =>
    apply orphaned_step_of_unplaced nothing
    unfold Orphaned Backed
    rw [held, active]
  | opens loud held active => exact orphaned_opens kept loud held active pair
  | moves found timely elsewhere held active =>
    exact orphaned_moves kept found timely elsewhere held active pair
  | releases now gone nothing _ were held active =>
    exact orphaned_step_of_unplaced nothing (orphaned_releases were held active pair)
  | forgets held active =>
    exact orphaned_step_of_unplaced rfl (orphaned_forgets held active pair)

theorem abandoned_snoc_iff {pair : Pair} {acts : List Act} {act : Act} :
    Abandoned pair (acts ++ [act]) ↔
      (after acts).Displaces act pair ∨ (Abandoned pair acts ∧ ¬(after acts).Reaches act pair) := by
  constructor
  · intro abandoned
    generalize whole : acts ++ [act] = run at abandoned
    cases abandoned with
    | displaced displaces =>
      obtain ⟨rfl, last⟩ := List.append_inj' whole rfl
      cases last
      exact .inl displaces
    | unreached abandoned unreached =>
      obtain ⟨rfl, last⟩ := List.append_inj' whole rfl
      cases last
      exact .inr ⟨abandoned, unreached⟩
  · rintro (displaces | ⟨abandoned, unreached⟩)
    · exact .displaced displaces
    · exact .unreached abandoned unreached

theorem orphaned_after_iff (acts : List Act) (pair : Pair) :
    (after acts).Orphaned pair ↔ Abandoned pair acts := by
  induction acts using List.reverseRecOn with
  | nil =>
    constructor
    · rintro ⟨latest, found, _⟩
      cases found
    · intro abandoned
      generalize whole : ([] : List Act) = run at abandoned
      cases abandoned <;> simp at whole
  | append_singleton acts act ih =>
    rw [after_snoc, orphaned_perform (wellKept_after acts), abandoned_snoc_iff, ih]

/-! ### The end of all processes -/

def openers (acts : List Act) : List UInt32 :=
  acts.filterMap fun act =>
    match act with
    | .opened opening _ => some opening.pid
    | _ => none

def exits (pids : List UInt32) (moment : Instant) : List Act :=
  pids.map (.exit · moment)

/-- Nothing is known of any connection. -/
structure IsClear (tracker : Tracker) : Prop where
  held : tracker.held = .empty
  active : tracker.active = .empty
  successful : tracker.successful = .empty
  failed : tracker.failed = .empty
  lastAttempt : tracker.lastAttempt = .empty

/-- No close and no attempt is later than a moment. -/
structure Past (tracker : Tracker) (moment : Instant) : Prop where
  closes : ∀ {pair latest time}, tracker.active.get? pair = some latest →
    latest.closed = some time → time ≤ moment
  attempts : ∀ {destination time}, tracker.lastAttempt.get? destination = some time → time ≤ moment

theorem opener_of_held (acts : List Act) {socket : Socket} {connection : Connection}
    (found : (after acts).held.get? socket = some connection) : socket.pid ∈ openers acts := by
  induction acts using List.reverseRecOn generalizing socket connection with
  | nil => cases found
  | append_singleton acts act ih =>
    have kept := wellKept_after acts
    rw [after_snoc] at found
    rw [openers, List.filterMap_append, List.mem_append]
    rcases (perform_effect kept act).held_some kept found with ⟨placed, rfl⟩ | before
    · cases act with
      | opened opening now =>
        simp only [placed?, Option.ite_none_left_eq_some, Option.some.injEq] at placed
        rw [← placed.2]
        exact .inr (by simp [Opening.connection, Connection.socket])
      | redirect other timestamp actual =>
        simp only [placed?, movable?, Option.map_eq_some_iff, Option.filter_eq_some_iff] at placed
        obtain ⟨before, ⟨holds, _⟩, rfl⟩ := placed
        have own := kept.own holds
        exact .inl (ih (own ▸ holds))
      | _ => simp [placed?] at placed
    · exact .inl (ih before)

theorem lastAttempt_attempt {tracker : Tracker} {destination other : Address} {now time : Instant}
    (found : (tracker.attempt other now).lastAttempt.get? destination = some time) :
    some now = some time ∨ tracker.lastAttempt.get? destination = some time := by
  rw [attempt, Table.get?_insert] at found
  split at found
  · exact .inl found
  · exact .inr found

theorem lastAttempt_perform {tracker : Tracker} {act : Act} {destination : Address} {time : Instant}
    (found : (tracker.perform act).lastAttempt.get? destination = some time) :
    act.moment? = some time ∨ tracker.lastAttempt.get? destination = some time := by
  cases act with
  | opened opening now =>
    simp only [perform, opened] at found
    split at found
    · exact .inr found
    · exact lastAttempt_attempt found
  | failedOpen other now =>
    simp only [perform, failedOpen] at found
    split at found
    · exact .inr found
    · exact lastAttempt_attempt found
  | close socket timestamp now =>
    simp only [perform, close] at found
    split at found <;> exact .inr found
  | redirect socket timestamp actual =>
    simp only [perform, redirect] at found
    split at found
    · exact .inr found
    · split at found <;> exact .inr found
  | requested socket timestamp request =>
    simp only [perform, requested] at found
    split at found <;> exact .inr found
  | purge now ttl =>
    simp only [perform, purge, Table.get?_filter, Option.filter_eq_some_iff] at found
    exact .inr found.1
  | _ => exact .inr found

theorem past_perform {tracker : Tracker} (kept : tracker.WellKept) {moment : Instant}
    (past : tracker.Past moment) {act : Act} (timely : ∀ time, act.moment? = some time → time ≤ moment) :
    (tracker.perform act).Past moment := by
  constructor
  · intro pair latest time found closed
    cases perform_effect kept act with
    | idle _ _ active => exact past.closes (active ▸ found) closed
    | opens _ _ active =>
      rw [active] at found
      split at found
      · cases found
        cases closed
      · exact past.closes found closed
    | moves was _ _ _ active =>
      have unclosed := kept.unclosed was
      rw [active] at found
      split at found
      · cases found
        exact absurd closed (by simp [unclosed])
      · split at found
        · exact past.closes (Option.filter_eq_some_iff.1 found).1 closed
        · exact past.closes found closed
    | releases now gone _ timed _ _ active =>
      rw [active, Option.map_eq_some_iff] at found
      obtain ⟨before, beforeFound, rfl⟩ := found
      unfold ended at closed
      split at closed
      · cases closed
        exact timely _ timed
      · exact past.closes beforeFound closed
    | forgets _ active =>
      rw [active] at found
      exact past.closes (Option.filter_eq_some_iff.1 found).1 closed
  · intro destination time found
    rcases lastAttempt_perform found with now | before
    · exact timely time now
    · exact past.attempts before

theorem past_after {acts : List Act} {moment : Instant}
    (timely : ∀ act ∈ acts, ∀ time, act.moment? = some time → time ≤ moment) :
    (after acts).Past moment := by
  induction acts using List.reverseRecOn with
  | nil => exact ⟨fun found => (by cases found), fun found => (by cases found)⟩
  | append_singleton acts act ih =>
    rw [after_snoc]
    exact past_perform (wellKept_after acts)
      (ih fun other member => timely other (List.mem_append_left _ member)) (timely act (by simp))

theorem exits_snoc (pids : List UInt32) (pid : UInt32) (moment : Instant) :
    exits (pids ++ [pid]) moment = exits pids moment ++ [.exit pid moment] := by
  simp [exits]

theorem abandoned_exits_iff (acts : List Act) (pids : List UInt32) (moment : Instant) (pair : Pair) :
    Abandoned pair (acts ++ exits pids moment) ↔ Abandoned pair acts := by
  induction pids using List.reverseRecOn with
  | nil => simp [exits]
  | append_singleton pids pid ih =>
    have unplaced : (after (acts ++ exits pids moment)).placed? (.exit pid moment) = none := rfl
    have stays : ¬(after (acts ++ exits pids moment)).Displaces (.exit pid moment) pair :=
      not_displaces_of_unplaced unplaced
    have misses : ¬(after (acts ++ exits pids moment)).Reaches (.exit pid moment) pair :=
      not_reaches_of_unplaced unplaced
    rw [exits_snoc, ← List.append_assoc, abandoned_snoc_iff, ih]
    simp only [stays, misses, not_false_eq_true, and_true, false_or]

theorem held_exits (acts : List Act) (pids : List UInt32) (moment : Instant) (socket : Socket) :
    (after (acts ++ exits pids moment)).held.get? socket =
      if socket.pid ∈ pids then none else (after acts).held.get? socket := by
  induction pids using List.reverseRecOn with
  | nil => simp [exits]
  | append_singleton pids pid ih =>
    rw [exits_snoc, ← List.append_assoc, after_snoc, perform, held_exit, ih]
    by_cases last : socket.pid = pid
    · simp [last]
    · simp [last]

theorem held_eq_empty {acts : List Act} {pids : List UInt32} (moment : Instant)
    (all : ∀ pid ∈ openers acts, pid ∈ pids) : (after (acts ++ exits pids moment)).held = .empty := by
  rw [Table.eq_empty_iff]
  intro socket
  rw [held_exits]
  split
  · rfl
  · rename_i absent
    cases found : (after acts).held.get? socket with
    | none => rfl
    | some connection => exact absurd (all _ (opener_of_held acts found)) absent

theorem isExpired_of_late {time moment now ttl : Instant} (past : time ≤ moment)
    (late : moment + ttl ≤ now) : isExpired now ttl time = true := by
  have early : time + ttl ≤ now := Nat.le_trans (Nat.add_le_add_right past ttl) late
  rw [Nat.add_comm] at early
  exact decide_eq_true (Nat.le_sub_of_add_le early)

section Purge

variable {tracker : Tracker} {moment now ttl : Instant}

theorem contains_purge_iff (quiet : tracker.held = .empty) (past : tracker.Past moment)
    (late : moment + ttl ≤ now) (pair : Pair) :
    (tracker.purge now ttl).2.active.contains pair = true ↔ tracker.Orphaned pair := by
  unfold Table.contains
  rw [active_purge, Option.isSome_iff_exists]
  simp only [Option.filter_eq_some_iff]
  constructor
  · rintro ⟨latest, found, recent⟩
    refine ⟨latest, found, ?_, ?_⟩
    · cases closed : latest.closed with
      | none => rfl
      | some time =>
        have expired := isExpired_of_late (past.closes found closed) late
        simp [closed, expired] at recent
    · rintro ⟨connection, holds, _⟩
      rw [quiet, Table.get?_empty] at holds
      cases holds
  · rintro ⟨latest, found, unclosed, _⟩
    exact ⟨latest, found, by simp [unclosed]⟩

theorem clear_purge_iff (quiet : tracker.held = .empty) (past : tracker.Past moment)
    (late : moment + ttl ≤ now) :
    (tracker.purge now ttl).2.IsClear ↔ ∀ pair, ¬tracker.Orphaned pair := by
  have remain := contains_purge_iff quiet past late
  constructor
  · intro clear pair orphaned
    have present := (remain pair).2 orphaned
    rw [clear.active] at present
    cases present
  · intro none
    have gone (pair : Pair) : (tracker.purge now ttl).2.active.contains pair = false := by
      rw [← Bool.not_eq_true, remain]
      exact none pair
    have attempts : (tracker.purge now ttl).2.lastAttempt = .empty := by
      rw [Table.eq_empty_iff]
      intro destination
      simp only [purge, Table.get?_filter, Option.filter_eq_none_iff]
      intro time found
      simp [isExpired_of_late (past.attempts found) late]
    constructor
    · exact quiet
    · rw [Table.eq_empty_iff]
      intro pair
      exact Option.isSome_eq_false_iff.1 (gone pair) |> Option.isNone_iff_eq_none.1
    · rw [Table.eq_empty_iff]
      intro pair
      simp only [purge, Table.get?_filter, Option.filter_eq_none_iff]
      intro _ _ present
      exact absurd ((gone pair).symm.trans present) Bool.false_ne_true
    · rw [Table.eq_empty_iff]
      intro destination
      simp only [purge, Table.get?_filter, Option.filter_eq_none_iff]
      intro _ _ present
      have void : (tracker.purge now ttl).2.lastAttempt.contains destination = false := by
        rw [attempts]
        rfl
      exact absurd (void.symm.trans present) Bool.false_ne_true
    · exact attempts

end Purge

/-- Once every process that opened a connection has ended and the time to live has passed, only the
abandoned pairs are left of all connections, so the tracker is clear exactly when there are none. -/
theorem clear_iff_none_abandoned (acts : List Act) (pids : List UInt32) (moment now ttl : Instant)
    (past : ∀ act ∈ acts, ∀ time, act.moment? = some time → time ≤ moment)
    (all : ∀ pid ∈ openers acts, pid ∈ pids) (late : moment + ttl ≤ now) :
    let final := after (acts ++ exits pids moment ++ [.purge now ttl])
    (∀ pair, final.active.contains pair = true ↔ Abandoned pair acts) ∧
      (final.IsClear ↔ ∀ pair, ¬Abandoned pair acts) := by
  have quiet := held_eq_empty moment all
  have settled : (after (acts ++ exits pids moment)).Past moment := by
    apply past_after
    intro act member time timed
    rcases List.mem_append.1 member with early | exit
    · exact past act early time timed
    · obtain ⟨pid, _, rfl⟩ := List.mem_map.1 exit
      cases timed
      exact Nat.le_refl _
  have orphaned (pair : Pair) : (after (acts ++ exits pids moment)).Orphaned pair ↔
      Abandoned pair acts := by
    rw [orphaned_after_iff, abandoned_exits_iff]
  rw [after_snoc]
  constructor
  · intro pair
    rw [← orphaned]
    exact contains_purge_iff quiet settled late pair
  · simp only [← orphaned]
    exact clear_purge_iff quiet settled late

/-! ### A descriptor used again without a close -/

/-- A process opens descriptor 3 twice, from two ports, and no close is seen in between. -/
def reopening : List Act :=
  [.opened ⟨.v4 0x0A000002 40000, .v4 0x0A000009 80, .v4 0x0A000009 80, 7, 3, 100⟩ 1000,
    .opened ⟨.v4 0x0A000002 40001, .v4 0x0A000009 80, .v4 0x0A000009 80, 7, 3, 200⟩ 1000]

def reopenedFrom : Pair :=
  ⟨.v4 0x0A000002 40000, .v4 0x0A000009 80⟩

theorem reopening_abandons_first_pair :
    (after (reopening ++ exits [7] 2000 ++ [.purge 302000 300000])).active.contains reopenedFrom = true ∧
      Abandoned reopenedFrom reopening := by
  have left := (clear_iff_none_abandoned reopening [7] 2000 302000 300000
    (by simp [reopening, Act.moment?]) (by simp [reopening, openers]) (by decide)).1 reopenedFrom
  have present : (after (reopening ++ exits [7] 2000 ++ [.purge 302000 300000])).active.contains
      reopenedFrom = true := by decide
  exact ⟨present, left.1 present⟩

/-- Times that do not decrease and a positive time to live are not enough for a clear tracker. -/
theorem not_always_clear :
    ¬∀ (acts : List Act) (pids : List UInt32) (moment now ttl : Instant),
      (acts.filterMap Act.moment?).Pairwise (· ≤ ·) →
      (∀ act ∈ acts, ∀ time, act.moment? = some time → time ≤ moment) →
      (∀ pid ∈ openers acts, pid ∈ pids) → 0 < ttl → moment + ttl ≤ now →
      (after (acts ++ exits pids moment ++ [.purge now ttl])).IsClear := by
  intro always
  have clear := always reopening [7] 2000 302000 300000 (by decide)
    (by simp [reopening, Act.moment?]) (by simp [reopening, openers]) (by decide) (by decide)
  have present : (after (reopening ++ exits [7] 2000 ++ [.purge 302000 300000])).active.contains
      reopenedFrom = true := by decide
  rw [clear.active] at present
  cases present

end Attribution.Tracker
