import Attribution.Connection.Summary
import Attribution.Proofs.Tracker.Counters

/-!
What a purge takes from sockets that share a pair.

A purge keeps the counter of a pair whose latest connection is open or was closed lately.  Where
several sockets hold one pair, the latest connection can end or move away while others stay open, and
their counter goes with it.  Main statement: exactly such a purge makes the counter of a held pair
disappear, and it never meets a pair that is held by one socket at a time.
-/

namespace Attribution.Tracker

variable {tracker : Tracker} {pair : Pair} {acts : List Act}

/-- A purge would find no connection on a pair that is open or was closed lately. -/
def Lapsed (tracker : Tracker) (pair : Pair) (now ttl : Instant) : Prop :=
  ∀ latest, tracker.active.get? pair = some latest → latest.closed.any (isExpired now ttl) = true

def Shared (tracker : Tracker) (pair : Pair) : Prop :=
  ∃ first second a b, first ≠ second ∧ tracker.held.get? first = some a ∧ a.pair = pair ∧
    tracker.held.get? second = some b ∧ b.pair = pair

/-- A property holds at every moment of a run. -/
def Throughout (property : Tracker → Prop) (acts : List Act) : Prop :=
  ∀ early, early <+: acts → property (after early)

/-- In the course of a run a purge finds a pair lapsed although a socket holds it. -/
def Overlooked (pair : Pair) (acts : List Act) : Prop :=
  ∃ early now ttl, early ++ [.purge now ttl] <+: acts ∧ (after early).Holds pair ∧
    (after early).Lapsed pair now ttl

theorem throughout_of_snoc {property : Tracker → Prop} {act : Act}
    (holds : Throughout property (acts ++ [act])) : Throughout property acts :=
  fun early within => holds early (within.trans (List.prefix_append acts [act]))

/-! ### Purges of a held pair -/

theorem lapsed_iff {now ttl : Instant} :
    tracker.Lapsed pair now ttl ↔ (tracker.purge now ttl).2.active.contains pair = false := by
  unfold Lapsed Table.contains
  rw [active_purge]
  cases tracker.active.get? pair with
  | none => simp
  | some latest => cases expired : latest.closed.any (isExpired now ttl) <;> simp [expired]

theorem successful_purge (tracker : Tracker) (now ttl : Instant) (pair : Pair) :
    (tracker.purge now ttl).2.successful.get? pair =
      if (tracker.purge now ttl).2.active.contains pair then tracker.successful.get? pair else none := by
  refine (Table.get?_filter _ _ pair).trans ?_
  change _ = if (tracker.active.filter fun _ connection =>
    !connection.closed.any (isExpired now ttl)).contains pair then _ else none
  cases tracker.successful.get? pair <;> simp [Option.filter]

theorem covers_purge (covers : tracker.Covers pair) {now ttl : Instant}
    (stays : tracker.Holds pair → ¬tracker.Lapsed pair now ttl) :
    (tracker.purge now ttl).2.Covers pair := by
  have same : (tracker.purge now ttl).2.holders pair = tracker.holders pair := rfl
  unfold Covers at covers ⊢
  rw [same]
  by_cases held : tracker.Holds pair
  · have alive : (tracker.purge now ttl).2.active.contains pair = true := by
      simpa [lapsed_iff] using stays held
    rw [Table.getD, successful_purge, if_pos alive]
    exact covers
  · have none := mt holders_pos_iff.1 held
    omega

theorem contains_of_covers (covers : tracker.Covers pair) (held : tracker.Holds pair) :
    tracker.successful.contains pair = true := by
  have counted := (holders_pos_iff.2 held).trans_le covers
  unfold Table.getD at counted
  unfold Table.contains
  cases present : tracker.successful.get? pair with
  | none => simp [present] at counted
  | some count => rfl

theorem covers_of_not_overlooked (never : ¬Overlooked pair acts) : (after acts).Covers pair := by
  induction acts using List.reverseRecOn with
  | nil => exact Nat.le_refl 0
  | append_singleton acts act ih =>
    have covers : (after acts).Covers pair := by
      apply ih
      rintro ⟨early, now, ttl, within, overlooked⟩
      exact never ⟨early, now, ttl, within.trans (List.prefix_append acts [act]), overlooked⟩
    rw [after_snoc]
    by_cases purges : ∃ now ttl, act = .purge now ttl
    · obtain ⟨now, ttl, rfl⟩ := purges
      exact covers_purge covers fun held lapsed =>
        never ⟨acts, now, ttl, List.prefix_refl _, held, lapsed⟩
    · exact covers_perform (wellKept_after acts) covers fun now ttl same => purges ⟨now, ttl, same⟩

/-! ### Pairs with one socket at a time -/

/-- Whatever socket holds a pair, its connection is the latest there. -/
def Leads (tracker : Tracker) (pair : Pair) : Prop :=
  ∀ socket connection, tracker.held.get? socket = some connection → connection.pair = pair →
    ∃ latest, tracker.active.get? pair = some latest ∧ latest.isSame connection = true

theorem isSame_ended (now : Instant) (pair : Pair) (gone : List Connection)
    (latest connection : Connection) :
    (ended now pair gone latest).isSame connection = latest.isSame connection := by
  unfold ended
  split <;> rfl

theorem isSame_refl (connection : Connection) : connection.isSame connection = true :=
  Connection.isSame_iff.2 ⟨rfl, rfl⟩

theorem leads_perform (kept : tracker.WellKept) (leads : tracker.Leads pair) {act : Act}
    (before : ¬tracker.Shared pair) (after : ¬(tracker.perform act).Shared pair) :
    (tracker.perform act).Leads pair := by
  have effect := perform_effect kept act
  generalize tracker.perform act = next at effect after ⊢
  intro socket connection found onPair
  cases effect with
  | idle _ held active =>
    rw [held] at found
    rw [active]
    exact leads socket connection found onPair
  | @opens opening now _ loud held active =>
    have here := held opening.connection.socket
    rw [if_pos rfl] at here
    by_cases own : socket = opening.connection.socket
    · rw [own, here] at found
      cases found
      exact ⟨opening.connection, by rw [active, if_pos onPair.symm], isSame_refl _⟩
    · have away : pair ≠ opening.connection.pair := fun same =>
        after ⟨_, _, _, _, own, found, onPair, here, same.symm⟩
      rw [held, if_neg own] at found
      rw [active, if_neg away]
      exact leads socket connection found onPair
  | @moves mover timestamp actual moved _ was timely elsewhere held active =>
    have here := held mover
    rw [if_pos rfl] at here
    by_cases own : socket = mover
    · rw [own, here] at found
      cases found
      exact ⟨_, by rw [active]; exact if_pos onPair.symm, isSame_refl _⟩
    · have notNew : pair ≠ ⟨moved.source, actual⟩ := fun same =>
        after ⟨_, _, _, _, own, found, onPair, here, same.symm⟩
      rw [held, if_neg own] at found
      have notLeft : pair ≠ moved.pair := fun same =>
        before ⟨_, _, _, _, own, found, onPair, was, same.symm⟩
      rw [active, if_neg notNew, if_neg notLeft]
      exact leads socket connection found onPair
  | releases now gone _ _ were held active =>
    rw [held] at found
    split at found
    · cases found
    · obtain ⟨latest, latestFound, same⟩ := leads socket connection found onPair
      refine ⟨ended now pair gone latest, by rw [active, latestFound]; rfl, ?_⟩
      rw [isSame_ended, same]
  | forgets held active =>
    rw [held] at found
    obtain ⟨latest, latestFound, same⟩ := leads socket connection found onPair
    have unclosed := kept.latest_unclosed found (onPair ▸ latestFound) same
    exact ⟨latest, by rw [active, latestFound]; simp [unclosed, Option.filter], same⟩

theorem leads_after (alone : Throughout (¬·.Shared pair) acts) : (after acts).Leads pair := by
  induction acts using List.reverseRecOn with
  | nil =>
    intro socket connection found
    cases found
  | append_singleton acts act ih =>
    have before := throughout_of_snoc alone
    have last := alone _ (List.prefix_refl _)
    rw [after_snoc] at last ⊢
    exact leads_perform (wellKept_after acts) (ih before) (before _ (List.prefix_refl _)) last

theorem not_lapsed_of_leads (kept : tracker.WellKept) (leads : tracker.Leads pair)
    (held : tracker.Holds pair) (now ttl : Instant) : ¬tracker.Lapsed pair now ttl := by
  obtain ⟨socket, connection, found, onPair⟩ := held
  obtain ⟨latest, latestFound, same⟩ := leads socket connection found onPair
  have unclosed := kept.latest_unclosed found (onPair ▸ latestFound) same
  intro lapsed
  have expired := lapsed latest latestFound
  rw [unclosed] at expired
  cases expired

theorem not_overlooked_of_alone (alone : Throughout (¬·.Shared pair) acts) : ¬Overlooked pair acts := by
  rintro ⟨early, now, ttl, within, held, lapsed⟩
  have first : early <+: acts := (List.prefix_append early _).trans within
  have leads : (after early).Leads pair := leads_after fun _ inside => alone _ (inside.trans first)
  exact not_lapsed_of_leads (wellKept_after early) leads held now ttl lapsed

/-! ### Counters of held pairs -/

theorem mem_summary_iff {count : Nat} :
    ⟨pair, count⟩ ∈ (Summary.ofTracker tracker).successful ↔
      tracker.successful.get? pair = some count := by
  simp only [Summary.ofTracker, (sortBy_perm _ _).mem_iff, List.mem_map, Prod.exists,
    Table.get?_eq_some_iff]
  constructor
  · rintro ⟨_, _, member, same⟩
    cases same
    exact member
  · intro member
    exact ⟨pair, count, member, rfl⟩

/-- A pair has a counter whenever a socket holds it, throughout a run, exactly when no purge has found
the pair lapsed while it was held; and this never happens to a pair that is held by one socket at a
time.  The counters that there are, are those shown. -/
theorem counted_while_held_iff (acts : List Act) (pair : Pair) :
    (Throughout (fun tracker => tracker.Holds pair → tracker.successful.contains pair = true) acts ↔
        ¬Overlooked pair acts) ∧
      (Throughout (¬·.Shared pair) acts → ¬Overlooked pair acts) ∧
      ∀ count, ⟨pair, count⟩ ∈ (Summary.ofTracker (after acts)).successful ↔
        (after acts).successful.get? pair = some count := by
  refine ⟨⟨?_, ?_⟩, not_overlooked_of_alone, fun count => mem_summary_iff⟩
  · rintro counted ⟨early, now, ttl, within, held, lapsed⟩
    have present := counted _ within
    rw [after_snoc] at present
    have missing : (after early |>.perform (.purge now ttl)).successful.contains pair = false := by
      rw [Table.contains, perform, successful_purge, lapsed_iff.1 lapsed]
      rfl
    exact absurd (missing.symm.trans (present held)) Bool.false_ne_true
  · intro never early within held
    apply contains_of_covers _ held
    apply covers_of_not_overlooked
    rintro ⟨first, now, ttl, inside, overlooked⟩
    exact never ⟨first, now, ttl, inside.trans within, overlooked⟩

/-- Two sockets hold one pair, the later one is closed, and a purge comes when that is long past. -/
def overlooking : List Act :=
  [.opened ⟨.v4 0x0A000002 40000, .v4 0x0A000009 80, .v4 0x0A000009 80, 7, 3, 100⟩ 1000,
    .opened ⟨.v4 0x0A000002 40000, .v4 0x0A000009 80, .v4 0x0A000009 80, 7, 4, 200⟩ 1000,
    .close ⟨7, 4⟩ 200 2000, .purge 302000 300000]

def sharedPair : Pair :=
  ⟨.v4 0x0A000002 40000, .v4 0x0A000009 80⟩

theorem overlooking_holds : ∃ connection,
    (after overlooking).held.get? ⟨7, 3⟩ = some connection ∧ connection.pair = sharedPair :=
  Option.map_eq_some_iff.1 (by decide)

theorem overlooking_counts_none : (after overlooking).successful.contains sharedPair = false := by
  decide

theorem open_pair_overlooked :
    (after overlooking).Holds sharedPair ∧ Overlooked sharedPair overlooking := by
  obtain ⟨connection, found, onPair⟩ := overlooking_holds
  have held : (after overlooking).Holds sharedPair := ⟨⟨7, 3⟩, connection, found, onPair⟩
  refine ⟨held, ?_⟩
  by_contra never
  have counted := (counted_while_held_iff overlooking sharedPair).1.2 never _ (List.prefix_refl _) held
  exact absurd (overlooking_counts_none.symm.trans counted) Bool.false_ne_true

/-- A connection can be open and its pair have no counter. -/
theorem not_always_counted :
    ¬∀ (acts : List Act) (socket : Socket) (connection : Connection),
      (after acts).held.get? socket = some connection →
      (after acts).successful.contains connection.pair = true := by
  intro always
  obtain ⟨connection, found, onPair⟩ := overlooking_holds
  have counted := always overlooking ⟨7, 3⟩ connection found
  rw [onPair, overlooking_counts_none] at counted
  cases counted

end Attribution.Tracker
