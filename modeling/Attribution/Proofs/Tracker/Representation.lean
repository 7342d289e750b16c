import Attribution.Proofs.Tracker.Counters
import Attribution.Proofs.Tracker.Summaries

/-!
What the tables of a tracker are like at any time.

Main statement: whatever has happened, sockets hold open connections of their own to other hosts, pairs
keep connections of their own, no counter stands at zero or above the number of acts, and a destination
with failures has a last attempt.  So a redirection never takes from a counter at zero, and none at zero
is shown.
-/

namespace Attribution.Tracker

variable {tracker next : Tracker} {steps : Nat}

/-! ### Failures and attempts -/

/-- What an act makes of the counted failures and of the last attempts. -/
inductive Attempting (tracker next : Tracker) : Prop where
  | rests (failed : next.failed = tracker.failed) (lastAttempt : next.lastAttempt = tracker.lastAttempt)
  | tries (destination : Address) (now : Instant) (failed : next.failed = tracker.failed)
      (lastAttempt : next.lastAttempt = tracker.lastAttempt.insert destination now)
  | fails (destination : Address) (now : Instant) (failed : next.failed = countUp tracker.failed destination)
      (lastAttempt : next.lastAttempt = tracker.lastAttempt.insert destination now)
  | forgets (failed : next.failed = tracker.failed.filter fun destination _ => next.lastAttempt.contains destination)

theorem perform_attempting (tracker : Tracker) (act : Act) : Attempting tracker (tracker.perform act) := by
  cases act with
  | opened opening now =>
    by_cases loopback : opening.destination.isLoopback
    · have still : tracker.perform (.opened opening now) = tracker := by
        simp [perform, opened, loopback]
      rw [still]
      exact .rests rfl rfl
    · refine .tries opening.destination now ?_ ?_ <;> simp [perform, opened, attempt, loopback]
  | failedOpen destination now =>
    by_cases loopback : destination.isLoopback
    · have still : tracker.perform (.failedOpen destination now) = tracker := by
        simp [perform, failedOpen, loopback]
      rw [still]
      exact .rests rfl rfl
    · refine .fails destination now ?_ ?_ <;> simp [perform, failedOpen, attempt, loopback]
  | close socket timestamp now => refine .rests ?_ ?_ <;> (simp only [perform, close]; split <;> rfl)
  | requested socket timestamp request => refine .rests ?_ ?_ <;> (simp only [perform, requested]; split <;> rfl)
  | redirect socket timestamp actual =>
    rcases redirect_cases tracker socket timestamp actual with
      ⟨connection, found, timely, elsewhere⟩ | ⟨_, still⟩
    · rw [perform, redirect_eq_of_moves found timely elsewhere]
      exact .rests rfl rfl
    · rw [perform, still]
      exact .rests rfl rfl
  | purge now ttl => exact .forgets rfl
  | exit pid now => exact .rests rfl rfl
  | retransmitted destination => exact .rests rfl rfl
  | listen address => exact .rests rfl rfl
  | unlisten address => exact .rests rfl rfl

theorem Attempting.positive (attempting : Attempting tracker next) (positive : Positive tracker.failed) :
    Positive next.failed := by
  cases attempting with
  | rests failed _ => rw [failed]; exact positive
  | tries _ _ failed _ => rw [failed]; exact positive
  | fails destination _ failed _ => rw [failed]; exact positive_countUp positive destination
  | forgets failed => rw [failed]; exact positive_filter positive _

/-- Every destination with failures has a last attempt. -/
def Dated (tracker : Tracker) : Prop :=
  ∀ destination count, tracker.failed.get? destination = some count →
    ∃ moment, tracker.lastAttempt.get? destination = some moment

theorem Attempting.dated (attempting : Attempting tracker next) (dated : tracker.Dated) : next.Dated := by
  intro destination count found
  cases attempting with
  | rests failed lastAttempt =>
    rw [failed] at found
    rw [lastAttempt]
    exact dated destination count found
  | tries tried now failed lastAttempt =>
    rw [failed] at found
    rw [lastAttempt, Table.get?_insert]
    split
    · exact ⟨now, rfl⟩
    · exact dated destination count found
  | fails tried now failed lastAttempt =>
    rw [failed, countUp, Table.get?_insert] at found
    rw [lastAttempt, Table.get?_insert]
    split
    · exact ⟨now, rfl⟩
    · rename_i other
      rw [if_neg other] at found
      exact dated destination count found
  | forgets failed =>
    rw [failed, Table.get?_filter, Option.filter_eq_some_iff] at found
    exact Option.isSome_iff_exists.1 found.2

/-! ### How far a counter gets -/

section Bounds

variable {α : Type} [DecidableEq α]

theorem getD_filter_le (counts : Table α Nat) (keep : α → Nat → Bool) (key : α) :
    (counts.filter keep).getD key 0 ≤ counts.getD key 0 := by
  unfold Table.getD
  rw [Table.get?_filter]
  cases counts.get? key with
  | none => exact Nat.le_refl 0
  | some count => cases kept : keep key count <;> simp [Option.filter, kept]

theorem getD_countUp_le (counts : Table α Nat) (key other : α) :
    (countUp counts key).getD other 0 ≤ counts.getD other 0 + 1 := by
  rw [getD_countUp]
  split <;> omega

end Bounds

theorem successful_perform_le (tracker : Tracker) (act : Act) (pair : Pair) :
    (tracker.perform act).successful.getD pair 0 ≤ tracker.successful.getD pair 0 + 1 := by
  have counting := perform_counting tracker act
  generalize (tracker.perform act).successful = counts at counting ⊢
  cases counting with
  | same _ _ => exact Nat.le_succ _
  | opens _ => exact getD_countUp_le _ _ _
  | @moves _ _ actual connection _ _ _ =>
    have gained := getD_countUp_le (countDown tracker.successful connection.pair) ⟨connection.source, actual⟩ pair
    rw [getD_countDown] at gained
    omega
  | forgets => exact (getD_filter_le _ _ pair).trans (Nat.le_succ _)

theorem failed_perform_le (tracker : Tracker) (act : Act) (destination : Address) :
    (tracker.perform act).failed.getD destination 0 ≤ tracker.failed.getD destination 0 + 1 := by
  cases perform_attempting tracker act with
  | rests failed _ => rw [failed]; exact Nat.le_succ _
  | tries _ _ failed _ => rw [failed]; exact Nat.le_succ _
  | fails _ _ failed _ => rw [failed]; exact getD_countUp_le _ _ _
  | forgets failed => rw [failed]; exact (getD_filter_le _ _ destination).trans (Nat.le_succ _)

/-! ### What every run keeps -/

/-- The tables of a tracker after a number of acts. -/
structure Sound (steps : Nat) (tracker : Tracker) : Prop extends tracker.WellKept where
  /-- Connections within the host are not held. -/
  outward : ∀ socket connection, tracker.held.get? socket = some connection →
    connection.destination.isLoopback = false
  /-- What a pair keeps is a connection on that pair. -/
  homed : ∀ pair latest, tracker.active.get? pair = some latest → latest.pair = pair
  successful_positive : Positive tracker.successful
  successful_le : ∀ pair, tracker.successful.getD pair 0 ≤ steps
  failed_positive : Positive tracker.failed
  failed_le : ∀ destination, tracker.failed.getD destination 0 ≤ steps
  dated : tracker.Dated

theorem sound_empty : empty.Sound 0 where
  toWellKept := wellKept_empty
  outward _ _ found := by cases found
  homed _ _ found := by cases found
  successful_positive _ _ found := by cases found
  successful_le _ := Nat.le_refl 0
  failed_positive _ _ found := by cases found
  failed_le _ := Nat.le_refl 0
  dated _ _ found := by cases found

theorem outward_of_placed? (sound : tracker.Sound steps) {act : Act} {connection : Connection}
    (placed : tracker.placed? act = some connection) : connection.destination.isLoopback = false := by
  cases act with
  | opened opening now =>
    simp only [placed?, Option.ite_none_left_eq_some, Option.some.injEq] at placed
    obtain ⟨loud, rfl⟩ := placed
    exact Bool.eq_false_iff.2 loud
  | redirect socket timestamp actual =>
    simp only [placed?, movable?, Option.map_eq_some_iff, Option.filter_eq_some_iff] at placed
    obtain ⟨before, ⟨found, _⟩, rfl⟩ := placed
    exact sound.outward socket before found
  | _ => simp [placed?] at placed

theorem ended_pair (now : Instant) (pair : Pair) (gone : List Connection) (latest : Connection) :
    (ended now pair gone latest).pair = latest.pair := by
  unfold ended
  split <;> rfl

theorem homed_perform (sound : tracker.Sound steps) (act : Act) {pair : Pair} {latest : Connection}
    (found : (tracker.perform act).active.get? pair = some latest) : latest.pair = pair := by
  cases perform_effect sound.toWellKept act with
  | idle _ _ active => exact sound.homed pair latest (active ▸ found)
  | opens _ _ active =>
    rw [active] at found
    split at found
    · rename_i here
      cases found
      exact here.symm
    · exact sound.homed pair latest found
  | moves _ _ _ _ active =>
    rw [active] at found
    split at found
    · rename_i here
      cases found
      exact here.symm
    · split at found
      · exact sound.homed pair latest (Option.filter_eq_some_iff.1 found).1
      · exact sound.homed pair latest found
  | releases now gone _ _ _ _ active =>
    rw [active, Option.map_eq_some_iff] at found
    obtain ⟨before, present, rfl⟩ := found
    rw [ended_pair]
    exact sound.homed pair before present
  | forgets _ active =>
    rw [active] at found
    exact sound.homed pair latest (Option.filter_eq_some_iff.1 found).1

theorem sound_perform (sound : tracker.Sound steps) (act : Act) : (tracker.perform act).Sound (steps + 1) where
  toWellKept := wellKept_perform sound.toWellKept act
  outward socket connection found := by
    rcases (perform_effect sound.toWellKept act).held_some sound.toWellKept found with ⟨placed, _⟩ | before
    · exact outward_of_placed? sound placed
    · exact sound.outward socket connection before
  homed _ _ found := homed_perform sound act found
  successful_positive := positive_perform sound.successful_positive act
  successful_le pair := (successful_perform_le tracker act pair).trans (Nat.succ_le_succ (sound.successful_le pair))
  failed_positive := (perform_attempting tracker act).positive sound.failed_positive
  failed_le destination :=
    (failed_perform_le tracker act destination).trans (Nat.succ_le_succ (sound.failed_le destination))
  dated := (perform_attempting tracker act).dated sound.dated

theorem sound_after (acts : List Act) : (after acts).Sound acts.length := by
  induction acts using List.reverseRecOn with
  | nil => exact sound_empty
  | append_singleton acts act ih =>
    rw [after_snoc, List.length_append]
    exact sound_perform ih act

/-! ### Counters that are taken from and shown -/

theorem getD_successful_redirect {socket : Socket} {timestamp : UInt64} {actual : Address} {connection : Connection}
    (moves : tracker.movable? socket timestamp actual = some connection) :
    (tracker.redirect socket timestamp actual).2.successful.getD connection.pair 0 =
      tracker.successful.getD connection.pair 0 - 1 := by
  obtain ⟨found, still⟩ := Option.filter_eq_some_iff.1 moves
  obtain ⟨timely, elsewhere⟩ := of_decide_eq_true still
  have away : connection.pair ≠ ⟨connection.source, actual⟩ := fun same => elsewhere (congrArg Pair.destination same)
  rw [redirect_eq_of_moves found timely elsewhere, getD_countUp, getD_countDown, if_pos rfl, if_neg away, Nat.add_zero]

theorem positive_of_listed {α β : Type} [DecidableEq α] {counts : Table α Nat} (positive : Positive counts)
    {items : List β} {entryOf : β → α × Nat} (listed : (items.map entryOf).Perm counts.entries) :
    ∀ item ∈ items, 1 ≤ (entryOf item).2 := by
  intro item member
  have entry : entryOf item ∈ counts.entries := listed.mem_iff.1 (List.mem_map_of_mem member)
  exact positive (entryOf item).1 (entryOf item).2 (Table.get?_eq_some_iff.2 entry)

/-- Whatever has happened, the tables are sound.  A redirection that finds a counter for the pair it leaves takes one
from at least one, and no counter at zero is shown. -/
theorem tables_sound (acts : List Act) :
    (after acts).Sound acts.length ∧
      (∀ socket timestamp actual connection count,
        (after acts).movable? socket timestamp actual = some connection →
        (after acts).successful.get? connection.pair = some count →
        ((after acts).redirect socket timestamp actual).2.successful.getD connection.pair 0 + 1 = count) ∧
      (∀ item ∈ (Summary.ofTracker (after acts)).successful, 1 ≤ item.count) ∧
      ∀ item ∈ (Summary.ofTracker (after acts)).failed, 1 ≤ item.count := by
  have sound := sound_after acts
  have listed := Summary.lists_ofTracker (after acts)
  refine ⟨sound, ?_, positive_of_listed sound.successful_positive listed.successful,
    positive_of_listed sound.failed_positive listed.failed⟩
  intro socket timestamp actual connection count moves found
  have positive := sound.successful_positive connection.pair count found
  rw [getD_successful_redirect moves, Table.getD, found, Option.getD_some]
  omega

/-- Two sockets share a pair, another attempt fails, and a purge comes before one of the sockets is redirected. -/
def purgedBeforeMove : List Act :=
  [.opened ⟨.v4 0x0A000002 40000, .v4 0x0A600001 80, .v4 0x0A600001 80, 7, 3, 100⟩ 1000,
    .opened ⟨.v4 0x0A000002 40000, .v4 0x0A600001 80, .v4 0x0A600001 80, 7, 4, 200⟩ 1000,
    .failedOpen (.v4 0x0A000009 5432) 2000, .purge 3000 300000]

theorem purgedBeforeMove_sound :
    (after purgedBeforeMove).failed.get? (.v4 0x0A000009 5432) = some 1 ∧
      (after purgedBeforeMove).Dated ∧
      ∃ connection, (after purgedBeforeMove).movable? ⟨7, 3⟩ 100 (.v4 0x0A000009 8080) = some connection ∧
        (after purgedBeforeMove).successful.get? connection.pair = some 2 ∧
        ((after purgedBeforeMove).redirect ⟨7, 3⟩ 100 (.v4 0x0A000009 8080)).2.successful.getD connection.pair 0 + 1 =
          2 := by
  have sound := tables_sound purgedBeforeMove
  refine ⟨by decide, sound.1.dated, ⟨.v4 0x0A000002 40000, .v4 0x0A600001 80, .v4 0x0A600001 80, 7, 3, 100, none⟩, ?_⟩
  have moves : (after purgedBeforeMove).movable? ⟨7, 3⟩ 100 (.v4 0x0A000009 8080) =
      some ⟨.v4 0x0A000002 40000, .v4 0x0A600001 80, .v4 0x0A600001 80, 7, 3, 100, none⟩ := by decide
  have counted : (after purgedBeforeMove).successful.get? ⟨.v4 0x0A000002 40000, .v4 0x0A600001 80⟩ = some 2 := by
    decide
  exact ⟨moves, counted, sound.2.1 _ _ _ _ _ moves counted⟩

end Attribution.Tracker
