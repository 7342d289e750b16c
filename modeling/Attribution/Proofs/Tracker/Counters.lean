import Attribution.Proofs.Tracker.Acts
import Mathlib.Algebra.GroupWithZero.Nat
import Mathlib.Algebra.Order.BigOperators.Group.List
import Mathlib.Algebra.Order.Group.Nat
import Mathlib.Data.List.Nodup
import Mathlib.Data.List.Perm.Subperm

/-!
Openings are neither lost nor counted twice.

A redirection takes an opening from the counter of one pair and adds it to that of another, and
several sockets can share a pair.  Main statement: as long as nothing is purged, the counters of one
source add up to the connections opened from there, and no pair has fewer openings counted than
sockets that hold it, so that a redirection always finds the counter it takes from.
-/

namespace Attribution

namespace Table

variable {α β : Type}

def total (weight : α → β → Nat) (table : Table α β) : Nat :=
  (table.entries.map fun entry => weight entry.1 entry.2).sum

variable [DecidableEq α] {weight : α → β → Nat} {table other : Table α β}

theorem sum_split {entries : List (α × β)} (nodup : (entries.map Prod.fst).Nodup)
    (weight : α → β → Nat) (key : α) :
    (entries.map fun entry => weight entry.1 entry.2).sum =
      (find? key entries).elim 0 (weight key) +
        ((entries.filter fun entry => decide (entry.1 ≠ key)).map fun entry =>
          weight entry.1 entry.2).sum := by
  induction entries with
  | nil => rfl
  | cons entry rest ih =>
    obtain ⟨k, stored⟩ := entry
    rw [List.map_cons, List.nodup_cons] at nodup
    by_cases same : k = key
    · subst same
      have others : rest.filter (fun entry => decide (entry.1 ≠ k)) = rest := by
        rw [List.filter_eq_self]
        intro entry member
        rw [decide_eq_true_eq]
        intro same
        exact nodup.1 (List.mem_map.2 ⟨entry, member, same⟩)
      rw [List.filter_cons_of_neg (by simp), others]
      simp [find?]
    · have kept : decide ((k, stored).1 ≠ key) = true := decide_eq_true same
      rw [List.filter_cons_of_pos (p := fun entry : α × β => decide (entry.1 ≠ key)) kept]
      simp only [List.map_cons, List.sum_cons, find?, if_neg same, ih nodup.2]
      omega

theorem total_split (weight : α → β → Nat) (table : Table α β) (key : α) :
    table.total weight = (table.get? key).elim 0 (weight key) + (table.erase key).total weight :=
  sum_split table.nodup weight key

theorem total_mono (inside : ∀ key value, table.get? key = some value → other.get? key = some value) :
    table.total weight ≤ other.total weight := by
  have distinct : table.entries.Nodup := .of_map Prod.fst table.nodup
  have subset : table.entries ⊆ other.entries := by
    intro (key, value) member
    exact get?_eq_some_iff.1 (inside key value (get?_eq_some_iff.2 member))
  obtain ⟨entries, same, sublist⟩ := List.subperm_of_subset distinct subset
  unfold total
  rw [← (same.map _).sum_eq]
  exact (sublist.map _).sum_le_sum fun _ _ => Nat.zero_le _

theorem total_congr (same : ∀ key, table.get? key = other.get? key) :
    table.total weight = other.total weight :=
  Nat.le_antisymm (total_mono fun key _ found => (same key).symm.trans found)
    (total_mono fun key _ found => (same key).trans found)

theorem total_insert (weight : α → β → Nat) (table : Table α β) (key : α) (value : β) :
    (table.insert key value).total weight + (table.get? key).elim 0 (weight key) =
      table.total weight + weight key value := by
  have others : ((table.insert key value).erase key).total weight =
      (table.erase key).total weight := by
    apply total_congr
    intro k
    simp only [get?_erase, get?_insert]
    split <;> rfl
  rw [total_split weight (table.insert key value) key, total_split weight table key, others,
    get?_insert_self, Option.elim_some]
  omega

theorem total_pos_iff :
    0 < table.total weight ↔ ∃ key value, table.get? key = some value ∧ 0 < weight key value := by
  simp only [total, List.sum_pos_iff_exists_pos_nat, List.mem_map, get?_eq_some_iff, Prod.exists]
  constructor
  · rintro ⟨_, ⟨key, value, member, rfl⟩, positive⟩
    exact ⟨key, value, member, positive⟩
  · rintro ⟨key, value, member, positive⟩
    exact ⟨_, ⟨key, value, member, rfl⟩, positive⟩

end Table

namespace Tracker

/-! ### Counting up and down -/

section Counts

variable {α : Type} [DecidableEq α] {counts : Table α Nat} {key : α}

theorem getD_countUp (counts : Table α Nat) (key other : α) :
    (countUp counts key).getD other 0 = counts.getD other 0 + if other = key then 1 else 0 := by
  unfold countUp Table.getD
  rw [Table.get?_insert]
  by_cases same : other = key
  · simp [same]
  · simp [same]

theorem getD_countDown (counts : Table α Nat) (key other : α) :
    (countDown counts key).getD other 0 = counts.getD other 0 - if other = key then 1 else 0 := by
  unfold countDown Table.getD
  rw [Table.get?_alter]
  by_cases same : other = key
  · subst same
    simp only [if_true]
    cases counts.get? other with
    | none => rfl
    | some n =>
      by_cases last : n ≤ 1
      · simp [last]
      · simp [last]
  · simp [same]

def Positive (counts : Table α Nat) : Prop :=
  ∀ key count, counts.get? key = some count → 0 < count

theorem positive_countUp (positive : Positive counts) (key : α) : Positive (countUp counts key) := by
  intro other count found
  rw [countUp, Table.get?_insert] at found
  split at found
  · cases found
    exact Nat.succ_pos _
  · exact positive other count found

theorem positive_countDown (positive : Positive counts) (key : α) : Positive (countDown counts key) := by
  intro other count found
  rw [countDown, Table.get?_alter] at found
  split at found
  · obtain ⟨before, -, rest⟩ := Option.bind_eq_some_iff.1 found
    split at rest
    · cases rest
    · cases rest
      omega
  · exact positive other count found

theorem positive_filter (positive : Positive counts) (keep : α → Nat → Bool) : Positive (counts.filter keep) := by
  intro key count found
  rw [Table.get?_filter, Option.filter_eq_some_iff] at found
  exact positive key count found.1

/-- Counters that are not at zero are known by what they count. -/
theorem get?_eq_of_positive {others : Table α Nat} (positive : Positive counts) (others_positive : Positive others)
    (same : counts.getD key 0 = others.getD key 0) : counts.get? key = others.get? key := by
  unfold Table.getD at same
  cases here : counts.get? key with
  | none =>
    cases there : others.get? key with
    | none => rfl
    | some count =>
      rw [here, there] at same
      exact absurd same (others_positive key count there).ne
  | some count =>
    cases there : others.get? key with
    | none =>
      rw [here, there] at same
      exact absurd same (positive key count here).ne'
    | some other =>
      rw [here, there] at same
      exact congrArg some same

variable (keep : α → Prop) [DecidablePred keep]

theorem elim_eq_getD (counts : Table α Nat) (key : α) :
    ((counts.get? key).elim 0 fun count => if keep key then count else 0) =
      if keep key then counts.getD key 0 else 0 := by
  unfold Table.getD
  cases counts.get? key <;> simp

theorem total_countUp (counts : Table α Nat) (key : α) :
    (countUp counts key).total (fun key count => if keep key then count else 0) =
      counts.total (fun key count => if keep key then count else 0) + if keep key then 1 else 0 := by
  have inserted := Table.total_insert (fun key count => if keep key then count else 0) counts key
    (counts.getD key 0 + 1)
  rw [elim_eq_getD] at inserted
  unfold countUp
  by_cases kept : keep key
  · simp only [kept, if_true] at inserted ⊢
    omega
  · simp only [kept, if_false] at inserted ⊢
    omega

theorem total_countDown (positive : 0 < counts.getD key 0) :
    (countDown counts key).total (fun key count => if keep key then count else 0) +
        (if keep key then 1 else 0) =
      counts.total fun key count => if keep key then count else 0 := by
  -- The other counters are as before, so only the key's own shares are compared.
  have others : ((countDown counts key).erase key).total
        (fun key count => if keep key then count else 0) =
      (counts.erase key).total fun key count => if keep key then count else 0 := by
    apply Table.total_congr
    intro other
    simp only [countDown, Table.get?_erase, Table.get?_alter]
    split <;> rfl
  rw [Table.total_split _ (countDown counts key) key, Table.total_split _ counts key, others,
    elim_eq_getD, elim_eq_getD, getD_countDown, if_pos rfl]
  split <;> omega

end Counts

/-! ### What an act does to the counters of pairs -/

/-- How many sockets hold a connection on a pair. -/
def holders (tracker : Tracker) (pair : Pair) : Nat :=
  tracker.held.total fun _ connection => if connection.pair = pair then 1 else 0

/-- The openings counted for the pairs of a source, all destinations together. -/
def countedFrom (tracker : Tracker) (source : Address) : Nat :=
  tracker.successful.total fun pair count => if pair.source = source then count else 0

/-- Whether some socket holds a connection on a pair. -/
def Holds (tracker : Tracker) (pair : Pair) : Prop :=
  ∃ socket connection, tracker.held.get? socket = some connection ∧ connection.pair = pair

/-- No socket on a pair goes uncounted. -/
def Covers (tracker : Tracker) (pair : Pair) : Prop :=
  tracker.holders pair ≤ tracker.successful.getD pair 0

/-- An act opens a connection from a source, loopback aside. -/
def Act.opensFrom (source : Address) : Act → Bool
  | .opened opening _ => opening.source = source && !opening.destination.isLoopback
  | _ => false

/-- What an act makes of the counters of pairs. -/
inductive Counting (tracker : Tracker) : Act → Table Pair Nat → Prop where
  | same {act : Act} (nothing : tracker.placed? act = none)
      (opensNone : ∀ source, act.opensFrom source = false) : Counting tracker act tracker.successful
  | opens {opening : Opening} {now : Instant} (loud : opening.destination.isLoopback = false) :
      Counting tracker (.opened opening now) (countUp tracker.successful opening.connection.pair)
  | moves {socket : Socket} {timestamp : UInt64} {actual : Address} {connection : Connection}
      (found : tracker.held.get? socket = some connection) (timely : connection.timestamp = timestamp)
      (elsewhere : connection.actual ≠ actual) :
      Counting tracker (.redirect socket timestamp actual)
        (countUp (countDown tracker.successful connection.pair) ⟨connection.source, actual⟩)
  | forgets {now ttl : Instant} : Counting tracker (.purge now ttl)
      (tracker.successful.filter fun pair _ => (tracker.purge now ttl).2.active.contains pair)

@[simp] theorem successful_failedOpen (tracker : Tracker) (destination : Address) (now : Instant) :
    (tracker.failedOpen destination now).successful = tracker.successful := by
  unfold failedOpen attempt
  split <;> rfl

@[simp] theorem successful_close (tracker : Tracker) (socket : Socket) (timestamp : UInt64)
    (now : Instant) : (tracker.close socket timestamp now).2.successful = tracker.successful := by
  unfold close
  split <;> rfl

@[simp] theorem successful_requested (tracker : Tracker) (socket : Socket) (timestamp : UInt64)
    (request : Request) :
    (tracker.requested socket timestamp request).2.successful = tracker.successful := by
  unfold requested
  split <;> rfl

/-- Every act does one of four things to the counters of pairs. -/
theorem perform_counting (tracker : Tracker) (act : Act) :
    Counting tracker act (tracker.perform act).successful := by
  cases act with
  | opened opening now =>
    by_cases loopback : opening.destination.isLoopback
    · have still : tracker.perform (.opened opening now) = tracker := by
        simp [perform, opened, loopback]
      rw [still]
      exact .same (by simp [placed?, loopback]) (by simp [Act.opensFrom, loopback])
    · have counted : (tracker.perform (.opened opening now)).successful =
          countUp tracker.successful opening.connection.pair := by
        simp [perform, opened, loopback]
      rw [counted]
      exact .opens (by simpa using loopback)
  | redirect socket timestamp actual =>
    rcases redirect_cases tracker socket timestamp actual with
      ⟨connection, found, timely, elsewhere⟩ | ⟨nothing, still⟩
    · rw [perform, redirect_eq_of_moves found timely elsewhere]
      exact .moves found timely elsewhere
    · rw [perform, still]
      exact .same (by simp [placed?, nothing]) fun _ => rfl
  | close socket timestamp now =>
    rw [perform, successful_close]
    exact .same rfl fun _ => rfl
  | failedOpen destination now =>
    rw [perform, successful_failedOpen]
    exact .same rfl fun _ => rfl
  | requested socket timestamp request =>
    rw [perform, successful_requested]
    exact .same rfl fun _ => rfl
  | purge now ttl => exact .forgets
  | exit pid now => exact .same rfl fun _ => rfl
  | retransmitted destination => exact .same rfl fun _ => rfl
  | listen address => exact .same rfl fun _ => rfl
  | unlisten address => exact .same rfl fun _ => rfl

theorem positive_perform {tracker : Tracker} (positive : Positive tracker.successful) (act : Act) :
    Positive (tracker.perform act).successful := by
  have counting := perform_counting tracker act
  generalize (tracker.perform act).successful = counts at counting ⊢
  cases counting with
  | same _ _ => exact positive
  | opens _ => exact positive_countUp positive _
  | moves _ _ _ => exact positive_countUp (positive_countDown positive _) _
  | forgets => exact positive_filter positive _

theorem positive_after (acts : List Act) : Positive (after acts).successful := by
  induction acts using List.reverseRecOn with
  | nil =>
    intro pair count found
    cases found
  | append_singleton acts act ih =>
    rw [after_snoc]
    exact positive_perform ih act

/-! ### Sockets on a pair -/

variable {tracker : Tracker} {pair : Pair}

theorem holders_pos_iff : 0 < tracker.holders pair ↔ tracker.Holds pair := by
  unfold holders Holds
  rw [Table.total_pos_iff]
  simp [apply_ite (0 < ·)]

theorem holders_le_of_unplaced (kept : tracker.WellKept) {act : Act}
    (nothing : tracker.placed? act = none) :
    (tracker.perform act).holders pair ≤ tracker.holders pair := by
  apply Table.total_mono
  intro socket connection found
  rcases (perform_effect kept act).held_some kept found with ⟨placed, _⟩ | before
  · rw [nothing] at placed
    cases placed
  · exact before

theorem holders_opened_le (tracker : Tracker) (pair : Pair) (opening : Opening) (now : Instant)
    (loud : opening.destination.isLoopback = false) :
    (tracker.opened opening now).holders pair ≤
      tracker.holders pair + if opening.connection.pair = pair then 1 else 0 := by
  have inserted := Table.total_insert (fun _ connection => if connection.pair = pair then 1 else 0)
    tracker.held opening.connection.socket opening.connection
  have same : (tracker.opened opening now).held =
      tracker.held.insert opening.connection.socket opening.connection := by
    simp [opened, loud]
  unfold holders
  rw [same]
  omega

theorem holders_redirect (pair : Pair) {socket : Socket} {timestamp : UInt64} {actual : Address}
    {connection : Connection} (found : tracker.held.get? socket = some connection)
    (timely : connection.timestamp = timestamp) (elsewhere : connection.actual ≠ actual) :
    (tracker.redirect socket timestamp actual).2.holders pair +
        (if connection.pair = pair then 1 else 0) =
      tracker.holders pair + if (⟨connection.source, actual⟩ : Pair) = pair then 1 else 0 := by
  have inserted := Table.total_insert (fun _ connection => if connection.pair = pair then 1 else 0)
    tracker.held socket { connection with actual := actual }
  rw [found, Option.elim_some] at inserted
  rw [redirect_eq_of_moves found timely elsewhere]
  exact inserted

/-- Purges aside, every act leaves the sockets of a covered pair counted. -/
theorem covers_perform (kept : tracker.WellKept) (covers : tracker.Covers pair) {act : Act}
    (spares : ∀ now ttl, act ≠ .purge now ttl) : (tracker.perform act).Covers pair := by
  have counting := perform_counting tracker act
  unfold Covers at covers ⊢
  generalize counted : (tracker.perform act).successful = counts at counting ⊢
  cases counting with
  | same nothing _ => exact (holders_le_of_unplaced kept nothing).trans covers
  | @opens opening now loud =>
    have gained := holders_opened_le tracker pair opening now loud
    rw [getD_countUp]
    simp only [perform, eq_comm (a := pair)] at gained ⊢
    omega
  | @moves socket timestamp actual connection found timely elsewhere =>
    have moved := holders_redirect pair found timely elsewhere
    have held : connection.pair = pair → 0 < tracker.holders pair :=
      fun onPair => holders_pos_iff.2 ⟨socket, connection, found, onPair⟩
    rw [getD_countUp, getD_countDown]
    simp only [perform, eq_comm (a := pair)] at moved ⊢
    by_cases onPair : connection.pair = pair
    · have := held onPair
      simp only [onPair, if_true] at moved ⊢
      omega
    · simp only [onPair, if_false] at moved ⊢
      omega
  | @forgets now ttl => exact absurd rfl (spares now ttl)

theorem counted_of_held {socket : Socket} {connection : Connection}
    (covers : tracker.Covers connection.pair) (found : tracker.held.get? socket = some connection) :
    0 < tracker.successful.getD connection.pair 0 :=
  (holders_pos_iff.2 ⟨socket, connection, found, rfl⟩).trans_le covers

theorem countedFrom_perform (covers : ∀ pair, tracker.Covers pair) {act : Act}
    (spares : ∀ now ttl, act ≠ .purge now ttl) (source : Address) :
    (tracker.perform act).countedFrom source =
      tracker.countedFrom source + if act.opensFrom source then 1 else 0 := by
  have counting := perform_counting tracker act
  unfold countedFrom
  generalize (tracker.perform act).successful = counts at counting ⊢
  cases counting with
  | same _ opensNone => simp [opensNone source]
  | @opens opening now loud =>
    rw [total_countUp fun pair : Pair => pair.source = source]
    have own : (Act.opened opening now).opensFrom source = decide (opening.source = source) := by
      simp [Act.opensFrom, loud]
    simp only [own, decide_eq_true_eq]
    rfl
  | @moves socket timestamp actual connection found timely elsewhere =>
    have taken := total_countDown (fun pair : Pair => pair.source = source)
      (counted_of_held (covers connection.pair) found)
    rw [total_countUp fun pair : Pair => pair.source = source]
    exact taken
  | @forgets now ttl => exact absurd rfl (spares now ttl)

/-! ### Runs without a purge -/

theorem covers_after {acts : List Act} (unpurged : ∀ now ttl, .purge now ttl ∉ acts) (pair : Pair) :
    (after acts).Covers pair := by
  induction acts using List.reverseRecOn with
  | nil => exact Nat.le_refl 0
  | append_singleton acts act ih =>
    rw [after_snoc]
    apply covers_perform (wellKept_after acts) (ih fun now ttl member => ?_)
    · rintro now ttl rfl
      exact unpurged now ttl (by simp)
    · exact unpurged now ttl (List.mem_append_left _ member)

theorem countedFrom_after {acts : List Act} (unpurged : ∀ now ttl, .purge now ttl ∉ acts)
    (source : Address) : (after acts).countedFrom source = acts.countP (·.opensFrom source) := by
  induction acts using List.reverseRecOn with
  | nil => rfl
  | append_singleton acts act ih =>
    have before (now ttl : Instant) : .purge now ttl ∉ acts :=
      fun member => unpurged now ttl (List.mem_append_left _ member)
    rw [after_snoc, countedFrom_perform (covers_after before), ih before, List.countP_append,
      List.countP_singleton]
    rintro now ttl rfl
    exact unpurged now ttl (by simp)

/-- Unless something is purged, no opening is lost: the counters of a source add up to the
connections opened from there, every socket on a pair is counted for it, and a redirection takes one
from a counter that is there. -/
theorem openings_conserved (acts : List Act) (unpurged : ∀ now ttl, .purge now ttl ∉ acts) :
    (∀ source, (after acts).countedFrom source = acts.countP (·.opensFrom source)) ∧
      (∀ pair, (after acts).holders pair ≤ (after acts).successful.getD pair 0) ∧
      ∀ socket timestamp actual, ((after acts).redirect socket timestamp actual).1 = true →
        ∃ connection count, (after acts).held.get? socket = some connection ∧
          (after acts).successful.get? connection.pair = some (count + 1) := by
  refine ⟨countedFrom_after unpurged, covers_after unpurged, ?_⟩
  intro socket timestamp actual moved
  rcases redirect_cases (after acts) socket timestamp actual with
    ⟨connection, found, _, _⟩ | ⟨_, still⟩
  · have counted := counted_of_held (covers_after unpurged connection.pair) found
    unfold Table.getD at counted
    cases present : (after acts).successful.get? connection.pair with
    | none => simp [present] at counted
    | some count =>
      obtain ⟨less, rfl⟩ := Nat.exists_eq_succ_of_ne_zero (n := count) (by
        rw [present] at counted
        exact counted.ne')
      exact ⟨connection, less, found, present⟩
  · rw [still] at moved
    cases moved

/-- Two sockets of one source share a pair, and one of them is redirected. -/
def sharing : List Act :=
  [.opened ⟨.v4 0x0A000002 40000, .v4 0x0A600001 80, .v4 0x0A600001 80, 7, 3, 100⟩ 1000,
    .opened ⟨.v4 0x0A000002 40000, .v4 0x0A600001 80, .v4 0x0A600001 80, 7, 4, 200⟩ 1000,
    .redirect ⟨7, 3⟩ 100 (.v4 0x0A000009 8080)]

theorem sharing_conserves :
    (after sharing).countedFrom (.v4 0x0A000002 40000) = 2 ∧
      (after sharing).holders ⟨.v4 0x0A000002 40000, .v4 0x0A600001 80⟩ ≤
        (after sharing).successful.getD ⟨.v4 0x0A000002 40000, .v4 0x0A600001 80⟩ 0 ∧
      ∃ connection count, (after sharing).held.get? ⟨7, 4⟩ = some connection ∧
        (after sharing).successful.get? connection.pair = some (count + 1) := by
  have conserved := openings_conserved sharing (by simp [sharing])
  exact ⟨conserved.1 _, conserved.2.1 _,
    conserved.2.2 ⟨7, 4⟩ 200 (.v4 0x0A000009 8080) (by decide)⟩

end Tracker

end Attribution
