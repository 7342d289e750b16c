import Attribution.Connection.Summary
import Mathlib.Data.List.Basic
import Mathlib.Data.List.Nodup
import Mathlib.Data.List.Permutation
import Mathlib.Tactic.Tauto

/-!
What is shown of a tracker.

The tables of a tracker have no order, so their entries are sorted by their keys before they are shown.
No two entries of a table have one key, so there is one way to sort them.  Main statement: trackers whose
tables hold the same show the same, and that are the entries of each table, every one of them once and in
strictly ascending order.
-/

namespace Attribution

/-! ### Orders -/

/-- A key stands before another one. -/
def Below (a b : List Nat) : Prop :=
  keyLe a b = true ∧ a ≠ b

theorem below_cons {x y : Nat} {a b : List Nat} : Below (x :: a) (y :: b) ↔ x < y ∨ x = y ∧ Below a b := by
  simp only [Below, keyLe, Bool.or_eq_true, Bool.and_eq_true, decide_eq_true_eq, beq_iff_eq, ne_eq, List.cons.injEq,
    not_and]
  constructor
  · rintro ⟨less | ⟨rfl, before⟩, other⟩
    · exact .inl less
    · exact .inr ⟨rfl, before, other rfl⟩
  · rintro (less | ⟨rfl, before, other⟩)
    · exact ⟨.inl less, fun same => absurd same (Nat.ne_of_lt less)⟩
    · exact ⟨.inr ⟨rfl, before⟩, fun _ => other⟩

theorem not_below_self (a : List Nat) : ¬Below a a :=
  fun below => below.2 rfl

theorem below_append {a b c d : List Nat} (lengths : a.length = b.length) :
    Below (a ++ c) (b ++ d) ↔ Below a b ∨ a = b ∧ Below c d := by
  induction a generalizing b with
  | nil =>
    obtain rfl := List.length_eq_zero_iff.1 lengths.symm
    simp [not_below_self]
  | cons x a ih =>
    cases b with
    | nil => cases lengths
    | cons y b =>
      rw [List.cons_append, List.cons_append, below_cons, below_cons, ih (Nat.succ.inj lengths), List.cons.injEq]
      tauto

/-- Version 4 addresses come before those of version 6.  The number decides next, then the port, and for
version 6 the flow label and the scope. -/
inductive Address.Before : Address → Address → Prop
  | versions {ip port ip' port' flow' scope'} : Before (.v4 ip port) (.v6 ip' port' flow' scope')
  | v4 {ip port ip' port'} (parts : Prod.Lex (· < ·) (· < ·) (ip, port) (ip', port')) :
      Before (.v4 ip port) (.v4 ip' port')
  | v6 {ip port flow scope ip' port' flow' scope'}
      (parts : Prod.Lex (· < ·) (Prod.Lex (· < ·) (Prod.Lex (· < ·) (· < ·))) (ip, port, flow, scope)
        (ip', port', flow', scope')) :
      Before (.v6 ip port flow scope) (.v6 ip' port' flow' scope')

theorem Address.before_iff {a b : Address} : a.Before b ↔ Below a.sortKey b.sortKey := by
  cases a with
  | v4 ip port =>
    cases b with
    | v4 ip' port' =>
      have parts : Address.Before (.v4 ip port) (.v4 ip' port') ↔
          Prod.Lex (· < ·) (· < ·) (ip, port) (ip', port') :=
        ⟨fun before => by cases before with | v4 parts => exact parts, .v4⟩
      rw [parts]
      simp [sortKey, below_cons, not_below_self, Prod.lex_def, BitVec.lt_def, BitVec.toNat_inj,
        UInt16.lt_iff_toNat_lt]
    | v6 ip' port' flow' scope' =>
      simp only [sortKey, below_cons, Nat.zero_lt_one, true_or, iff_true]
      exact .versions
  | v6 ip port flow scope =>
    cases b with
    | v4 ip' port' =>
      simp only [sortKey, below_cons, Nat.not_lt_zero, Nat.one_ne_zero, false_and, or_self, iff_false]
      rintro ⟨⟩
    | v6 ip' port' flow' scope' =>
      have parts : Address.Before (.v6 ip port flow scope) (.v6 ip' port' flow' scope') ↔
          Prod.Lex (· < ·) (Prod.Lex (· < ·) (Prod.Lex (· < ·) (· < ·))) (ip, port, flow, scope)
            (ip', port', flow', scope') :=
        ⟨fun before => by cases before with | v6 parts => exact parts, .v6⟩
      rw [parts]
      simp [sortKey, below_cons, not_below_self, Prod.lex_def, BitVec.lt_def, BitVec.toNat_inj,
        UInt16.lt_iff_toNat_lt, UInt16.toNat_inj, UInt32.lt_iff_toNat_lt, UInt32.toNat_inj]

theorem Address.sortKey_append_inj {a b : Address} {c d : List Nat}
    (same : a.sortKey ++ c = b.sortKey ++ d) : a = b ∧ c = d := by
  have lengths : a.sortKey.length = b.sortKey.length := by
    rw [sortKey_length, sortKey_length]
  obtain ⟨front, behind⟩ := List.append_inj same lengths
  exact ⟨sortKey_injective front, behind⟩

theorem Address.below_sortKey_append {a b : Address} {c d : List Nat} :
    Below (a.sortKey ++ c) (b.sortKey ++ d) ↔ a.Before b ∨ a = b ∧ Below c d := by
  have lengths : a.sortKey.length = b.sortKey.length := by
    rw [sortKey_length, sortKey_length]
  have equal : a.sortKey = b.sortKey ↔ a = b := ⟨sortKey_injective, congrArg sortKey⟩
  rw [below_append lengths, before_iff, equal]

/-- Protocols with a number of their own come in the order of these numbers.  The others are behind them, in
the order of their codes. -/
inductive Protocol.Before : Protocol → Protocol → Prop
  | known {a b} (first : known.idxOf a < known.idxOf b) : Before a b
  | others {code code'} (less : code < code') : Before (.other code) (.other code')

theorem Protocol.exists_other {protocol : Protocol} (unlisted : protocol ∉ known) :
    ∃ code, protocol = .other code := by
  cases protocol with
  | other code => exact ⟨code, rfl⟩
  | _ => exact absurd (by decide) unlisted

theorem Protocol.before_iff {a b : Protocol} : a.Before b ↔ Below a.sortKey b.sortKey := by
  have place (protocol : Protocol) : ∃ code, protocol.sortKey = [known.idxOf protocol, code] := by
    cases protocol <;> exact ⟨_, rfl⟩
  have others {code code' : UInt8} : Below (sortKey (.other code)) (sortKey (.other code')) ↔ code < code' := by
    simp [sortKey, below_cons, not_below_self, UInt8.lt_iff_toNat_lt]
  obtain ⟨first, firstKey⟩ := place a
  obtain ⟨second, secondKey⟩ := place b
  constructor
  · rintro (first | less)
    · rw [firstKey, secondKey, below_cons]
      exact .inl first
    · exact others.2 less
  · intro below
    have parts := below
    rw [firstKey, secondKey, below_cons] at parts
    rcases parts with less | ⟨same, -⟩
    · exact .known less
    · -- Only the codes can tell protocols apart that are in the same place.
      have different : a ≠ b := by
        rintro rfl
        exact not_below_self _ below
      have unlisted : a ∉ known := fun listed => different ((List.idxOf_inj listed).1 same)
      have unlisted' : b ∉ known := fun listed => different ((List.idxOf_inj listed).1 same.symm).symm
      obtain ⟨code, rfl⟩ := exists_other unlisted
      obtain ⟨code', rfl⟩ := exists_other unlisted'
      exact .others (others.1 below)

namespace Table

variable {α β γ : Type} {table other : Table α β}

theorem entries_perm [DecidableEq α] (same : ∀ key, table.get? key = other.get? key) :
    table.entries.Perm other.entries := by
  have distinct (table : Table α β) : table.entries.Nodup := .of_map Prod.fst table.nodup
  rw [List.perm_ext_iff_of_nodup (distinct table) (distinct other)]
  intro (key, value)
  rw [← get?_eq_some_iff, same, get?_eq_some_iff]

/-- Entries that are shown in the order of their keys are shown alike, however the tables list them. -/
theorem sortBy_entries_congr {rank : α → List Nat} (injective : Function.Injective rank) {key : γ → List Nat}
    {item : α × β → γ} (keyed : ∀ entry, key (item entry) = rank entry.1)
    (same : table.entries.Perm other.entries) :
    sortBy key (table.entries.map item) = sortBy key (other.entries.map item) := by
  refine sortBy_congr ?_ (same.map item)
  intro a first b second equal
  obtain ⟨entry, here, rfl⟩ := List.mem_map.1 first
  obtain ⟨another, there, rfl⟩ := List.mem_map.1 second
  rw [keyed, keyed] at equal
  rw [List.inj_on_of_nodup_map table.nodup here there (injective equal)]

theorem ascending_sortBy_entries {rank : α → List Nat} (injective : Function.Injective rank) {key : γ → List Nat}
    {item : α × β → γ} (table : Table α β) (keyed : ∀ entry, key (item entry) = rank entry.1) :
    (sortBy key (table.entries.map item)).Pairwise fun a b => Below (key a) (key b) := by
  have ranks : (table.entries.map item).map key = table.keys.map rank := by
    rw [keys, List.map_map, List.map_map]
    exact List.map_congr_left fun entry _ => keyed entry
  have distinct : ((sortBy key (table.entries.map item)).map key).Nodup := by
    rw [((sortBy_perm key _).map key).nodup_iff, ranks]
    exact List.Nodup.map injective table.nodup
  exact (sortBy_pairwise key _).and (List.pairwise_map.1 distinct)

theorem perm_sortBy_entries {key : γ → List Nat} {item : α × β → γ} {entryOf : γ → α × β}
    (table : Table α β) (back : ∀ entry, entryOf (item entry) = entry) :
    ((sortBy key (table.entries.map item)).map entryOf).Perm table.entries := by
  have whole : (table.entries.map item).map entryOf = table.entries := by
    rw [List.map_map]
    exact (List.map_congr_left fun entry _ => back entry).trans (List.map_id _)
  exact ((sortBy_perm key _).map entryOf).trans (.of_eq whole)

end Table

theorem Pair.sortKey_injective : Function.Injective Pair.sortKey := by
  intro a b same
  obtain ⟨destinations, sources⟩ := Address.sortKey_append_inj same
  obtain ⟨source, destination⟩ := a
  rw [Pair.mk.injEq]
  exact ⟨Address.sortKey_injective sources, destinations⟩

theorem Pair.before_of_below {a b : Pair} (below : Below a.sortKey b.sortKey) :
    Prod.Lex Address.Before Address.Before (a.destination, a.source) (b.destination, b.source) := by
  rw [Prod.lex_def]
  exact (Address.below_sortKey_append.1 below).imp_right (.imp_right Address.before_iff.2)

namespace Summary

/-- The parts that order the use of protocols: the destination, then the protocol. -/
def usageRank (use : Protocol × Address) : List Nat :=
  use.2.sortKey ++ use.1.sortKey

theorem usageRank_injective : Function.Injective usageRank := by
  intro a b same
  obtain ⟨destinations, protocols⟩ := Address.sortKey_append_inj same
  exact Prod.ext (Protocol.sortKey_injective protocols) destinations

theorem destinationCounts_congr {counts others : Table Address Nat} (same : counts.entries.Perm others.entries) :
    destinationCounts counts = destinationCounts others :=
  Table.sortBy_entries_congr (fun _ _ => Address.sortKey_injective) (fun _ => rfl) same

theorem ofTracker_congr {tracker other : Tracker} (held : tracker.held.entries.Perm other.held.entries)
    (successful : tracker.successful.entries.Perm other.successful.entries)
    (failed : tracker.failed.entries.Perm other.failed.entries)
    (retransmits : tracker.retransmits.entries.Perm other.retransmits.entries)
    (listens : tracker.listens.members.Perm other.listens.members)
    (usage : tracker.usage.entries.Perm other.usage.entries) : ofTracker tracker = ofTracker other := by
  rw [ofTracker, ofTracker, Summary.mk.injEq]
  refine ⟨held.length_eq, ?_, destinationCounts_congr failed, destinationCounts_congr retransmits, ?_, ?_⟩
  · exact Table.sortBy_entries_congr Pair.sortKey_injective (fun _ => rfl) successful
  · exact sortBy_congr (fun _ _ _ _ => Address.sortKey_injective) listens
  · exact Table.sortBy_entries_congr usageRank_injective (fun _ => rfl) usage

theorem before_of_below {a b : Protocol × Address} (below : Below (usageRank a) (usageRank b)) :
    Prod.Lex Address.Before Protocol.Before (a.2, a.1) (b.2, b.1) := by
  rw [Prod.lex_def]
  exact (Address.below_sortKey_append.1 below).imp_right (.imp_right Protocol.before_iff.2)

theorem ascending_destinationCounts (counts : Table Address Nat) :
    (destinationCounts counts).Pairwise fun a b => a.destination.Before b.destination := by
  have sorted : (destinationCounts counts).Pairwise fun a b => Below a.destination.sortKey b.destination.sortKey :=
    Table.ascending_sortBy_entries (fun _ _ => Address.sortKey_injective) _ fun _ => rfl
  exact sorted.imp Address.before_iff.2

theorem perm_destinationCounts (counts : Table Address Nat) :
    ((destinationCounts counts).map fun item => (item.destination, item.count)).Perm counts.entries :=
  Table.perm_sortBy_entries counts fun _ => rfl

end Summary

/-- The same tables, listed in other orders. -/
structure Tracker.Rearranged (tracker other : Tracker) : Prop where
  held : tracker.held.entries.Perm other.held.entries
  active : tracker.active.entries.Perm other.active.entries
  successful : tracker.successful.entries.Perm other.successful.entries
  failed : tracker.failed.entries.Perm other.failed.entries
  lastAttempt : tracker.lastAttempt.entries.Perm other.lastAttempt.entries
  retransmits : tracker.retransmits.entries.Perm other.retransmits.entries
  listens : tracker.listens.members.Perm other.listens.members
  usage : tracker.usage.entries.Perm other.usage.entries

namespace Summary

/-- Every list is in strictly ascending order: pairs by their destinations and then their sources, the use of
protocols by destinations and then protocols. -/
structure Ascending (summary : Summary) : Prop where
  successful : summary.successful.Pairwise fun a b => Prod.Lex Address.Before Address.Before
    (a.pair.destination, a.pair.source) (b.pair.destination, b.pair.source)
  failed : summary.failed.Pairwise fun a b => a.destination.Before b.destination
  retransmits : summary.retransmits.Pairwise fun a b => a.destination.Before b.destination
  listens : summary.listens.Pairwise Address.Before
  usage : summary.usage.Pairwise fun a b => Prod.Lex Address.Before Protocol.Before
    (a.destination, a.protocol) (b.destination, b.protocol)

/-- What is listed are the entries of the tables, each of them once. -/
structure Lists (summary : Summary) (tracker : Tracker) : Prop where
  openCount : summary.openCount = tracker.held.size
  successful : (summary.successful.map fun item => (item.pair, item.count)).Perm tracker.successful.entries
  failed : (summary.failed.map fun item => (item.destination, item.count)).Perm tracker.failed.entries
  retransmits : (summary.retransmits.map fun item => (item.destination, item.count)).Perm tracker.retransmits.entries
  listens : summary.listens.Perm tracker.listens.members
  usage : (summary.usage.map fun item => ((item.protocol, item.destination), item.usage)).Perm tracker.usage.entries

variable {tracker other : Tracker}

theorem ascending_ofTracker (tracker : Tracker) : (ofTracker tracker).Ascending where
  successful := by
    have sorted : (ofTracker tracker).successful.Pairwise fun a b => Below a.pair.sortKey b.pair.sortKey :=
      Table.ascending_sortBy_entries Pair.sortKey_injective _ fun _ => rfl
    exact sorted.imp Pair.before_of_below
  failed := ascending_destinationCounts tracker.failed
  retransmits := ascending_destinationCounts tracker.retransmits
  listens := by
    have distinct : (sortBy Address.sortKey tracker.listens.members).Nodup :=
      (sortBy_perm _ _).nodup_iff.2 tracker.listens.nodup
    refine (sortBy_pairwise Address.sortKey _).imp₂ ?_ distinct
    intro a b before apart
    exact Address.before_iff.2 ⟨before, fun same => apart (Address.sortKey_injective same)⟩
  usage := by
    have sorted : (ofTracker tracker).usage.Pairwise fun a b =>
        Below (usageRank (a.protocol, a.destination)) (usageRank (b.protocol, b.destination)) :=
      Table.ascending_sortBy_entries usageRank_injective _ fun _ => rfl
    exact sorted.imp before_of_below

theorem lists_ofTracker (tracker : Tracker) : (ofTracker tracker).Lists tracker where
  openCount := rfl
  successful := Table.perm_sortBy_entries tracker.successful fun _ => rfl
  failed := perm_destinationCounts tracker.failed
  retransmits := perm_destinationCounts tracker.retransmits
  listens := sortBy_perm _ _
  usage := Table.perm_sortBy_entries tracker.usage fun _ => rfl

/-- One summary is shown in whatever orders the tables are listed.  It has every entry once, in strictly
ascending order. -/
theorem shown_in_one_order (same : tracker.Rearranged other) :
    ofTracker tracker = ofTracker other ∧ (ofTracker tracker).Ascending ∧ (ofTracker tracker).Lists tracker := by
  have equal := ofTracker_congr same.held same.successful same.failed same.retransmits same.listens same.usage
  exact ⟨equal, ascending_ofTracker tracker, lists_ofTracker tracker⟩

/-- Counters of addresses that differ in nothing but their scope or version, and of two unknown protocols. -/
def crowded : Tracker :=
  { Tracker.empty with
    failed := ⟨[(.v6 1 80 0 3, 1), (.v4 0x0A000009 80, 2), (.v6 1 80 0 2, 4)], by decide⟩
    usage := ⟨[((.other 9, .v4 0x0A000009 80), ⟨1, 0, 5⟩), ((.dns, .v4 0x0A000009 80), ⟨2, 1, 7⟩),
      ((.other 0, .v4 0x0A000009 80), ⟨1, 1, 3⟩)], by decide⟩ }

def crowdedTurned : Tracker :=
  { Tracker.empty with
    failed := ⟨[(.v6 1 80 0 2, 4), (.v6 1 80 0 3, 1), (.v4 0x0A000009 80, 2)], by decide⟩
    usage := ⟨[((.other 0, .v4 0x0A000009 80), ⟨1, 1, 3⟩), ((.other 9, .v4 0x0A000009 80), ⟨1, 0, 5⟩),
      ((.dns, .v4 0x0A000009 80), ⟨2, 1, 7⟩)], by decide⟩ }

theorem crowded_in_one_order : crowded.Rearranged crowdedTurned ∧ ofTracker crowded = ofTracker crowdedTurned ∧
    (ofTracker crowdedTurned).failed = [⟨.v4 0x0A000009 80, 2⟩, ⟨.v6 1 80 0 2, 4⟩, ⟨.v6 1 80 0 3, 1⟩] ∧
    (ofTracker crowdedTurned).usage.map (·.protocol) = [.dns, .other 0, .other 9] := by
  have same : crowded.Rearranged crowdedTurned := by
    constructor <;> decide
  exact ⟨same, (shown_in_one_order same).1, by cbv, by cbv⟩

end Summary

end Attribution
