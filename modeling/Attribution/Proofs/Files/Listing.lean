import Attribution.Proofs.Files.Finding
import Mathlib.Data.List.Perm.Basic

/-!
File systems in any order.

A file system is a table, and a table lists its entries in no particular order.  Main statements: where paths
lead does not depend on that order; a directory lists the same names in each, and each order of its names is
one in which some of them list it.
-/

namespace Attribution

theorem exists_perm_filterMap {α β : Type} {read : α → Option β} {items : List α} {again : List β}
    (turned : (items.filterMap read).Perm again) : ∃ others, items.Perm others ∧ others.filterMap read = again := by
  induction items generalizing again with
  | nil => exact ⟨[], .refl [], (List.nil_perm.1 turned).symm⟩
  | cons item items ih =>
    cases told : read item with
    | none =>
      rw [List.filterMap_cons_none told] at turned
      obtain ⟨others, perm, mapped⟩ := ih turned
      exact ⟨item :: others, perm.cons item, by rw [List.filterMap_cons_none told, mapped]⟩
    | some what =>
      rw [List.filterMap_cons_some told] at turned
      obtain ⟨front, behind, rfl⟩ := List.append_of_mem (turned.mem_iff.1 List.mem_cons_self)
      obtain ⟨others, perm, mapped⟩ := ih (turned.trans List.perm_middle).cons_inv
      obtain ⟨first, second, rfl, rfl, rfl⟩ := List.filterMap_eq_append_iff.1 mapped
      refine ⟨first ++ item :: second, (perm.cons item).trans List.perm_middle.symm, ?_⟩
      rw [List.filterMap_append, List.filterMap_cons_some told]

theorem Table.get?_eq_of_perm {α β : Type} [DecidableEq α] {table other : Table α β}
    (same : table.entries.Perm other.entries) (key : α) : table.get? key = other.get? key := by
  apply Option.ext
  intro value
  rw [get?_eq_some_iff, get?_eq_some_iff, same.mem_iff]

namespace Files.Tree

variable {tree other : Tree}

/-- The same entries, listed in another order. -/
def Rearranged (tree other : Tree) : Prop :=
  tree.entries.entries.Perm other.entries.entries

theorem Rearranged.symm (same : tree.Rearranged other) : other.Rearranged tree :=
  List.Perm.symm same

theorem Rearranged.entryAt? (same : tree.Rearranged other) (place : Location) :
    tree.entryAt? place = other.entryAt? place := by
  rw [Tree.entryAt?, Tree.entryAt?, Table.get?_eq_of_perm same]

theorem walk_congr (same : ∀ place, other.entryAt? place = tree.entryAt? place) (followLast : Bool) (links : Nat)
    (place : Location) (segments : List (List Char)) :
    other.walk followLast links place segments = tree.walk followLast links place segments := by
  fun_induction Tree.walk tree followLast links place segments with
  | case1 links place entry found => rw [walk, same, found]
  | case2 links place absent => rw [walk, same, absent]
  | case3 links place segment rest void ih => rw [walk, if_pos void, ih]
  | case4 links place rest named ih => rw [walk, if_neg named, if_pos rfl, ih]
  | case5 links place segment rest named inward name long =>
    rw [walk, if_neg named, if_neg inward]
    exact if_pos long
  | case6 links place segment rest named inward name next short absent =>
    rw [walk_name named inward short, same, absent]
  | case7 links place segment rest named inward name next short found ih =>
    rw [walk_name named inward short, same, found]
    exact ih
  | case8 links place segment rest named inward name next short target found stops =>
    rw [walk_name named inward short, same, found]
    exact if_pos stops
  | case9 place segment rest named inward name next short target found further =>
    rw [walk_name named inward short, same, found]
    exact if_neg further
  | case10 place segment rest named inward name next short text found further links target ih =>
    rw [walk_name named inward short, same, found]
    exact (if_neg further).trans ih
  | case11 links place segment rest named inward name next short entry noDirectory noLink found last =>
    rw [walk_name named inward short, same, found]
    simp only [if_pos last, name, next]
  | case12 links place segment rest named inward name next short entry noDirectory noLink found further =>
    rw [walk_name named inward short, same, found]
    simp only [if_neg further]

theorem Rearranged.find (same : tree.Rearranged other) (followLast : Bool) (path : Path) :
    other.find followLast path = tree.find followLast path := by
  rw [Tree.find, Tree.find, walk_congr fun place => (same.entryAt? place).symm]

theorem Rearranged.stat (same : tree.Rearranged other) (path : Path) : other.stat path = tree.stat path := by
  rw [Tree.stat, Tree.stat, same.find]

theorem list_eq_ok_iff {path : Path} {found : List (String × Entry)} : tree.list path = .ok found ↔
    ∃ place, tree.find true path = .ok (place, .directory) ∧ tree.childrenOf place = found := by
  rw [Tree.list]
  cases tree.find true path with
  | error fault =>
    constructor
    · rintro ⟨⟩
    · rintro ⟨place, ⟨⟩, -⟩
  | ok reached =>
    obtain ⟨place, entry⟩ := reached
    constructor
    · intro listed
      cases entry with
      | directory =>
        cases listed
        exact ⟨place, rfl, rfl⟩
      | _ => cases listed
    · rintro ⟨_, ⟨⟩, rfl⟩
      rfl

theorem Rearranged.list (same : tree.Rearranged other) {path : Path} {found : List (String × Entry)}
    (listed : tree.list path = .ok found) : ∃ again, other.list path = .ok again ∧ found.Perm again := by
  obtain ⟨place, led, rfl⟩ := list_eq_ok_iff.1 listed
  refine ⟨other.childrenOf place, list_eq_ok_iff.2 ⟨place, ?_, rfl⟩, same.filterMap _⟩
  rw [same.find, led]

theorem exists_rearranged {path : Path} {found again : List (String × Entry)}
    (listed : tree.list path = .ok found) (turned : found.Perm again) :
    ∃ other : Tree, tree.Rearranged other ∧ other.list path = .ok again := by
  obtain ⟨place, led, rfl⟩ := list_eq_ok_iff.1 listed
  obtain ⟨entries, perm, mapped⟩ := exists_perm_filterMap turned
  have same : tree.Rearranged ⟨⟨entries, (perm.map Prod.fst).nodup_iff.1 tree.entries.nodup⟩⟩ := perm
  refine ⟨_, same, list_eq_ok_iff.2 ⟨place, ?_, mapped⟩⟩
  rw [same.find, led]

end Files.Tree

end Attribution
