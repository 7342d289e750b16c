/-!
Stable sorting by a key that is compared part by part.

Main statements: the order of keys is linear, sorting rearranges the items and leaves them in
ascending order, and where keys tell the items apart the result depends on the items alone.
-/

namespace Attribution

/-- Whether a key stands at or before another: the first part in which they differ decides, and a
key stands before its continuations. -/
def keyLe : List Nat → List Nat → Bool
  | [], _ => true
  | _ :: _, [] => false
  | a :: as, b :: bs => a < b || (a == b && keyLe as bs)

theorem keyLe_trans {a b c : List Nat} (ab : keyLe a b) (bc : keyLe b c) : keyLe a c := by
  induction a generalizing b c with
  | nil => rfl
  | cons x xs ih =>
    cases b with
    | nil => simp [keyLe] at ab
    | cons y ys =>
      cases c with
      | nil => simp [keyLe] at bc
      | cons z zs =>
        simp only [keyLe, Bool.or_eq_true, Bool.and_eq_true, decide_eq_true_eq, beq_iff_eq] at ab bc ⊢
        rcases ab with lt | ⟨rfl, rest⟩
        · rcases bc with lt' | ⟨rfl, _⟩
          · exact .inl (Nat.lt_trans lt lt')
          · exact .inl lt
        · rcases bc with lt' | ⟨rfl, rest'⟩
          · exact .inl lt'
          · exact .inr ⟨rfl, ih rest rest'⟩

theorem keyLe_total (a b : List Nat) : keyLe a b ∨ keyLe b a := by
  induction a generalizing b with
  | nil => exact .inl rfl
  | cons x xs ih =>
    cases b with
    | nil => exact .inr rfl
    | cons y ys =>
      simp only [keyLe, Bool.or_eq_true, Bool.and_eq_true, decide_eq_true_eq, beq_iff_eq]
      rcases Nat.lt_trichotomy x y with lt | rfl | gt
      · exact .inl (.inl lt)
      · exact (ih ys).imp (fun rest => .inr ⟨rfl, rest⟩) (fun rest => .inr ⟨rfl, rest⟩)
      · exact .inr (.inl gt)

theorem keyLe_antisymm {a b : List Nat} (ab : keyLe a b) (ba : keyLe b a) : a = b := by
  induction a generalizing b with
  | nil =>
    cases b with
    | nil => rfl
    | cons y ys => simp [keyLe] at ba
  | cons x xs ih =>
    cases b with
    | nil => simp [keyLe] at ab
    | cons y ys =>
      simp only [keyLe, Bool.or_eq_true, Bool.and_eq_true, decide_eq_true_eq, beq_iff_eq] at ab ba
      rcases ab with lt | ⟨rfl, rest⟩
      · rcases ba with lt' | ⟨rfl, _⟩
        · exact absurd lt (Nat.lt_asymm lt')
        · exact absurd lt (Nat.lt_irrefl _)
      · rcases ba with lt' | ⟨_, rest'⟩
        · exact absurd lt' (Nat.lt_irrefl _)
        · rw [ih rest rest']

/-- Sorts by the parts of a key, the first part first; items with equal keys keep their order. -/
def sortBy {α : Type} (key : α → List Nat) (items : List α) : List α :=
  items.mergeSort fun a b => keyLe (key a) (key b)

theorem sortBy_perm {α : Type} (key : α → List Nat) (items : List α) :
    (sortBy key items).Perm items :=
  List.mergeSort_perm items _

theorem sortBy_pairwise {α : Type} (key : α → List Nat) (items : List α) :
    (sortBy key items).Pairwise fun a b => keyLe (key a) (key b) :=
  @List.pairwise_mergeSort α (fun a b => keyLe (key a) (key b)) (fun _ _ _ => keyLe_trans)
    (fun a b => by simpa using keyLe_total (key a) (key b)) items

/-- Two sorted arrangements of the same items agree when keys tell the items apart. -/
theorem sortBy_congr {α : Type} {key : α → List Nat} {items others : List α}
    (apart : ∀ a ∈ items, ∀ b ∈ items, key a = key b → a = b) (same : items.Perm others) :
    sortBy key items = sortBy key others := by
  have left := sortBy_perm key items
  have perm : (sortBy key items).Perm (sortBy key others) :=
    left.trans (same.trans (sortBy_perm key others).symm)
  exact List.Perm.eq_of_pairwise (fun a b ina _ ab ba =>
    apart a (left.mem_iff.1 ina) b ((perm.trans ((sortBy_perm key others).trans same.symm)).mem_iff.1
      (perm.mem_iff.2 ‹_›)) (keyLe_antisymm ab ba))
    (sortBy_pairwise key items) (sortBy_pairwise key others) perm

end Attribution
