/-! Finite sets as lists without repetition. -/

namespace Attribution

/-- A finite set; no member is listed twice. -/
structure Roster (α : Type) where
  members : List α
  nodup : members.Nodup

namespace Roster

variable {α : Type}

def empty : Roster α where
  members := []
  nodup := List.nodup_nil

instance : Inhabited (Roster α) := ⟨empty⟩

instance : Membership α (Roster α) := ⟨fun roster a => a ∈ roster.members⟩

def size (roster : Roster α) : Nat :=
  roster.members.length

@[simp] theorem not_mem_empty (a : α) : a ∉ (empty : Roster α) :=
  fun member => by cases member

theorem size_eq_zero_iff {roster : Roster α} : roster.size = 0 ↔ ∀ a, a ∉ roster := by
  constructor
  · intro none a member
    rw [size, List.length_eq_zero_iff] at none
    change a ∈ roster.members at member
    rw [none] at member
    cases member
  · intro absent
    rw [size, List.length_eq_zero_iff, List.eq_nil_iff_forall_not_mem]
    exact absent

variable [DecidableEq α]

instance (a : α) (roster : Roster α) : Decidable (a ∈ roster) :=
  inferInstanceAs (Decidable (a ∈ roster.members))

def insert (roster : Roster α) (a : α) : Roster α :=
  if fresh : a ∈ roster.members then roster
  else ⟨a :: roster.members, List.nodup_cons.2 ⟨fresh, roster.nodup⟩⟩

def erase (roster : Roster α) (a : α) : Roster α where
  members := roster.members.filter (· ≠ a)
  nodup := roster.nodup.filter _

@[simp] theorem mem_insert {roster : Roster α} {a b : α} :
    b ∈ roster.insert a ↔ b = a ∨ b ∈ roster := by
  unfold insert
  split
  · rename_i present
    exact ⟨Or.inr, fun member => member.elim (fun same => same ▸ present) id⟩
  · exact List.mem_cons

@[simp] theorem mem_erase {roster : Roster α} {a b : α} :
    b ∈ roster.erase a ↔ b ≠ a ∧ b ∈ roster := by
  change b ∈ roster.members.filter (· ≠ a) ↔ b ≠ a ∧ b ∈ roster.members
  simp [and_comm]

end Roster

end Attribution
