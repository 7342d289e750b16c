import Attribution.Text.Split

/-!
What a search in a text finds.

A search goes through the places of a text from the left.  It ends at the first place where something can
be read, and comes to nothing exactly if there is no such place.
-/

namespace Attribution.Text

variable {α β : Type}

theorem isSome_strip_iff [DecidableEq α] {start text : List α} :
    (strip start text).isSome = true ↔ start <+: text := by
  simp only [Option.isSome_iff_exists, strip_eq_some_iff]
  exact ⟨fun ⟨rest, whole⟩ => ⟨rest, whole.symm⟩, fun ⟨rest, whole⟩ => ⟨rest, whole.symm⟩⟩

theorem occursIn_iff [DecidableEq α] {part text : List α} : occursIn part text = true ↔ part <:+: text := by
  induction text with
  | nil => simp [occursIn]
  | cons a rest ih => rw [occursIn, Bool.or_eq_true, isSome_strip_iff, ih, List.infix_cons_iff]

/-- Something is found behind `before`, and nowhere further left. -/
structure First (found : List α → β → Prop) (before : List α) (what : β) : Prop where
  here : found before what
  leftmost : ∀ front other, found front other → before.length ≤ front.length

/-- Something can be read in a text behind `before`. -/
def Reads (read : List α → Option β) (text before : List α) (what : β) : Prop :=
  ∃ rest, text = before ++ rest ∧ read rest = some what

variable {read : List α → Option β} {text before : List α} {what : β} {a : α}

theorem reads_start (here : read text = some what) : Reads read text [] what :=
  ⟨text, rfl, here⟩

theorem Reads.later (reads : Reads read text before what) : Reads read (a :: text) (a :: before) what := by
  obtain ⟨rest, rfl, here⟩ := reads
  exact ⟨rest, rfl, here⟩

theorem Reads.of_cons (reads : Reads read (a :: text) before what) :
    before = [] ∧ read (a :: text) = some what ∨ ∃ later, before = a :: later ∧ Reads read text later what := by
  obtain ⟨rest, whole, here⟩ := reads
  cases before with
  | nil =>
    rw [List.nil_append] at whole
    exact .inl ⟨rfl, whole ▸ here⟩
  | cons b later =>
    obtain ⟨rfl, rfl⟩ := List.cons_eq_cons.1 whole
    exact .inr ⟨later, rfl, rest, rfl, here⟩

theorem firstMatch_of_start (here : read text = some what) : firstMatch read text = some what := by
  cases text with
  | nil => exact here
  | cons a rest => rw [firstMatch, here, Option.orElse_some]

theorem not_reads_of_firstMatch (nothing : firstMatch read text = none) (before : List α) (what : β) :
    ¬Reads read text before what := by
  induction text generalizing before with
  | nil =>
    rintro ⟨rest, whole, here⟩
    obtain ⟨-, rfl⟩ := List.append_eq_nil_iff.1 whole.symm
    rw [firstMatch, here] at nothing
    cases nothing
  | cons a text ih =>
    rw [firstMatch] at nothing
    cases here : read (a :: text) with
    | some other =>
      rw [here] at nothing
      cases nothing
    | none =>
      rw [here] at nothing
      intro reads
      rcases reads.of_cons with ⟨-, start⟩ | ⟨later, -, further⟩
      · rw [here] at start
        cases start
      · exact ih nothing later further

theorem first_of_firstMatch (found : firstMatch read text = some what) :
    ∃ before, First (Reads read text) before what := by
  induction text with
  | nil => exact ⟨[], reads_start found, fun _ _ _ => Nat.zero_le _⟩
  | cons a text ih =>
    rw [firstMatch] at found
    cases here : read (a :: text) with
    | some other =>
      rw [here] at found
      cases found
      exact ⟨[], reads_start here, fun _ _ _ => Nat.zero_le _⟩
    | none =>
      rw [here] at found
      obtain ⟨before, further, leftmost⟩ := ih found
      refine ⟨a :: before, further.later, ?_⟩
      intro front other reads
      rcases reads.of_cons with ⟨-, start⟩ | ⟨later, rfl, rest⟩
      · rw [here] at start
        cases start
      · exact Nat.succ_le_succ (leftmost later other rest)

theorem read_of_firstMatch (found : firstMatch read text = some what) : ∃ rest, read rest = some what := by
  obtain ⟨before, first⟩ := first_of_firstMatch found
  obtain ⟨rest, -, here⟩ := first.here
  exact ⟨rest, here⟩

end Attribution.Text
