import Attribution.Proofs.Text.Pieces

/-!
Numbers that digits spell.

Digits spell a number in base ten, and zeros in front make no difference.  Main statement: a row of digits
is read exactly if there are any and their number is within the limit, and then it is that number.
-/

namespace Attribution.Text

/-- The number that digits spell behind those of `start`. -/
def valueFrom (start : Nat) (digits : List Char) : Nat :=
  digits.foldl (fun value c => 10 * value + (c.toNat - '0'.toNat)) start

/-- One digit or more, and the number they spell. -/
structure Spells (digits : List Char) (value : Nat) : Prop where
  some : digits ≠ []
  all : ∀ c ∈ digits, isDigit c = true
  value : valueFrom 0 digits = value

/-- No digit stands in front. -/
def Undigited (text : List Char) : Prop :=
  ∀ c ∈ text.head?, isDigit c = false

variable {limit start value : Nat} {text digits rest : List Char} {c : Char}

theorem digit?_of_isDigit (digit : isDigit c = true) : digit? c = some (c.toNat - '0'.toNat) := by
  unfold isDigit digit? at digit
  unfold digit?
  split at digit
  · rename_i bounds
    rw [if_pos bounds]
  · cases digit

theorem le_valueFrom (start : Nat) (digits : List Char) : start ≤ valueFrom start digits := by
  induction digits generalizing start with
  | nil => exact Nat.le_refl start
  | cons c digits ih =>
    have further := ih (10 * start + (c.toNat - '0'.toNat))
    rw [valueFrom, List.foldl_cons]
    rw [valueFrom] at further
    omega

theorem readDigits_eq_ok_iff (fits : start ≤ limit) :
    readDigits limit start text = .ok value ↔
      (∀ c ∈ text, isDigit c = true) ∧ valueFrom start text = value ∧ value ≤ limit := by
  induction text generalizing start with
  | nil =>
    simp only [readDigits, Except.ok.injEq, List.not_mem_nil, false_implies, implies_true, true_and, valueFrom,
      List.foldl_nil]
    exact ⟨fun same => ⟨same, same ▸ fits⟩, fun same => same.1⟩
  | cons c rest ih =>
    rw [readDigits, List.forall_mem_cons]
    cases digit : isDigit c with
    | false =>
      have none : digit? c = none := by simpa [isDigit] using digit
      simp [none]
    | true =>
      rw [digit?_of_isDigit digit]
      have whole : valueFrom start (c :: rest) = valueFrom (10 * start + (c.toNat - '0'.toNat)) rest := rfl
      by_cases within : 10 * start + (c.toNat - '0'.toNat) ≤ limit
      · simp only [if_pos within, ih within, whole, true_and]
      · have further := le_valueFrom (10 * start + (c.toNat - '0'.toNat)) rest
        simp only [if_neg within, whole]
        constructor
        · intro failed
          cases failed
        · rintro ⟨-, same, bounded⟩
          omega

theorem readNumber_eq_ok_iff (all : ∀ c ∈ text, isDigit c = true) :
    readNumber limit text = .ok value ↔ Spells text value ∧ value ≤ limit := by
  by_cases some : text = []
  · subst some
    constructor
    · intro read
      cases read
    · exact fun spells => absurd rfl spells.1.some
  · rw [readNumber_of_digits some all, readDigits_eq_ok_iff (Nat.zero_le limit)]
    exact ⟨fun read => ⟨⟨some, all, read.2.1⟩, read.2.2⟩, fun spells => ⟨all, spells.1.value, spells.2⟩⟩

theorem readUInt32?_eq_some_iff (all : ∀ c ∈ text, isDigit c = true) {number : UInt32} :
    readUInt32? text = some number ↔ Spells text number.toNat := by
  have fits : number.toNat ≤ UInt32.size - 1 := by
    have bound := number.toNat_lt
    simp only [UInt32.size]
    omega
  have reads : readNumber (UInt32.size - 1) text = .ok number.toNat ↔ Spells text number.toNat :=
    (readNumber_eq_ok_iff all).trans (and_iff_left fits)
  rw [← reads, readUInt32?]
  cases read : readNumber (UInt32.size - 1) text with
  | error fault => simp [Except.toOption]
  | ok value =>
    have within := ((readNumber_eq_ok_iff all).1 read).2
    simp only [UInt32.size] at within
    simp only [Except.toOption, Option.map_some, Option.some.injEq, Except.ok.injEq, ← UInt32.toNat_inj]
    rw [UInt32.toNat_ofNat_of_lt' (by simp only [UInt32.size]; omega)]

theorem takeWhile_isDigit_append (all : ∀ c ∈ digits, isDigit c = true) (undigited : Undigited rest) :
    (digits ++ rest).takeWhile isDigit = digits := by
  rw [List.takeWhile_append_of_pos all]
  cases rest with
  | nil => simp
  | cons c rest => simp [undigited c rfl]

theorem takeWhile_isDigit_undigited (text : List Char) (undigited : Undigited rest) :
    (text ++ rest).takeWhile isDigit = text.takeWhile isDigit := by
  have none : rest.takeWhile isDigit = [] := by
    cases rest with
    | nil => rfl
    | cons c rest => exact List.takeWhile_cons_of_neg (by simp [undigited c rfl])
  rw [List.takeWhile_append, none, List.append_nil]
  split
  next complete => rw [(List.takeWhile_prefix isDigit).eq_of_length complete]
  next => rfl

theorem spells_decimal (value : Nat) : Spells (decimal value) value := by
  have digits : ∀ c ∈ decimal value, isDigit c = true := fun _ => isDigit_of_mem_decimal
  exact ((readNumber_eq_ok_iff digits).1 (readNumber_decimal (Nat.le_refl value))).1

theorem undigited_dropWhile (text : List Char) : Undigited (text.dropWhile isDigit) := by
  intro c first
  have stops := List.head?_dropWhile_not isDigit text
  rw [Option.mem_def] at first
  rw [first] at stops
  simpa using stops

end Attribution.Text
