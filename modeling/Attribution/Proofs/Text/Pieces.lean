import Attribution.Text.Blank
import Attribution.Text.Number
import Attribution.Text.Split
import Mathlib.Data.List.Basic

/-!
What is written piece by piece is read back piece by piece.

A text that is joined with separators is split at them again, the lines of a text are those that were
put under each other, and the digits of a number are read as that number.
-/

namespace Attribution.Text

/-! ### Pieces between separators -/

section Split

variable {α : Type} {isSeparator : α → Bool} {separator : α} {piece text : List α} {pieces : List (List α)}

theorem joinWith_cons_cons (piece next : List α) (others : List (List α)) :
    joinWith separator (piece :: next :: others) = piece ++ separator :: joinWith separator (next :: others) :=
  rfl

theorem splitWhen_of_clean (clean : ∀ a ∈ piece, isSeparator a = false) :
    splitWhen isSeparator piece = [piece] := by
  induction piece with
  | nil => rfl
  | cons a piece ih =>
    have rest : splitWhen isSeparator piece = [piece] :=
      ih fun b member => clean b (List.mem_cons_of_mem a member)
    simp [splitWhen, clean a List.mem_cons_self, rest]

theorem splitWhen_append_cons (separates : isSeparator separator = true) (text rest : List α) :
    splitWhen isSeparator (text ++ separator :: rest) =
      splitWhen isSeparator text ++ splitWhen isSeparator rest := by
  induction text with
  | nil => simp [splitWhen, separates]
  | cons a text ih =>
    rw [List.cons_append, splitWhen, splitWhen, ih]
    split
    · rfl
    · cases pieces : splitWhen isSeparator text with
      | nil => exact absurd pieces (splitWhen_ne_nil isSeparator text)
      | cons piece others => rfl

theorem splitWhen_append (separates : isSeparator separator = true)
    (clean : ∀ a ∈ piece, isSeparator a = false) (rest : List α) :
    splitWhen isSeparator (piece ++ separator :: rest) = piece :: splitWhen isSeparator rest := by
  rw [splitWhen_append_cons separates, splitWhen_of_clean clean, List.singleton_append]

theorem splitWhen_joinWith (separates : isSeparator separator = true) (some : pieces ≠ [])
    (clean : ∀ piece ∈ pieces, ∀ a ∈ piece, isSeparator a = false) :
    splitWhen isSeparator (joinWith separator pieces) = pieces := by
  induction pieces with
  | nil => exact absurd rfl some
  | cons piece others ih =>
    have first := clean piece List.mem_cons_self
    cases others with
    | nil => exact splitWhen_of_clean first
    | cons next others =>
      have rest := ih (by simp) fun other member => clean other (List.mem_cons_of_mem piece member)
      rw [joinWith_cons_cons, splitWhen_append separates first, rest]

theorem clean_of_mem_splitWhen (member : piece ∈ splitWhen isSeparator text) :
    ∀ a ∈ piece, isSeparator a = false := by
  induction text generalizing piece with
  | nil =>
    rw [splitWhen, List.mem_singleton] at member
    simp [member]
  | cons a text ih =>
    rw [splitWhen] at member
    split at member
    · rcases List.mem_cons.1 member with same | later
      · simp [same]
      · exact ih later
    · rename_i other
      rw [Bool.not_eq_true] at other
      cases parts : splitWhen isSeparator text with
      | nil => exact absurd parts (splitWhen_ne_nil _ _)
      | cons first others =>
        rw [parts, List.modifyHead_cons] at member
        rcases List.mem_cons.1 member with same | later
        · rw [same, List.forall_mem_cons]
          exact ⟨other, ih (parts ▸ List.mem_cons_self)⟩
        · exact ih (parts ▸ List.mem_cons_of_mem first later)

theorem prefix_piece_of_clean (clean : ∀ a ∈ piece, isSeparator a = false) (starts : piece <+: text) :
    ∃ first others, splitWhen isSeparator text = first :: others ∧ piece <+: first := by
  induction text generalizing piece with
  | nil => exact ⟨[], [], rfl, starts⟩
  | cons a text ih =>
    rcases List.prefix_cons_iff.1 starts with rfl | ⟨part, rfl, further⟩
    · obtain ⟨first, others, parts⟩ := List.exists_cons_of_ne_nil (splitWhen_ne_nil isSeparator (a :: text))
      exact ⟨first, others, parts, List.nil_prefix⟩
    · rw [List.forall_mem_cons] at clean
      obtain ⟨first, others, parts, begins⟩ := ih clean.2 further
      refine ⟨a :: first, others, ?_, List.prefix_cons_inj a |>.2 begins⟩
      rw [splitWhen, clean.1, parts]
      rfl

theorem infix_piece_of_clean (clean : ∀ a ∈ piece, isSeparator a = false) (inside : piece <:+: text) :
    ∃ part ∈ splitWhen isSeparator text, piece <:+: part := by
  induction text with
  | nil => exact ⟨[], List.mem_singleton_self _, inside⟩
  | cons a text ih =>
    rcases List.infix_cons_iff.1 inside with starts | later
    · obtain ⟨first, others, parts, begins⟩ := prefix_piece_of_clean clean starts
      exact ⟨first, parts ▸ List.mem_cons_self, begins.isInfix⟩
    · obtain ⟨part, listed, within⟩ := ih later
      rw [splitWhen]
      split
      · exact ⟨part, List.mem_cons_of_mem [] listed, within⟩
      · cases parts : splitWhen isSeparator text with
        | nil => exact absurd parts (splitWhen_ne_nil _ _)
        | cons first others =>
          rw [parts] at listed
          rcases List.mem_cons.1 listed with rfl | other
          · exact ⟨a :: part, List.mem_cons_self, List.infix_cons within⟩
          · exact ⟨part, List.mem_cons_of_mem _ other, within⟩

theorem mem_joinWith {a : α} (member : a ∈ joinWith separator pieces) :
    a = separator ∨ ∃ piece ∈ pieces, a ∈ piece := by
  induction pieces with
  | nil => cases member
  | cons piece others ih =>
    cases others with
    | nil => exact .inr ⟨piece, List.mem_cons_self, member⟩
    | cons next others =>
      rw [joinWith_cons_cons, List.mem_append, List.mem_cons] at member
      rcases member with here | same | later
      · exact .inr ⟨piece, List.mem_cons_self, here⟩
      · exact .inl same
      · apply (ih later).imp_right
        intro ⟨other, listed, inside⟩
        exact ⟨other, List.mem_cons_of_mem piece listed, inside⟩

end Split

theorem splitOn_joinWith {separator : Char} {pieces : List (List Char)} (some : pieces ≠ [])
    (clean : ∀ piece ∈ pieces, separator ∉ piece) : splitOn separator (joinWith separator pieces) = pieces := by
  apply splitWhen_joinWith
  · exact beq_self_eq_true separator
  · exact some
  · intro piece listed c inside
    rw [beq_eq_false_iff_ne]
    rintro rfl
    exact clean piece listed inside

theorem splitOn_append_cons (separator : Char) (text rest : List Char) :
    splitOn separator (text ++ separator :: rest) = splitOn separator text ++ splitOn separator rest := by
  apply splitWhen_append_cons
  exact beq_self_eq_true separator

theorem not_mem_of_mem_splitOn {separator : Char} {piece text : List Char}
    (member : piece ∈ splitOn separator text) : separator ∉ piece := by
  intro inside
  simpa using clean_of_mem_splitWhen member separator inside

theorem infix_splitOn {separator : Char} {part text : List Char} (clean : separator ∉ part)
    (inside : part <:+: text) : ∃ piece ∈ splitOn separator text, part <:+: piece := by
  apply infix_piece_of_clean _ inside
  intro c member
  rw [beq_eq_false_iff_ne]
  rintro rfl
  exact clean member

section Cut

variable {α : Type} [DecidableEq α] {separator : α} {text before after : List α}

theorem eq_of_cut (parts : cut separator text = some (before, after)) : text = before ++ separator :: after := by
  induction text generalizing before with
  | nil => cases parts
  | cons a rest ih =>
    rw [cut] at parts
    split at parts
    next same =>
      cases parts
      rw [same, List.nil_append]
    next =>
      obtain ⟨⟨first, last⟩, found, same⟩ := Option.map_eq_some_iff.1 parts
      cases same
      rw [ih found, List.cons_append]

theorem cut_append (absent : separator ∉ before) (after : List α) :
    cut separator (before ++ separator :: after) = some (before, after) := by
  induction before with
  | nil => simp [cut]
  | cons a before ih =>
    rw [List.mem_cons, not_or] at absent
    obtain ⟨other, rest⟩ := absent
    rw [List.cons_append, cut, if_neg (Ne.symm other), ih rest, Option.map_some]

theorem not_mem_of_cut (parts : cut separator text = some (before, after)) : separator ∉ before := by
  induction text generalizing before with
  | nil => cases parts
  | cons a rest ih =>
    rw [cut] at parts
    split at parts
    next =>
      cases parts
      exact List.not_mem_nil
    next other =>
      obtain ⟨⟨first, last⟩, found, same⟩ := Option.map_eq_some_iff.1 parts
      cases same
      rw [List.mem_cons, not_or]
      exact ⟨Ne.symm other, ih found⟩

theorem cut_eq_some_iff :
    cut separator text = some (before, after) ↔ text = before ++ separator :: after ∧ separator ∉ before := by
  constructor
  · exact fun parts => ⟨eq_of_cut parts, not_mem_of_cut parts⟩
  · rintro ⟨rfl, absent⟩
    exact cut_append absent after

end Cut

/-! ### Lines -/

section Lines

variable {rows : List (List Char)} {row : List Char}

theorem dropFinal_of_getLast?_ne {final : Char} (other : row.getLast? ≠ some final) :
    dropFinal final row = row := by
  fun_induction dropFinal final row with
  | case1 => rfl
  | case2 => simp at other
  | case3 => rfl
  | case4 a b rest ih => rw [ih (by simpa using other)]

theorem allBlank_dropFinal (blank : allBlank row = true) (final : Char) :
    allBlank (dropFinal final row) = true := by
  fun_induction dropFinal final row with
  | case1 => rfl
  | case2 => rfl
  | case3 => exact blank
  | case4 a b rest ih =>
    rw [allBlank, List.all_cons, Bool.and_eq_true] at blank ⊢
    exact ⟨blank.1, ih blank.2⟩

/-- Only blank lines are lost, or cut short, when a text is taken apart into its lines. -/
theorem filter_ended (sound : ∀ row ∈ rows, allBlank row = true ∨ row.getLast? ≠ some '\r') :
    (linesOf.ended '\r' rows).filter (!allBlank ·) = rows.filter (!allBlank ·) := by
  fun_induction linesOf.ended '\r' rows with
  | case1 => rfl
  | case2 => rfl
  | case3 => rfl
  | case4 row next rest ih =>
    rw [List.forall_mem_cons] at sound
    obtain ⟨here, later⟩ := sound
    rcases here with blank | other
    · simp [List.filter_cons, allBlank_dropFinal blank, blank, ih later]
    · simp only [List.filter_cons, dropFinal_of_getLast?_ne other, ih later]

theorem filter_lines_joinWith (single : ∀ row ∈ rows, '\n' ∉ row)
    (sound : ∀ row ∈ rows, allBlank row = true ∨ row.getLast? ≠ some '\r') :
    (lines (joinWith '\n' rows)).filter (!allBlank ·) = rows.filter (!allBlank ·) := by
  cases rows with
  | nil => rfl
  | cons row rest =>
    have parts : splitWhen (fun c => decide (c = '\n')) (joinWith '\n' (row :: rest)) = row :: rest := by
      apply splitWhen_joinWith
      · exact decide_eq_true rfl
      · exact List.cons_ne_nil row rest
      · intro other listed c inside
        rw [decide_eq_false_iff_not]
        rintro rfl
        exact single other listed inside
    rw [lines, linesOf, parts]
    exact filter_ended sound

end Lines

/-! ### Numbers -/

theorem digit?_ofNat {digit : Nat} (small : digit < 10) :
    digit? (Char.ofNat ('0'.toNat + digit)) = some digit := by
  have all : ∀ digit : Fin 10, digit? (Char.ofNat ('0'.toNat + digit)) = some digit.val := by decide
  exact all ⟨digit, small⟩

theorem not_isBlank_of_isDigit {c : Char} (digit : isDigit c = true) : isBlank c = false := by
  have bounds : '0' ≤ c ∧ c ≤ '9' := by
    by_contra outside
    simp [isDigit, digit?, outside] at digit
  have low : 48 ≤ c.toNat := bounds.1
  have high : c.toNat ≤ 57 := bounds.2
  simp [isBlank]
  omega

theorem decimal_ne_nil (value : Nat) : decimal value ≠ [] := by
  unfold decimal
  split <;> simp

theorem isDigit_of_mem_decimal {value : Nat} {c : Char} (member : c ∈ decimal value) : isDigit c = true := by
  induction value using decimal.induct with
  | case1 value small =>
    rw [decimal, if_pos small, List.mem_singleton] at member
    rw [member, isDigit, digit?_ofNat small, Option.isSome_some]
  | case2 value large ih =>
    rw [decimal, if_neg large, List.mem_append, List.mem_singleton] at member
    rcases member with front | last
    · exact ih front
    · rw [last, isDigit, digit?_ofNat (Nat.mod_lt value (by decide)), Option.isSome_some]

theorem readDigits_append (limit value : Nat) (digits more : List Char) :
    readDigits limit value (digits ++ more) = (readDigits limit value digits).bind (readDigits limit · more) := by
  induction digits generalizing value with
  | nil => rfl
  | cons c digits ih =>
    rw [List.cons_append, readDigits, readDigits]
    split
    · rfl
    · split
      · exact ih _
      · rfl

theorem readDigits_digit {limit value digit : Nat} (small : digit < 10) (fits : 10 * value + digit ≤ limit) :
    readDigits limit value [Char.ofNat ('0'.toNat + digit)] = .ok (10 * value + digit) := by
  rw [readDigits, digit?_ofNat small]
  simp only [if_pos fits, readDigits]

theorem readDigits_decimal {limit value : Nat} (fits : value ≤ limit) :
    readDigits limit 0 (decimal value) = .ok value := by
  induction value using decimal.induct with
  | case1 value small =>
    rw [decimal, if_pos small, readDigits_digit small (by omega)]
    simp
  | case2 value large ih =>
    have front := ih (Nat.le_trans (Nat.div_le_self value 10) fits)
    have last : 10 * (value / 10) + value % 10 = value := Nat.div_add_mod value 10
    rw [decimal, if_neg large, readDigits_append, front, Except.bind,
      readDigits_digit (Nat.mod_lt value (by decide)) (by omega), last]

theorem readNumber_of_digits {limit : Nat} {text : List Char} (some : text ≠ [])
    (digits : ∀ c ∈ text, isDigit c = true) : readNumber limit text = readDigits limit 0 text := by
  obtain ⟨c, rest, rfl⟩ := List.exists_cons_of_ne_nil some
  have unsigned : c ≠ '+' := by
    rintro rfl
    exact absurd (digits '+' List.mem_cons_self) (by decide)
  unfold readNumber
  split <;> simp_all

theorem readNumber_decimal {limit value : Nat} (fits : value ≤ limit) :
    readNumber limit (decimal value) = .ok value :=
  calc readNumber limit (decimal value)
    _ = readDigits limit 0 (decimal value) :=
      readNumber_of_digits (decimal_ne_nil value) fun _ => isDigit_of_mem_decimal
    _ = .ok value := readDigits_decimal fits

theorem readUInt32?_decimal (value : UInt32) : readUInt32? (decimal value.toNat) = some value := by
  have fits : value.toNat ≤ UInt32.size - 1 := by
    have bound := value.toNat_lt
    simp only [UInt32.size]
    omega
  rw [readUInt32?, readNumber_decimal fits]
  simp [Except.toOption]

/-! ### Blanks at the ends -/

variable {text : List Char}

theorem trimEnd_eq_self (last : ∀ c ∈ text.getLast?, isBlank c = false) : trimEnd text = text := by
  induction text with
  | nil => rfl
  | cons c rest ih =>
    cases rest with
    | nil => simp [trimEnd, last c rfl]
    | cons next rest =>
      have kept : trimEnd (next :: rest) = next :: rest :=
        ih fun d final => last d (by simpa using final)
      rw [trimEnd, kept]

theorem trimEnd_append {c : Char} (solid : isBlank c = false) (front rest : List Char) :
    trimEnd (front ++ c :: rest) = front ++ c :: trimEnd rest := by
  induction front with
  | nil =>
    rw [List.nil_append, List.nil_append, trimEnd]
    cases kept : trimEnd rest with
    | nil => simp [solid]
    | cons d others => rfl
  | cons d front ih =>
    rw [List.cons_append, trimEnd, ih]
    cases front <;> rfl

theorem exists_blanks_trimEnd (text : List Char) :
    ∃ blanks, text = trimEnd text ++ blanks ∧ ∀ c ∈ blanks, isBlank c = true := by
  induction text with
  | nil => exact ⟨[], rfl, by simp⟩
  | cons c rest ih =>
    obtain ⟨blanks, same, all⟩ := ih
    rw [trimEnd]
    cases kept : trimEnd rest with
    | cons d others => exact ⟨blanks, by rw [List.cons_append, ← kept, ← same], all⟩
    | nil =>
      rw [kept, List.nil_append] at same
      cases blank : isBlank c with
      | false => exact ⟨blanks, by simp [same], all⟩
      | true => exact ⟨c :: blanks, by simp [same], List.forall_mem_cons.2 ⟨blank, all⟩⟩

theorem trim_eq_self (first : ∀ c ∈ text.head?, isBlank c = false)
    (last : ∀ c ∈ text.getLast?, isBlank c = false) : trim text = text := by
  have front : text.dropWhile isBlank = text := by
    cases text with
    | nil => rfl
    | cons c rest => rw [List.dropWhile_cons_of_neg (by simp [first c rfl])]
  rw [trim, front, trimEnd_eq_self last]

end Attribution.Text
