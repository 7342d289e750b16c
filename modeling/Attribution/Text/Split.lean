/-!
Cutting sequences at separators: all of them, the first one, or the ends of lines.
-/

namespace Attribution.Text

/-- The pieces between separators; there is always one more piece than separators. -/
def splitWhen {α : Type} (isSeparator : α → Bool) : List α → List (List α)
  | [] => [[]]
  | a :: rest =>
    if isSeparator a then [] :: splitWhen isSeparator rest
    else (splitWhen isSeparator rest).modifyHead (a :: ·)

/-- The pieces between occurrences of one character. -/
def splitOn (separator : Char) (text : List Char) : List (List Char) :=
  splitWhen (· == separator) text

/-- What stands before and after the first separator, if there is one. -/
def cut {α : Type} [DecidableEq α] (separator : α) : List α → Option (List α × List α)
  | [] => none
  | a :: rest =>
    if a = separator then some ([], rest)
    else (cut separator rest).map fun (before, after) => (a :: before, after)

/-- The rest of a sequence that starts with the given one. -/
def strip {α : Type} [DecidableEq α] : List α → List α → Option (List α)
  | [], text => some text
  | _ :: _, [] => none
  | a :: start, b :: text => if a = b then strip start text else none

/-- Whether the sequence occurs somewhere without gaps. -/
def occursIn {α : Type} [DecidableEq α] (part : List α) : List α → Bool
  | [] => part.isEmpty
  | a :: rest => (strip part (a :: rest)).isSome || occursIn part rest

/-- The first position, from the left, at which something can be read. -/
def firstMatch {α β : Type} (read : List α → Option β) : List α → Option β
  | [] => read []
  | a :: rest => (read (a :: rest)).orElse fun _ => firstMatch read rest

/-- The words between runs of separators. -/
def wordsWhen {α : Type} (isSeparator : α → Bool) (text : List α) : List (List α) :=
  (splitWhen isSeparator text).filter fun word => !word.isEmpty

/-- Pieces put one after another with a separator between neighbours. -/
def joinWith {α : Type} (separator : α) : List (List α) → List α
  | [] => []
  | [piece] => piece
  | piece :: pieces => piece ++ separator :: joinWith separator pieces

/-- Drops one `final` at the end, if it is there. -/
def dropFinal {α : Type} [DecidableEq α] (final : α) : List α → List α
  | [] => []
  | [a] => if a = final then [] else [a]
  | a :: b :: rest => a :: dropFinal final (b :: rest)

/-- Lines end with `newline`, and one `carriage` before it belongs to the end of the line.
What follows the last `newline` is a line only if it is not empty. -/
def linesOf {α : Type} [DecidableEq α] (newline carriage : α) (text : List α) : List (List α) :=
  let rec ended : List (List α) → List (List α)
    | [] => []
    | [last] => if last = [] then [] else [last]
    | line :: next :: rest => dropFinal carriage line :: ended (next :: rest)
  ended (splitWhen (· = newline) text)

/-- The lines of a text. -/
def lines (text : List Char) : List (List Char) :=
  linesOf '\n' '\r' text

theorem splitWhen_ne_nil {α : Type} (isSeparator : α → Bool) (text : List α) :
    splitWhen isSeparator text ≠ [] := by
  induction text with
  | nil => simp [splitWhen]
  | cons a rest ih =>
    simp only [splitWhen]
    split
    · simp
    · cases pieces : splitWhen isSeparator rest with
      | nil => exact absurd pieces ih
      | cons piece others => simp

theorem joinWith_splitOn (separator : Char) (text : List Char) :
    joinWith separator (splitOn separator text) = text := by
  unfold splitOn
  induction text with
  | nil => rfl
  | cons a rest ih =>
    simp only [splitWhen]
    have nonempty := splitWhen_ne_nil (· == separator) rest
    split
    · rename_i same
      have same : a = separator := by simpa using same
      cases pieces : splitWhen (· == separator) rest with
      | nil => exact absurd pieces nonempty
      | cons piece others =>
        rw [pieces] at ih
        simp [joinWith, ih, same]
    · cases pieces : splitWhen (· == separator) rest with
      | nil => exact absurd pieces nonempty
      | cons piece others =>
        rw [pieces] at ih
        cases others with
        | nil => simpa [joinWith] using ih
        | cons next others => simpa [joinWith] using ih

theorem strip_eq_some_iff {α : Type} [DecidableEq α] {start text rest : List α} :
    strip start text = some rest ↔ text = start ++ rest := by
  induction start generalizing text with
  | nil => simp [strip, eq_comm]
  | cons a start ih =>
    cases text with
    | nil => simp [strip]
    | cons b text =>
      by_cases same : a = b
      · subst same; simp [strip, ih]
      · simp [strip, same, Ne.symm same]

end Attribution.Text
