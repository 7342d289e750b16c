import Attribution.Text.Hidden

/-!
Texts in double quotes, as error reports show them.  Quotes, backslashes and some control characters
are escaped by a letter, hidden characters by their number.
-/

namespace Attribution.Text

/-- The number of a character between braces. -/
def escapeNumber (code : Nat) : List Char :=
  "\\u\x7b".toList ++ Nat.toDigits 16 code ++ ['\x7d']

/-- Escapes a character that cannot stand for itself. -/
def escapeChar (c : Char) : List Char :=
  if c = '\x00' then "\\0".toList
  else if c = '\t' then "\\t".toList
  else if c = '\r' then "\\r".toList
  else if c = '\n' then "\\n".toList
  else if c = '"' ∨ c = '\\' then ['\\', c]
  else if isHidden c then escapeNumber c.toNat
  else [c]

/-- A text between quotes. -/
def quoted (text : String) : String :=
  String.ofList ('"' :: (text.toList.flatMap escapeChar ++ ['"']))

end Attribution.Text
