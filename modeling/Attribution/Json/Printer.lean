import Attribution.Json.Basic

/-! JSON documents as text on one line. -/

namespace Attribution.Json

/-- Decimals are positional up to sixteen digits before the point and five zeros behind it. -/
def decimalForm : Decimal.Form := ⟨16, 4⟩

def escapeCode (code : Nat) : List Char :=
  let digits := Nat.toDigits 16 code
  "\\u".toList ++ List.replicate (4 - digits.length) '0' ++ digits

/-- Quotes, backslashes, control characters and line separators are escaped. -/
def escapeChar (c : Char) : List Char :=
  if c = '"' then "\\\"".toList
  else if c = '\\' then "\\\\".toList
  else if c = '\n' then "\\n".toList
  else if c = '\r' then "\\r".toList
  else if c = '\t' then "\\t".toList
  else if c.toNat < 0x20 ∨ c.toNat = 0x85 ∨ c.toNat = 0x2028 ∨ c.toNat = 0x2029 then escapeCode c.toNat
  else [c]

def quote (text : String) : String :=
  String.ofList ('"' :: (text.toList.flatMap escapeChar ++ ['"']))

def Number.render : Number → String
  | .integer value => toString value
  | .decimal value => String.ofList (value.render decimalForm)

mutual

def render : Json → String
  | null => "null"
  | bool value => if value then "true" else "false"
  | number value => value.render
  | string spelling => quote (spelling.getD "")
  | array items => "[" ++ renderItems items ++ "]"
  | object members => "\x7b" ++ renderMembers members ++ "\x7d"

def renderItems : List Json → String
  | [] => ""
  | [item] => render item
  | item :: next :: rest => render item ++ "," ++ renderItems (next :: rest)

def renderMembers : List (Spelling × Json) → String
  | [] => ""
  | [(name, value)] => quote (name.getD "") ++ ":" ++ render value
  | (name, value) :: next :: rest =>
    quote (name.getD "") ++ ":" ++ render value ++ "," ++ renderMembers (next :: rest)

end

end Attribution.Json
