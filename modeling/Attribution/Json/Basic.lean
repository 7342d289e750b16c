import Attribution.Decimal.Shortest

/-!
JSON documents.

A written string can fail to spell a text (half of a surrogate pair, bytes that are not UTF-8). Such a
string is harmless where nobody reads it, so it is kept as a string without text.
-/

namespace Attribution

namespace Json

/-- The text of a string, if it spells one. -/
abbrev Spelling := Option String

/-- Numbers written without point and exponent are integers, except minus zero. -/
inductive Number where
  | integer (value : Int)
  | decimal (value : Decimal)
  deriving DecidableEq, Repr

end Json

/-- A document. Members keep their order, and a name can occur twice. -/
inductive Json where
  | null
  | bool (value : Bool)
  | number (value : Json.Number)
  | string (text : Json.Spelling)
  | array (items : List Json)
  | object (members : List (Json.Spelling × Json))
  deriving Inhabited, Repr

namespace Json

def text (value : String) : Json := string (some value)

def integer (value : Int) : Json := number (.integer value)

def natural (value : Nat) : Json := integer value

def float (value : Float) : Json := number (.decimal (Decimal.ofFloat value))

/-- An object with the given members. -/
def record (members : List (String × Json)) : Json :=
  object (members.map fun (name, value) => (some name, value))

def optional {α : Type} (encode : α → Json) : Option α → Json
  | none => null
  | some value => encode value

def list {α : Type} (encode : α → Json) (items : List α) : Json :=
  array (items.map encode)

/-! ### Looking into a document -/

/-- The last member of that name. -/
def member? (name : String) : Json → Option Json
  | object members => (members.reverse.find? fun (found, _) => found == some name).map Prod.snd
  | _ => none

/-- The last member of that name, where `null` counts as none. -/
def field? (name : String) (document : Json) : Option Json :=
  match document.member? name with
  | some null => none
  | found => found

def text? : Json → Option String
  | string spelling => spelling
  | _ => none

def int? : Json → Option Int
  | number (.integer value) => some value
  | _ => none

/-- An integer from zero to a limit. -/
def nat? (limit : Nat) (document : Json) : Option Nat := do
  let value ← document.int?
  if 0 ≤ value ∧ value ≤ limit then some value.toNat else none

def bool? : Json → Option Bool
  | bool value => some value
  | _ => none

def items? : Json → Option (List Json)
  | array items => some items
  | _ => none

/-- The members of an object whose names all spell texts. -/
def members? : Json → Option (List (String × Json))
  | object members => members.mapM fun (name, value) => name.map (·, value)
  | _ => none

end Json

end Attribution
