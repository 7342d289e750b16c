import Attribution.Json.Basic
import Attribution.Table

/-!
Records inside documents.

A record is written as an object, whose unknown members are passed over and whose known ones must
not be repeated, or as an array of its fields in their order. Fields that are left out are absent;
a field that is there must have the right form.
-/

namespace Attribution.Json

/-- The names under which a field may be written. -/
abbrev FieldNames := List String

/-- Puts members into the slots of the fields they name; none if a slot is taken already or a name
spells no text. -/
def fillSlots (fields : List FieldNames) :
    List (Option Json) → List (Spelling × Json) → Option (List (Option Json))
  | slots, [] => some slots
  | _, (none, _) :: _ => none
  | slots, (some name, value) :: rest =>
    match fields.findIdx? fun names => names.contains name with
    | none => fillSlots fields slots rest
    | some index =>
      match slots[index]? with
      | some none => fillSlots fields (slots.set index (some value)) rest
      | _ => none

/-- The fields of a record, each present or absent. -/
def fields? (fields : List FieldNames) : Json → Option (List (Option Json))
  | object members => fillSlots fields (List.replicate fields.length none) members
  | array items =>
    if items.length ≤ fields.length then
      some (items.map some ++ List.replicate (fields.length - items.length) none)
    else none
  | _ => none

/-- Reads a field that has a value of its own when it is absent. -/
def fieldOr {α : Type} (absent : α) (read : Json → Option α) : Option Json → Option α
  | none => some absent
  | some value => read value

def listOf? {α : Type} (read : Json → Option α) (document : Json) : Option (List α) := do
  (← document.items?).mapM read

/-- An object of texts; the last of equal names counts. -/
def textTable? (document : Json) : Option (Table String String) := do
  let members ← document.members?
  let pairs ← members.mapM fun (name, value) => value.text?.map (name, ·)
  return Table.ofList pairs

end Attribution.Json
