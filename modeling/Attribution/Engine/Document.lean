import Attribution.Engine.Service
import Attribution.Files.Document

/-! Container engines described by documents: tables from ids to what the engine answers. -/

namespace Attribution

/-- A number from `least` to `greatest`. -/
def Json.between? (least greatest : Int) (document : Json) : Option Int := do
  let value ← document.int?
  if least ≤ value ∧ value ≤ greatest then some value else none

/-- The text below a name; nothing there means the empty one. -/
def Json.textOr? (name : String) (document : Json) : Option String :=
  match document.field? name with
  | none => some ""
  | some value => value.text?

/-- What a table below a name holds; nothing there means an empty table. -/
def Json.tableAt? {α : Type} (name : String) (read : Json → Option α) (document : Json) :
    Option (Table String α) :=
  match document.field? name with
  | none => some .empty
  | some table => do
    let pairs ← (← table.members?).mapM fun (key, value) => (read value).map (key, ·)
    return .ofList pairs

/-- A status in the place of an answer. -/
def Status.ofJson? (document : Json) : Option Status := do
  return ⟨← (← document.field? "status").nat? (UInt16.size - 1), ← document.textOr? "message"⟩

/-- The status that a table holds under a name of its own. -/
def Status.at? (name : String) (document : Json) : Option (Option Status) :=
  match document.field? name with
  | none => some none
  | some entry => (Status.ofJson? entry).map some

namespace Containerd

def timestampOf? (document : Json) : Option Timestamp := do
  return ⟨← (← document.field? "seconds").between? Timestamp.leastSecond Timestamp.greatestSecond,
    ← (← document.field? "nanos").between? (-0x80000000) 0x7FFFFFFF⟩

def Record.ofJson? (document : Json) : Option Record := do
  let spec ← match document.field? "spec" with
    | none => some none
    | some spec => spec.blob?.map some
  let createdAt ← match document.field? "created_at" with
    | none => some none
    | some time => (timestampOf? time).map some
  return {
    id := ← document.textOr? "id"
    labels := ← document.tableAt? "labels" Json.text?
    image := ← document.textOr? "image"
    spec := spec
    createdAt := createdAt
    extensions := ← document.tableAt? "extensions" Json.blob? }

def Reply.ofJson? (document : Json) : Option Reply :=
  match document.field? "status", document.field? "empty" with
  | some _, _ => (Status.ofJson? document).map Reply.status
  | none, some _ => some .empty
  | none, none => (Record.ofJson? document).map Reply.record

/-- The service that a table describes; `*list` can hold a status in place of the list. -/
def Service.ofJson? (document : Json) : Option Service := do
  let pairs ← (← document.members?).mapM fun (id, reply) => (Reply.ofJson? reply).map (id, ·)
  return .ofTable (.ofList pairs) (← Status.at? "*list" document)

end Containerd

namespace Docker

def Reply.ofJson? (document : Json) : Option Reply :=
  match document.field? "status" with
  | some _ => (Status.ofJson? document).map Reply.status
  | none => some (.inspect (.ofJson document))

/-- The daemon that a table describes; `*ping` and `*list` can hold a status. -/
def Service.ofJson? (document : Json) : Option Service := do
  let pairs ← (← document.members?).mapM fun (id, reply) => (Reply.ofJson? reply).map (id, ·)
  return .ofTable (.ofList pairs) (← Status.at? "*ping" document) (← Status.at? "*list" document)

end Docker

end Attribution
