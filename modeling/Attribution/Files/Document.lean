import Attribution.Files.Tree
import Attribution.Json.Basic
import Attribution.Text.Hex

/-!
File systems described by documents.

A description is an object from paths to entries. A text is a file, and so is an object with the
digits of its bytes under `hex`; other entries are marked by `dir`, `link` or `bpf`.
-/

namespace Attribution

/-- A text, or bytes in hexadecimal digits. -/
def Json.blob? : Json → Option Bytes
  | string spelling => spelling.map Text.utf8
  | document => (document.field? "hex").bind fun digits => digits.text?.bind fun digits =>
    Text.ofHex? digits.toList

/-- A list of things below a name; nothing there means none. -/
def Json.listAt? {α : Type} (name : String) (read : Json → Option α) (document : Json) : Option (List α) :=
  match document.field? name with
  | none => some []
  | some items => do (← items.items?).mapM read

namespace Probe

def programOf? (document : Json) : Option Program := do
  return ⟨← (← document.field? "name").text?, ← (← document.field? "section").text?⟩

def mapOf? (document : Json) : Option KernelMap := do
  let name ← (← document.field? "name").text?
  match document.field? "type" with
  | none => return ⟨name, .perf⟩
  | some kind =>
    match ← kind.text? with
    | "perf" => return ⟨name, .perf⟩
    | "array" => return ⟨name, .array⟩
    | _ => none

def Object.ofJson? (document : Json) : Option Object := do
  return ⟨← document.listAt? "programs" programOf?, ← document.listAt? "maps" mapOf?⟩

end Probe

namespace Files

def Entry.ofJson? (document : Json) : Option Entry :=
  match document.field? "dir", document.field? "link", document.field? "bpf" with
  | some _, _, _ => some .directory
  | none, some target, _ => target.text?.map Entry.link
  | none, none, some object => (Probe.Object.ofJson? object).map Entry.image
  | none, none, none => document.blob?.map Entry.file

/-- The place below `top` that a path names. -/
def placeBelow (top : Location) (path : String) : Location :=
  top ++ ((Path.mk path).segments.filter (!Path.isVoid ·)).map String.ofList

/-- Adds the described entries below a place. -/
def Tree.describe? (tree : Tree) (top : Location) (document : Json) : Option Tree := do
  let members ← document.members?
  members.foldlM (fun tree (path, entry) => do
    return tree.put (placeBelow top path) (← Entry.ofJson? entry)) (tree.put top .directory)

end Files

end Attribution
