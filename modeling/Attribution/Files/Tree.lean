import Attribution.Files.Fault
import Attribution.Files.Path
import Attribution.Probe.Object
import Attribution.Table
import Attribution.Text.Quoted
import Attribution.Text.Utf8

/-!
A file system as a finite map from locations to entries, and how paths lead through it.

Relative paths start at the top, as absolute ones do.
-/

namespace Attribution.Files

/-- The names from the top down to a place. -/
abbrev Location := List String

/-- What can stand at a place. -/
inductive Entry where
  | directory
  | file (content : Bytes)
  | link (target : String)
  /-- An instrumentation image that loads. -/
  | image (object : Probe.Object)
  /-- The handle of a cgroup namespace. -/
  | cgroupNamespace
  | socket
  deriving DecidableEq, Repr

/-- A file system; the top is always a directory. -/
structure Tree where
  entries : Table Location Entry

namespace Tree

def empty : Tree := ⟨.empty⟩

instance : Inhabited Tree := ⟨empty⟩

def entryAt? (tree : Tree) (place : Location) : Option Entry :=
  if place = [] then some .directory else tree.entries.get? place

/-- Makes every place on the way to a location a directory, unless something is there. -/
def withParents (tree : Tree) : Location → Location → Tree
  | _, [] => tree
  | _, [_] => tree
  | above, name :: rest =>
    let place := above ++ [name]
    let tree := if tree.entries.contains place then tree else ⟨tree.entries.insert place .directory⟩
    withParents tree place rest

/-- Removes a place and everything below it. -/
def remove (tree : Tree) (place : Location) : Tree :=
  ⟨tree.entries.filter fun other _ => (Text.strip place other).isNone⟩

/-- Puts an entry at a place. A directory that is already there stays with what it holds. -/
def put (tree : Tree) (place : Location) (entry : Entry) : Tree :=
  let tree := tree.withParents [] place
  if entry = .directory ∧ tree.entryAt? place = some .directory then tree
  else ⟨(tree.remove place).entries.insert place entry⟩

/-- How many links a path may lead through. -/
def mostLinks : Nat := 40

/-- Follows the remaining segments of a path from a directory. The last segment, if it is a link,
is followed only on demand. -/
def walk (tree : Tree) (followLast : Bool) :
    (links : Nat) → (place : Location) → (segments : List (List Char)) →
      Except Fault (Location × Entry)
  | _, place, [] =>
    match tree.entryAt? place with
    | some entry => .ok (place, entry)
    | none => .error .notFound
  | links, place, segment :: rest =>
    if Path.isVoid segment then walk tree followLast links place rest
    else if segment = ['.', '.'] then walk tree followLast links place.dropLast rest
    else
      let name := String.ofList segment
      let next := place ++ [name]
      if 255 < name.utf8ByteSize then .error .nameTooLong
      else
        match tree.entryAt? next with
        | none => .error .notFound
        | some .directory => walk tree followLast links next rest
        | some (.link target) =>
          if rest.isEmpty && !followLast then .ok (next, .link target)
          else
            match links with
            | 0 => .error .linkLoop
            | links + 1 =>
              let target : Path := ⟨target⟩
              walk tree followLast links (if target.isAbsolute then [] else place)
                (target.segments ++ rest)
        | some entry => if rest.isEmpty then .ok (next, entry) else .error .notDirectory
termination_by links _ segments => (links, segments.length)

/-- The place a path leads to and what stands there. -/
def find (tree : Tree) (followLast : Bool) (path : Path) : Except Fault (Location × Entry) :=
  if path.text = "" then .error .notFound
  else if '\x00' ∈ path.text.toList then .error .zeroInPath
  else if 4095 < path.text.utf8ByteSize then .error .nameTooLong
  else tree.walk followLast mostLinks [] path.segments

/-- What stands at the end of a path, links followed. -/
def stat (tree : Tree) (path : Path) : Except Fault Entry :=
  (tree.find true path).map (·.2)

/-- Opens for reading whatever can be opened. -/
def openEntry (tree : Tree) (path : Path) : Except Fault Entry := do
  match ← tree.stat path with
  | .socket => .error .noDevice
  | entry => .ok entry

def contentOf : Entry → Except Fault Bytes
  | .file content => .ok content
  | .directory => .error .isDirectory
  | .image _ => .error .notText
  | _ => .error .invalidArgument

def read (tree : Tree) (path : Path) : Except Fault Bytes := do
  contentOf (← tree.openEntry path)

def readText (tree : Tree) (path : Path) : Except Fault String := do
  match Text.ofUtf8? (← tree.read path) with
  | some text => .ok text
  | none => .error .notText

/-- The target of a link. -/
def readLink (tree : Tree) (path : Path) : Except Fault Path := do
  match ← tree.find false path with
  | (_, .link target) => .ok ⟨target⟩
  | _ => .error .invalidArgument

/-- Names and entries of the places right below one. -/
def childrenOf (tree : Tree) (place : Location) : List (String × Entry) :=
  tree.entries.entries.filterMap fun (other, entry) =>
    match Text.strip place other with
    | some [name] => some (name, entry)
    | _ => none

/-- What a directory holds, in no particular order. -/
def list (tree : Tree) (path : Path) : Except Fault (List (String × Entry)) := do
  match ← tree.find true path with
  | (place, .directory) => .ok (tree.childrenOf place)
  | _ => .error .notDirectory

end Tree

/-- A file that could not be read. -/
structure ReadError where
  path : Path
  fault : Fault
  deriving DecidableEq, Repr

namespace ReadError

def message (failure : ReadError) : String :=
  "failed to read file `" ++ failure.path.text ++ "`: " ++ failure.fault.message

/-- Every part of the failure spelled out. -/
def details (failure : ReadError) : String :=
  "FileOpenError \x7b path: " ++ Text.quoted failure.path.text ++ ", source: " ++
    failure.fault.details ++ " \x7d"

/-- Whether there was no file at all. -/
def isNotFound (failure : ReadError) : Bool :=
  failure.fault == .notFound

end ReadError

/-- The text of a file, or which path could not be read and why. -/
def readText (tree : Tree) (path : Path) : Except ReadError String :=
  (tree.readText path).mapError fun fault => ⟨path, fault⟩

end Attribution.Files
