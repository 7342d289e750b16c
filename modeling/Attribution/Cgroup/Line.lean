import Attribution.Text.Blank
import Attribution.Text.Number
import Attribution.Text.Quoted
import Attribution.Text.Split

/-! Lines of a process's cgroup file: `<hierarchy>:<controllers>:<path>`. -/

namespace Attribution.Cgroup

/-- One hierarchy, the controllers bound to it, and the process's place in it. The unified
hierarchy has no controllers. -/
structure Line where
  hierarchy : UInt32
  controllers : List String
  path : String
  deriving DecidableEq, Repr

/-- Why a line cannot be read; each carries the line. -/
inductive LineError where
  | invalidFormat (line : String)
  | invalidHierarchy (line : String)
  deriving DecidableEq, Repr

namespace LineError

def message : LineError → String
  | invalidFormat line => "invalid cgroup line format: " ++ line
  | invalidHierarchy line => "invalid hierarchy id in cgroup line: " ++ line

def details : LineError → String
  | invalidFormat line => "InvalidFormat(" ++ Text.quoted line ++ ")"
  | invalidHierarchy line => "InvalidHierarchyID(" ++ Text.quoted line ++ ")"

end LineError

namespace Line

/-- The controllers that a comma-separated list names; an empty list names none. -/
def controllersOf (text : List Char) : List String :=
  if text.isEmpty then [] else (Text.splitOn ',' text).map String.ofList

/-- The path is all that follows the second colon, further colons included, without blanks around
it. The hierarchy is read before the other fields are looked for. -/
def parse (line : String) : Except LineError Line :=
  let (first, rest) :=
    match Text.cut ':' line.toList with
    | some (first, rest) => (first, some rest)
    | none => (line.toList, none)
  match Text.readUInt32? first with
  | none => .error (.invalidHierarchy line)
  | some hierarchy =>
    match rest.bind (Text.cut ':') with
    | none => .error (.invalidFormat line)
    | some (controllers, path) =>
      .ok ⟨hierarchy, controllersOf controllers, String.ofList (Text.trim path)⟩

/-- The written form of a line. -/
def render (line : Line) : String :=
  String.ofList (Text.decimal line.hierarchy.toNat ++ ':' ::
    (Text.joinWith ',' (line.controllers.map String.toList) ++ ':' :: line.path.toList))

end Line

/-- The lines of a cgroup file that are not blank. -/
def writtenLines (content : String) : List String :=
  ((Text.lines content.toList).filter fun line => !Text.allBlank line).map String.ofList

end Attribution.Cgroup
