import Attribution.Text.Split
import Attribution.Text.Number

/-!
Paths as texts: joining, taking apart, and comparing them part by part.
-/

namespace Attribution

/-- A path, kept as it was written. -/
structure Path where
  text : String
  deriving DecidableEq, Repr

namespace Path

/-- A part of a path. -/
inductive Part where
  | root
  | current
  | parent
  | name (text : List Char)
  deriving DecidableEq, Repr

instance : Coe String Path := ⟨Path.mk⟩

def isAbsolute (path : Path) : Bool :=
  path.text.toList.head? == some '/'

/-- Appends a path, with one separator between unless the left side is empty or ends in one.
An absolute right side replaces everything. -/
def join (base sub : Path) : Path :=
  if sub.isAbsolute then sub
  else if base.text.toList.getLast?.all (· == '/') then ⟨base.text ++ sub.text⟩
  else ⟨base.text ++ "/" ++ sub.text⟩

instance : Div Path := ⟨join⟩

/-- The texts between separators. -/
def segments (path : Path) : List (List Char) :=
  Text.splitOn '/' path.text.toList

/-- Segments that name nothing: the empty one and the single point. -/
def isVoid (segment : List Char) : Bool :=
  segment == [] || segment == ['.']

def partOf (segment : List Char) : Part :=
  if segment = ['.', '.'] then .parent else .name segment

/-- The parts of a path. A single point counts only where a relative path begins. -/
def parts (path : Path) : List Part :=
  let front :=
    if path.isAbsolute then [Part.root]
    else if path.segments.head? = some ['.'] then [Part.current] else []
  front ++ (path.segments.filter (!isVoid ·)).map partOf

/-- Drops void segments at both ends. -/
def trimVoid (segments : List (List Char)) : List (List Char) :=
  ((segments.dropWhile isVoid).reverse.dropWhile isVoid).reverse

/-- An absolute path as seen from the root; a relative one as it is. -/
def fromRoot (path : Path) : Path :=
  if path.isAbsolute then ⟨String.ofList (Text.joinWith '/' (trimVoid path.segments))⟩
  else path

/-- Splits a file name at its last point. A point in front does not separate. -/
def splitName (name : List Char) : List Char × Option (List Char) :=
  match Text.cut '.' name.reverse with
  | some (suffix, before) => if before = [] then (name, none) else (before.reverse, some suffix.reverse)
  | none => (name, none)

/-- What of a process lies where: `<root>/<pid>/<parts…>`. -/
def ofPid (root : Path) (pid : UInt32) (subs : List String) : Path :=
  subs.foldl (fun path sub => path / ⟨sub⟩) (root / ⟨Text.decimalString pid.toNat⟩)

/-- A path of the host's file system, reached through the root of its first process. -/
def onHost (root sub : Path) : Path :=
  ofPid root 1 ["root"] / sub.fromRoot

end Path

end Attribution
