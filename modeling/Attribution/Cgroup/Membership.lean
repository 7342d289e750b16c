import Attribution.Cgroup.Error
import Attribution.Cgroup.Route

/-!
The cgroup of a process, found in its cgroup file.

The first generation of cgroups keeps a path per controller and the `cpu` controller's path counts;
the second keeps one path, written under no controller.
-/

namespace Attribution

/-- Generations of the cgroup interface. -/
inductive Cgroup.Generation where
  | v1
  | v2
  deriving DecidableEq, Repr

/-- A process's cgroup as the host sees it. -/
structure Cgroup where
  /-- The path in normal form. -/
  id : String
  generation : Cgroup.Generation
  kind : Cgroup.Kind
  /-- What the container runtime calls the container; empty where there is none. -/
  containerId : String
  /-- The path of every controller; the unified path is under the empty name. -/
  paths : Table String String

namespace Cgroup

/-- The names under which a line's path is kept. -/
def Line.names (line : Line) : List String :=
  if line.controllers = [] then [""] else line.controllers

/-- Adds a line's path, replacing what earlier lines said. -/
def record (base : String) (paths : Table String String) (line : Line) : Table String String :=
  line.names.foldl (fun paths name => paths.insert name (joinPath base line.path)) paths

/-- Reads the lines one after the other up to the first that is malformed. -/
def recordAll (base : String) : Table String String → List String → Except LineError (Table String String)
  | paths, [] => .ok paths
  | paths, text :: rest =>
    match Line.parse text with
    | .ok line => recordAll base (record base paths line) rest
    | .error failure => .error failure

/-- The path that stands for the process. -/
def select (paths : Table String String) : Option (String × Generation) :=
  match paths.get? "cpu" with
  | some path => some (path, .v1)
  | none => (paths.get? "").map (·, .v2)

/-- The cgroup that a file's content names; paths are joined onto the base. -/
def ofContent (base : String) (origin : Path) (content : String) : Except Error Cgroup :=
  match recordAll base .empty (writtenLines content) with
  | .error failure => .error (.line origin failure)
  | .ok paths =>
    match select paths with
    | none => .error (.missingPath origin)
    | some (id, generation) =>
      match classify id with
      | .error failure => .error (.kind failure)
      | .ok (kind, containerId) => .ok ⟨id, generation, kind, containerId, paths⟩

/-- The cgroup of a process under a root of processes. -/
def ofPid (tree : Files.Tree) (root : Path) (base : String) (pid : UInt32) : Except Error Cgroup :=
  let origin := Path.ofPid root pid ["cgroup"]
  match Files.readText tree origin with
  | .error failure => .error (.read failure)
  | .ok content => ofContent base origin content

end Cgroup

end Attribution
