import Attribution.Cgroup.Error
import Attribution.Cgroup.Route

/-!
Where the agent itself stands among the host's cgroups.

Inside a cgroup namespace of its own, the kernel shows the agent every path relative to its own
cgroup. Joining such a path onto the agent's place makes it host-relative again. On the host the
place is empty.
-/

namespace Attribution.Cgroup

/-- Looks for the `cpu` controller; the last unified path counts where no line has it. -/
def ownPathFrom : Option String → List String → Except LineError (Option String)
  | unified, [] => .ok unified
  | unified, text :: rest =>
    match Line.parse text with
    | .error failure => .error failure
    | .ok line =>
      if "cpu" ∈ line.controllers then .ok (some (joinPath "" line.path))
      else if line.controllers = [] then ownPathFrom (some (joinPath "" line.path)) rest
      else ownPathFrom unified rest

/-- The agent's own path in the content of its cgroup file. -/
def ownPath (origin : Path) (content : String) : Except Error String :=
  match ownPathFrom none (writtenLines content) with
  | .error failure => .error (.line origin failure)
  | .ok none => .error (.missingPath origin)
  | .ok (some path) => .ok path

/-- Finds the agent's place: the empty one if the agent and the first process share a cgroup
namespace, else the agent's own path as read from within the first process's namespace. The agent has
to be able to come back from there. -/
def detectBase (tree : Files.Tree) (root : Path) : Except Error String := do
  let own := root / ⟨"self/ns/cgroup"⟩
  let host := root / ⟨"1/ns/cgroup"⟩
  let linkOf (path : Path) := (tree.readLink path).mapError (Error.readNamespace path)
  let handleOf (path : Path) := (tree.openEntry path).mapError (Error.readNamespace path)
  let ownLink ← linkOf own
  let hostLink ← linkOf host
  if ownLink.parts = hostLink.parts then return ""
  let ownHandle ← handleOf own
  let hostHandle ← handleOf host
  if hostHandle ≠ .cgroupNamespace then throw (.switchNamespace host)
  if ownHandle ≠ .cgroupNamespace then throw .restoreNamespace
  let origin := root / ⟨"self/cgroup"⟩
  let content ← (Files.readText tree origin).mapError Error.read
  ownPath origin content

end Attribution.Cgroup
