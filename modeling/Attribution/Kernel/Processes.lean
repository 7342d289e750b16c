import Attribution.Files.Tree

/-! The processes that a process file system lists. -/

namespace Attribution.Kernel

/-- Processes are known by the numbers the kernel gives them. -/
abbrev Pid := UInt32

/-- A directory of processes that could not be read. -/
structure ListError where
  path : Path
  fault : Files.Fault
  deriving DecidableEq, Repr

def ListError.message (failure : ListError) : String :=
  "failed to list processes in `" ++ failure.path.text ++ "`: " ++ failure.fault.message

/-- The processes under a root, ascending: every directory whose name is a number. -/
def listPids (tree : Files.Tree) (root : Path) : Except ListError (List Pid) :=
  match tree.list root with
  | .error fault => .error ⟨root, fault⟩
  | .ok found =>
    let pids := found.filterMap fun (name, entry) =>
      if entry = .directory then Text.readUInt32? name.toList else none
    .ok (pids.mergeSort fun a b => decide (a ≤ b))

end Attribution.Kernel
