import Attribution.Cgroup.Kind
import Attribution.Cgroup.Line
import Attribution.Diagnosis
import Attribution.Files.Tree

/-! The ways in which finding a cgroup can fail. -/

namespace Attribution.Cgroup

inductive Error where
  | read (failure : Files.ReadError)
  | line (path : Path) (failure : LineError)
  | missingPath (path : Path)
  | kind (failure : KindError)
  | readNamespace (path : Path) (fault : Files.Fault)
  /-- The kernel refuses to enter what is no cgroup namespace. -/
  | switchNamespace (path : Path)
  /-- The way back into the agent's own namespace is refused as well. -/
  | restoreNamespace
  deriving DecidableEq, Repr

namespace Error

/-- The kernel's words when it refuses to enter. -/
def refusal : String := "EINVAL: Invalid argument"

def diagnosis : Error → Diagnosis
  | read failure => ⟨failure.message, [failure.fault.message]⟩
  | line path failure => .caused ("invalid line in cgroup file `" ++ path.text ++ "`: ") failure.message
  | missingPath path => .ofText ("no cgroup path found in `" ++ path.text ++ "`")
  | kind failure => .ofText failure.message
  | readNamespace path fault =>
    .caused ("failed to read cgroup namespace link `" ++ path.text ++ "`: ") fault.message
  | switchNamespace path =>
    .caused ("failed to switch to cgroup namespace `" ++ path.text ++ "`: ") refusal
  | restoreNamespace => .caused "failed to restore the original cgroup namespace: " refusal

def message (failure : Error) : String :=
  failure.diagnosis.text

/-- Every part of the failure spelled out. -/
def details : Error → String
  | read failure => "Read(" ++ failure.details ++ ")"
  | line path failure =>
    "Line \x7b path: " ++ Text.quoted path.text ++ ", source: " ++ failure.details ++ " \x7d"
  | missingPath path => "MissingPath \x7b path: " ++ Text.quoted path.text ++ " \x7d"
  | kind failure => failure.details
  | readNamespace path fault =>
    "ReadNamespace \x7b path: " ++ Text.quoted path.text ++ ", source: " ++ fault.details ++ " \x7d"
  | switchNamespace path =>
    "SwitchNamespace \x7b path: " ++ Text.quoted path.text ++ ", source: EINVAL \x7d"
  | restoreNamespace => "RestoreNamespace(EINVAL)"

/-- Whether the process has ended in the meantime. -/
def isProcessGone : Error → Bool
  | read failure => failure.isNotFound
  | _ => false

end Error

end Attribution.Cgroup
