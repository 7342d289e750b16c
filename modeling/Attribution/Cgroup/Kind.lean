import Attribution.Text.Quoted
import Attribution.Text.Split

/-!
What a host-relative cgroup path says about its workload.

The rules are tried in order: user sessions and the init scope, docker's own slices, Kubernetes
pods, system services. The first rule that fits decides.
-/

namespace Attribution.Cgroup

/-- Kinds of workload. -/
inductive Kind where
  | unknown
  | standalone
  | docker
  | systemd
  | containerd
  | sandbox
  deriving DecidableEq, Repr

namespace Kind

def name : Kind → String
  | unknown => "unknown"
  | standalone => "standalone"
  | docker => "docker"
  | systemd => "systemd"
  | containerd => "cri-containerd"
  | sandbox => "sandbox"

def all : List Kind := [unknown, standalone, docker, systemd, containerd, sandbox]

def ofName? (name : String) : Option Kind :=
  all.find? fun kind => kind.name == name

/-- Whether a container runtime knows more about the workload. -/
def hasRuntimeMetadata : Kind → Bool
  | docker | containerd => true
  | _ => false

end Kind

/-- Why a path fits no rule; each carries the path. -/
inductive KindError where
  | invalidDocker (path : String)
  | invalidSystemd (path : String)
  | unknownContainer (path : String)
  deriving DecidableEq, Repr

namespace KindError

def message : KindError → String
  | invalidDocker path => "invalid docker cgroup `" ++ path ++ "`"
  | invalidSystemd path => "invalid systemd cgroup `" ++ path ++ "`"
  | unknownContainer path => "unknown container cgroup `" ++ path ++ "`"

def details : KindError → String
  | invalidDocker path => "InvalidDockerCgroup(" ++ Text.quoted path ++ ")"
  | invalidSystemd path => "InvalidSystemdCgroup(" ++ Text.quoted path ++ ")"
  | unknownContainer path => "UnknownContainer(" ++ Text.quoted path ++ ")"

end KindError

/-- Characters of a container id: lower-case letters and digits. -/
def isIdChar (c : Char) : Bool :=
  ('a' ≤ c && c ≤ 'z') || ('0' ≤ c && c ≤ '9')

def idLength : Nat := 64

/-- A container id at the front of a text. -/
def idAt (text : List Char) : Option (List Char) :=
  let id := text.take idLength
  if id.length = idLength ∧ id.all isIdChar then some id else none

/-- A container id behind the mark of a containerd scope at the front of a text. -/
def containerdIdAt (text : List Char) : Option (List Char) :=
  match Text.strip "cri-containerd".toList text with
  | some ('-' :: rest) => idAt rest
  | some (':' :: rest) => idAt rest
  | _ => none

/-- A unit of one of the service slices at the front of a text, with its slice. -/
def unitAt (text : List Char) : Option (List Char) :=
  ["/system.slice/", "/runtime.slice/"].findSome? fun slice =>
    (Text.strip slice.toList text).bind fun rest =>
      let unit := rest.takeWhile (· ≠ '/')
      if unit = [] then none else some (slice.toList ++ unit)

/-- The segments of a path, not counting slashes in front. -/
def segmentsOf (path : List Char) : List (List Char) :=
  Text.splitOn '/' (path.dropWhile (· == '/'))

/-- The kind of workload behind a path and the id of its container, empty where there is none. -/
def classify (path : String) : Except KindError (Kind × String) :=
  let text := path.toList
  match segmentsOf text with
  | first :: second :: _ =>
    if first = "user.slice".toList ∨ first = "init.scope".toList then .ok (.standalone, "")
    else if first = "docker".toList ∨
        first = "system.slice".toList ∧ (Text.strip "docker-".toList second).isSome then
      match Text.firstMatch idAt text with
      | some id => .ok (.docker, String.ofList id)
      | none => .error (.invalidDocker path)
    else if Text.occursIn "kubepods".toList text then
      match Text.firstMatch containerdIdAt text, Text.firstMatch idAt text with
      | some id, _ => .ok (.containerd, String.ofList id)
      | none, some id => .ok (.docker, String.ofList id)
      | none, none => .ok (.sandbox, "")
    else if first = "system.slice".toList ∨ first = "runtime.slice".toList then
      match Text.firstMatch unitAt text with
      | some unit => .ok (.systemd, String.ofList unit)
      | none => .error (.invalidSystemd path)
    else .error (.unknownContainer path)
  | _ => .ok (.standalone, "")

end Attribution.Cgroup
