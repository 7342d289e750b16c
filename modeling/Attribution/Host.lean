import Attribution.Agent
import Attribution.Engine.Document

/-!
Hosts described by documents: their files, their container engines, and where the engines' sockets lie.
-/

namespace Attribution.Host

/-- The tracepoints that tell of processes. -/
def schedTracepoints : List Probe.Tracepoint :=
  [⟨"sched", "sched_process_exit"⟩, ⟨"sched", "sched_process_fork"⟩]

/-- Where sockets lie unless something else is said. -/
def containerdPlace : String := "proc/1/root/run/containerd/containerd.sock"
def dockerPlace : String := "proc/1/root/run/docker.sock"

/-- The handles of the kernel's own cgroup namespace. -/
def withNamespace (tree : Files.Tree) : Files.Tree :=
  tree.put ["proc", "self", "ns", "cgroup"] .cgroupNamespace

/-- Puts a server on a host. -/
def serve (host : Host) (place : Files.Location) (service : Service) : Host :=
  { host with files := host.files.put place .socket, services := (place, service) :: host.services }

/-- Serves what stands below a name, at the place that another name tells. -/
def serveAt? (top : Files.Location) (name placeName place : String) (read : Json → Option Service)
    (document : Json) (host : Host) : Option Host :=
  match document.field? name with
  | none => some host
  | some table => do
    let service ← read table
    let path ← match document.field? placeName with
      | none => some place
      | some path => path.text?
    return host.serve (Files.placeBelow top path) service

/-- Files below `top` and engines, put on a bare host. -/
def describe? (bare : Host) (top : Files.Location) (document : Json) : Option Host := do
  let files ← match document.field? "files" with
    | none => some (bare.files.put top .directory)
    | some entries => bare.files.describe? top entries
  let host : Host := { bare with files := files }
  let host ← host.serveAt? top "containerd" "containerd_at" containerdPlace
    (fun table => (Containerd.Service.ofJson? table).map .containerd) document
  host.serveAt? top "docker" "docker_at" dockerPlace
    (fun table => (Docker.Service.ofJson? table).map .docker) document

/-- A machine without files. -/
def bare (release : String) : Host :=
  ⟨.empty, [], release, "x86_64", schedTracepoints⟩

end Attribution.Host
