import Attribution.Conntrack
import Attribution.Container.Basic
import Attribution.Engine.Error

/-!
Which process belongs to which container.

A process is unknown, mapped to a container, or ignored. Unknown processes are resolved when an
event needs their container; if that fails they stay unknown. Ignored processes belong to cgroups
that are not tracked and are not resolved again.

Containers are numbered in the order of their creation. A number stays valid after its container
has lost its last process, since requests under way may still name it.
-/

namespace Attribution

open Kernel (Pid)

/-- Whom the registry asks while it handles one event: the process file system and the container
runtime. A process may move between two readings of its cgroup. -/
structure Sources where
  cgroupOf : Pid → Except Cgroup.Error Cgroup
  /-- What a second reading finds; the same, unless something else is said. -/
  cgroupAgain : Pid → Except Cgroup.Error Cgroup := cgroupOf
  metadataOf : String → Except Engine.Error Metadata

/-- What is found once the first reading is over. -/
def Sources.later (sources : Sources) : Sources :=
  { sources with cgroupOf := sources.cgroupAgain }

/-- Sources that read the cgroup files of one file system. -/
def Sources.ofFiles (files : Files.Tree) (root : Path) (base : String)
    (metadataOf : String → Except Engine.Error Metadata) : Sources where
  cgroupOf := Cgroup.ofPid files root base
  metadataOf := metadataOf

/-- What is known about a process that is not unknown. -/
inductive PidState where
  | mapped (container : Nat)
  | ignored
  deriving DecidableEq, Repr

/-- A connection whose destination after NAT is still to be found. -/
structure NatRequest where
  container : Nat
  socket : Socket
  timestamp : UInt64
  flow : Flow
  deriving DecidableEq, Repr

structure Registry where
  /-- Every container ever created; its number is its position. -/
  created : List Container
  byIdentity : Table Identity Nat
  byCgroup : Table String Nat
  byPid : Table Pid PidState
  /-- Requests that wait for an answer, oldest first. -/
  queue : List NatRequest
  /-- The ids asked of the runtime so far, latest first. -/
  lookups : List String

namespace Registry

def empty : Registry :=
  ⟨[], .empty, .empty, .empty, [], []⟩

instance : Inhabited Registry := ⟨empty⟩

def container? (registry : Registry) (number : Nat) : Option Container :=
  registry.created[number]?

/-- The container that a process is mapped to. -/
def containerOf? (registry : Registry) (pid : Pid) : Option Nat :=
  match registry.byPid.get? pid with
  | some (.mapped number) => some number
  | _ => none

/-- Changes one container. -/
def change (registry : Registry) (number : Nat) (update : Container → Container) : Registry :=
  { registry with created := registry.created.modify number update }

def track (registry : Registry) (number : Nat) (update : Tracker → Tracker) : Registry :=
  registry.change number (·.track update)

/-- Maps a process to a container. -/
def attach (registry : Registry) (pid : Pid) (number : Nat) : Registry :=
  { registry.change number (·.join pid) with byPid := registry.byPid.insert pid (.mapped number) }

def ignore (registry : Registry) (pid : Pid) : Registry :=
  { registry with byPid := registry.byPid.insert pid .ignored }

def forget (registry : Registry) (pid : Pid) : Registry :=
  { registry with byPid := registry.byPid.erase pid }

/-- Whether a cgroup's container is known to a runtime. -/
def needsMetadata (cgroup : Cgroup) : Bool :=
  cgroup.kind.hasRuntimeMetadata && cgroup.containerId ≠ ""

/-- Takes note of what the runtime is about to be asked. -/
def noteLookup (registry : Registry) (cgroup : Cgroup) : Registry :=
  if needsMetadata cgroup then { registry with lookups := cgroup.containerId :: registry.lookups }
  else registry

def metadataFor (sources : Sources) (cgroup : Cgroup) : Except Engine.Error (Option Metadata) :=
  if needsMetadata cgroup then (sources.metadataOf cgroup.containerId).map some else .ok none

/-- Adds a container with its first process. -/
def create (registry : Registry) (pid : Pid) (identity : Identity) (cgroup : Cgroup)
    (metadata : Option Metadata) : Registry :=
  let number := registry.created.length
  attach { registry with
    created := registry.created ++ [.create identity cgroup metadata]
    byIdentity := registry.byIdentity.insert identity number
    byCgroup := registry.byCgroup.insert cgroup.id number } pid number

/-- Maps a process whose cgroup is new. If another cgroup has led to the same identity before, the
process joins that container. -/
def enroll (registry : Registry) (pid : Pid) (cgroup : Cgroup) (metadata : Option Metadata) :
    Registry :=
  match Identity.derive cgroup.kind cgroup.containerId metadata with
  | none => registry.ignore pid
  | some identity =>
    match registry.byIdentity.get? identity with
    | some number =>
      attach { registry with byCgroup := registry.byCgroup.insert cgroup.id number } pid number
    | none => registry.create pid identity cgroup metadata

/-- Finds out where an unknown process belongs. -/
def resolve (sources : Sources) (registry : Registry) (pid : Pid) : Registry :=
  match sources.cgroupOf pid with
  | .error _ => registry
  | .ok cgroup =>
    match registry.byCgroup.get? cgroup.id with
    | some number => registry.attach pid number
    | none =>
      match metadataFor sources cgroup with
      | .error _ => registry.noteLookup cgroup
      | .ok metadata => (registry.noteLookup cgroup).enroll pid cgroup metadata

/-- A process was seen; unknown ones are resolved. -/
def start (sources : Sources) (registry : Registry) (pid : Pid) : Registry :=
  match registry.byPid.get? pid with
  | some _ => registry
  | none => registry.resolve sources pid

/-- Takes a container out of both indices, under every cgroup that leads to it. -/
def retire (registry : Registry) (number : Nat) : Registry :=
  { registry with
    byCgroup := registry.byCgroup.filter fun _ other => other ≠ number
    byIdentity := registry.byIdentity.filter fun identity other =>
      !(other = number && (registry.container? number).any (·.identity = identity)) }

/-- Whether a container has no process left. -/
def isDeserted (registry : Registry) (number : Nat) : Bool :=
  (registry.container? number).all (·.pids.size = 0)

/-- A process has ended: its connections are closed, and its container goes with its last process. -/
def exit (registry : Registry) (pid : Pid) (now : Instant) : Registry :=
  match registry.byPid.get? pid with
  | none => registry
  | some .ignored => registry.forget pid
  | some (.mapped number) =>
    let left := (registry.forget pid).change number (·.leave pid now)
    if left.isDeserted number then left.retire number else left

/-- Reads the cgroup of a service's process again, since runtimes move processes out of the service
that started them. A process that has moved leaves its container and is resolved anew. -/
def recheck (sources : Sources) (registry : Registry) (pid : Pid) (container : Container)
    (now : Instant) : Registry :=
  match sources.cgroupOf pid with
  | .error _ => registry
  | .ok cgroup =>
    if cgroup.id = container.cgroup.id then registry
    else (registry.exit pid now).start sources.later pid

/-- Makes sure that a process is resolved, on demand also that a service's process is still where it
was. -/
def ensure (sources : Sources) (registry : Registry) (pid : Pid) (again : Bool) (now : Instant) :
    Registry :=
  match registry.byPid.get? pid with
  | some .ignored => registry
  | none => registry.start sources pid
  | some (.mapped number) =>
    match registry.container? number with
    | none => registry
    | some container =>
      if again && container.cgroup.kind == .systemd then registry.recheck sources pid container now
      else registry

/-- Forgets old connections of every container in the index. -/
def purge (registry : Registry) (now ttl : Instant) : Registry :=
  registry.byIdentity.values.foldl (fun registry number =>
    registry.track number fun tracker => (tracker.purge now ttl).2) registry

/-- The containers in the index. -/
def containers (registry : Registry) : List Container :=
  registry.byIdentity.values.filterMap registry.container?

/-- The containers in the index as they are now, ascending by identity. -/
def snapshots (registry : Registry) : List Snapshot :=
  (registry.containers.map Snapshot.ofContainer).mergeSort fun a b =>
    decide (a.identity.text ≤ b.identity.text)

end Registry

end Attribution
