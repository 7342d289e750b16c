import Attribution.Cgroup.Membership
import Attribution.Connection.Summary
import Attribution.Container.Identity
import Attribution.Kernel.Processes

/-! Tracked containers and what is shown of them. -/

namespace Attribution

open Kernel (Pid)

/-- A container with the cgroup it was first seen in, its processes and their connections. -/
structure Container where
  identity : Identity
  cgroup : Cgroup
  metadata : Option Metadata
  pids : Roster Pid
  tracker : Tracker

namespace Container

/-- A container without processes yet. -/
def create (identity : Identity) (cgroup : Cgroup) (metadata : Option Metadata) : Container :=
  ⟨identity, cgroup, metadata, .empty, .empty⟩

def join (container : Container) (pid : Pid) : Container :=
  { container with pids := container.pids.insert pid }

/-- A process leaves, and its connections are closed. -/
def leave (container : Container) (pid : Pid) (now : Instant) : Container :=
  { container with
    pids := container.pids.erase pid
    tracker := (container.tracker.exit pid now).2 }

def track (container : Container) (change : Tracker → Tracker) : Container :=
  { container with tracker := change container.tracker }

end Container

/-- A container at one moment. -/
structure Snapshot where
  identity : Identity
  cgroup : String
  kind : Cgroup.Kind
  containerId : String
  /-- Ascending. -/
  pids : List Pid
  name : String
  image : String
  labels : Table String String
  connections : Summary

namespace Snapshot

def ofContainer (container : Container) : Snapshot :=
  let metadata := container.metadata.getD .empty
  { identity := container.identity
    cgroup := container.cgroup.id
    kind := container.cgroup.kind
    containerId := container.cgroup.containerId
    pids := sortBy (fun pid => [pid.toNat]) container.pids.members
    name := metadata.name
    image := metadata.image
    labels := metadata.labels
    connections := .ofTracker container.tracker }

def toJson (snapshot : Snapshot) : Json :=
  .record [("identity", .text snapshot.identity.text), ("cgroup", .text snapshot.cgroup),
    ("container_type", .text snapshot.kind.name), ("container_id", .text snapshot.containerId),
    ("pids", .list (fun pid => .natural pid.toNat) snapshot.pids), ("name", .text snapshot.name),
    ("image", .text snapshot.image), ("labels", Metadata.textsJson snapshot.labels),
    ("connections", snapshot.connections.toJson)]

end Snapshot

end Attribution
