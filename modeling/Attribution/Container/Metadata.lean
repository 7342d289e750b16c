import Attribution.Json.Basic
import Attribution.Net.AddressText
import Attribution.Table

/-! What a container runtime knows about a container. -/

namespace Attribution

/-- A port that a container declares or has forwarded. -/
structure ContainerPort where
  name : String
  containerPort : UInt32
  protocol : String
  hostPort : UInt32
  deriving DecidableEq, Repr

/-- A container's place in a network. -/
structure NetworkPlace where
  networkId : String
  aliases : List String
  ipAddress : String
  deriving DecidableEq, Repr

structure Metadata where
  name : String
  id : String
  labels : Table String String
  annotations : Table String String
  /-- Mount destinations and their sources. -/
  volumes : Table String String
  created : String
  logPath : String
  image : String
  /-- Host addresses that are forwarded into the container, by runtime. -/
  hostListens : Table String (List Address)
  networks : Table String NetworkPlace
  ports : List ContainerPort

namespace Metadata

def empty : Metadata :=
  ⟨"", "", .empty, .empty, .empty, "", "", "", .empty, .empty, []⟩

instance : Inhabited Metadata := ⟨empty⟩

def label? (metadata : Metadata) (key : String) : Option String :=
  metadata.labels.get? key

def textsJson (texts : Table String String) : Json :=
  .record (texts.entries.map fun (key, value) => (key, .text value))

def portJson (port : ContainerPort) : Json :=
  .record [("name", .text port.name), ("containerPort", .natural port.containerPort.toNat),
    ("protocol", .text port.protocol), ("hostPort", .natural port.hostPort.toNat)]

def networkJson (place : NetworkPlace) : Json :=
  .record [("network_id", .text place.networkId), ("aliases", .list .text place.aliases),
    ("ip_address", .text place.ipAddress)]

def toJson (metadata : Metadata) : Json :=
  .record [("name", .text metadata.name), ("id", .text metadata.id),
    ("labels", textsJson metadata.labels), ("annotations", textsJson metadata.annotations),
    ("volumes", textsJson metadata.volumes), ("created", .text metadata.created),
    ("log_path", .text metadata.logPath), ("image", .text metadata.image),
    ("host_listens", .record (metadata.hostListens.entries.map fun (key, listens) =>
      (key, .list (fun address => .text address.render) listens))),
    ("networks", .record (metadata.networks.entries.map fun (key, place) => (key, networkJson place))),
    ("container_ports", .list portJson metadata.ports)]

end Metadata

end Attribution
