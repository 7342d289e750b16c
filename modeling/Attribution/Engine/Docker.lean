import Attribution.Ascending
import Attribution.Container.Metadata

/-! What docker says about a container when it is inspected, and the metadata in it. -/

namespace Attribution.Docker

/-- Where on the host a port is forwarded from. -/
structure Binding where
  hostIp : Option String
  hostPort : Option String
  deriving DecidableEq, Repr

structure Mount where
  source : Option String
  destination : Option String
  deriving DecidableEq, Repr

structure NetworkSettings where
  /-- Ports such as `80/tcp` and their bindings. -/
  ports : Table String (List Binding)
  networks : Table String NetworkPlace

/-- An inspect document, as far as it is used. -/
structure Inspect where
  id : Option String
  created : Option String
  name : Option String
  logPath : Option String
  logDriver : Option String
  mounts : List Mount
  image : Option String
  labels : Table String String
  network : Option NetworkSettings

/-! ### Ports -/

/-- Number and protocol of a port; a number that cannot be read is zero. -/
def portOf (port : String) : UInt32 × String :=
  match Text.cut '/' port.toList with
  | some (number, protocol) => ((Text.readUInt32? number).getD 0, String.ofList protocol)
  | none => ((Text.readUInt32? port.toList).getD 0, "tcp")

/-- The ports by their protocols. -/
def byProtocol (ports : Table String (List Binding)) : Table String (List Binding) where
  entries := sortBy (fun (port, _) => (portOf port).2.toList.map Char.toNat) ports.entries
  nodup := ((sortBy_perm _ _).map Prod.fst).nodup_iff.2 ports.nodup

/-! ### Reading -/

def textAt (name : String) (document : Json) : Option String :=
  (document.field? name).bind Json.text?

def itemsAt (name : String) (document : Json) : List Json :=
  ((document.field? name).bind Json.items?).getD []

/-- The members below a name; the last of equal names counts. -/
def tableAt {α : Type} (name : String) (read : Json → Option α) (document : Json) : Table String α :=
  Table.ofList <| (((document.field? name).bind Json.members?).getD []).filterMap
    fun (key, value) => (read value).map (key, ·)

def bindingOf (document : Json) : Binding :=
  ⟨textAt "HostIp" document, textAt "HostPort" document⟩

def bindingsOf (document : Json) : List Binding :=
  (document.items?.getD []).map bindingOf

def mountOf (document : Json) : Mount :=
  ⟨textAt "Source" document, textAt "Destination" document⟩

def placeOf (document : Json) : NetworkPlace where
  networkId := (textAt "NetworkID" document).getD ""
  aliases := (itemsAt "Aliases" document).filterMap Json.text?
  ipAddress := (textAt "IPAddress" document).getD ""

/-- Ports and networks. Nothing tells in which order the ports come; they are taken by protocol. -/
def networkOf (document : Json) : NetworkSettings :=
  ⟨byProtocol (tableAt "Ports" (fun ports => some (bindingsOf ports)) document),
    tableAt "Networks" (fun place => some (placeOf place)) document⟩

/-- A document that says nothing. -/
def Inspect.blank : Inspect :=
  ⟨none, none, none, none, none, [], none, .empty, none⟩

def Inspect.ofJson (document : Json) : Inspect where
  id := textAt "Id" document
  created := textAt "Created" document
  name := textAt "Name" document
  logPath := textAt "LogPath" document
  logDriver := do textAt "Type" (← (← document.field? "HostConfig").field? "LogConfig")
  mounts := (itemsAt "Mounts" document).map mountOf
  image := do textAt "Image" (← document.field? "Config")
  labels := ((document.field? "Config").map (tableAt "Labels" Json.text?)).getD .empty
  network := (document.field? "NetworkSettings").map networkOf

/-! ### Metadata -/

/-- The only log driver that writes to the log path. -/
def fileLogDriver : String := "json-file"

/-- The key of the host addresses that docker forwards. -/
def listensKey : String := "docker"

/-- Mounts that name both ends. -/
def Mount.pair? (mount : Mount) : Option (String × String) := do
  return (← mount.destination, ← mount.source)

def Binding.port? (binding : Binding) : Option UInt16 :=
  binding.hostPort.bind fun port => Text.readUInt16? port.toList

/-- The host's address of a binding. No address means all of version 4. -/
def Binding.listen? (binding : Binding) : Option Address := do
  let port ← binding.port?
  let ip ← match binding.hostIp.getD "" with
    | "" => some (Ip.v4 0)
    | text => Ip.parse? text.toList
  return ip.address port

namespace NetworkSettings

/-- Every binding with the number and the protocol of its port. -/
def bindings (settings : NetworkSettings) : List ((UInt32 × String) × Binding) :=
  settings.ports.entries.flatMap fun (port, bindings) => bindings.map (portOf port, ·)

/-- The host addresses that are forwarded over TCP, ascending. -/
def listens (settings : NetworkSettings) : List Address :=
  sortBy Address.sortKey <| settings.bindings.filterMap fun ((_, protocol), binding) =>
    if protocol = "tcp" then binding.listen? else none

/-- The forwarded ports, ascending by number and host port. Those that agree in both stay in the order
of the ports. -/
def containerPorts (settings : NetworkSettings) : List ContainerPort :=
  let ports := settings.bindings.map fun ((number, protocol), binding) =>
    (⟨"", number, protocol, (binding.port?.map UInt16.toUInt32).getD 0⟩ : ContainerPort)
  sortBy (fun port => [port.containerPort.toNat, port.hostPort.toNat]) ports

end NetworkSettings

namespace Inspect

/-- The log file, if the log driver writes one. -/
def logFile (inspect : Inspect) : String :=
  if inspect.logDriver = some fileLogDriver then inspect.logPath.getD "" else ""

/-- An inspect document in the terms that all engines share. -/
def metadata (inspect : Inspect) : Metadata where
  name := String.ofList ((inspect.name.getD "").toList.dropWhile (· == '/'))
  id := inspect.id.getD ""
  labels := inspect.labels
  annotations := .empty
  volumes := .ofList (inspect.mounts.filterMap Mount.pair?)
  created := inspect.created.getD ""
  logPath := inspect.logFile
  image := inspect.image.getD ""
  hostListens := .ofList ((inspect.network.map fun settings => (listensKey, settings.listens)).toList)
  networks := (inspect.network.map (·.networks)).getD .empty
  ports := (inspect.network.map (·.containerPorts)).getD []

end Inspect

end Attribution.Docker
