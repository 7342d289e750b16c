import Attribution.Engine.Error
import Attribution.Engine.Service
import Attribution.Files.Tree

/-!
Asking the engine of the host about its containers.

containerd is tried first, then docker; docker must also answer a ping. Without either, every
question fails.
-/

namespace Attribution.Engine

inductive Client where
  | containerd (socket : Path) (service : Containerd.Service)
  | docker (socket : Path) (service : Docker.Service)
  | unavailable

namespace Client

def name : Client → String
  | containerd _ _ => "containerd"
  | docker _ _ => "docker"
  | unavailable => "unavailable"

def socket? : Client → Option Path
  | containerd socket _ => some socket
  | docker socket _ => some socket
  | unavailable => none

/-- Why containerd gave no record. -/
def getError (id : String) (status : Status) : Error :=
  if status.code = Containerd.notFoundCode then .notFound id else .grpc .get status

/-- Why docker could not inspect a container. -/
def inspectError (id : String) : Docker.Refusal → Error
  | .status status =>
    if status.code = Docker.notFoundStatus then .notFound id else .docker .inspect (.status status)
  | refusal => .docker .inspect refusal

/-- What the engine knows about a container. -/
def metadata (client : Client) (id : String) : Except Error Metadata :=
  match client with
  | containerd _ service =>
    match service.get id with
    | .ok (some record) => .ok record.metadata
    | .ok none => .error (.notFound id)
    | .error status => .error (getError id status)
  | docker _ service => ((service.inspect id).mapError (inspectError id)).map Docker.Inspect.metadata
  | unavailable => .error .unavailable

/-- The ids of all containers. -/
def list : Client → Except Error (List String)
  | containerd _ service =>
    service.list.mapError (Error.grpc .list)
  | docker _ service =>
    match service.list with
    | .ok ids => .ok (ids.filterMap id)
    | .error refusal => .error (.docker .list refusal)
  | unavailable => .error .unavailable

end Client

/-- The servers and where their sockets lie. -/
abbrev Services := List (Files.Location × Service)

/-- The server whose socket a path leads to. -/
def Services.at? (services : Services) (tree : Files.Tree) (path : Path) : Option Service :=
  match tree.find true path with
  | .ok (place, .socket) => (services.find? (·.1 == place)).map Prod.snd
  | _ => none

/-- Finds out which engine the host runs. -/
def Client.detect (tree : Files.Tree) (services : Services) (containerdSocket dockerSocket : Path) :
    Client :=
  match services.at? tree containerdSocket, services.at? tree dockerSocket with
  | some (.containerd service), _ => .containerd containerdSocket service
  | _, some (.docker service) =>
    match service.ping with
    | .ok () => .docker dockerSocket service
    | .error _ => .unavailable
  | _, _ => .unavailable

end Attribution.Engine
