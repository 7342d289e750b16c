import Attribution.Files.Path
import Attribution.Json.Basic
import Attribution.Net.AddressText
import Attribution.Text.Blank
import Attribution.Text.Quoted

/-!
What the agent is told by its environment.

Each setting has a variable and a default. The variables are read in a fixed order, and the first
value that cannot be read is reported.
-/

namespace Attribution

structure Settings where
  /-- Where the process file system is mounted. -/
  procRoot : Path
  /-- The directory of the instrumentation images. -/
  imageDirectory : Path
  apiListen : Address
  /-- Sockets are looked for below the root of the host. -/
  containerdSocket : Path
  dockerSocket : Path
  /-- How many events can wait for the registry. -/
  eventBuffer : Nat
  withoutRequests : Bool
  /-- For how many seconds closed connections are kept. -/
  connectionTtl : Nat
  deriving DecidableEq, Repr

/-- A variable whose value cannot be read. -/
structure InvalidSetting where
  key : String
  value : String
  reason : String
  deriving DecidableEq, Repr

namespace InvalidSetting

def message (failure : InvalidSetting) : String :=
  "invalid value `" ++ failure.value ++ "` for `" ++ failure.key ++ "`: " ++ failure.reason

/-- Every part of the failure spelled out. -/
def details (failure : InvalidSetting) : String :=
  "InvalidValue \x7b key: " ++ Text.quoted failure.key ++ ", value: " ++ Text.quoted failure.value ++
    ", reason: " ++ Text.quoted failure.reason ++ " \x7d"

end InvalidSetting

/-- The values of variables; unset ones have none. -/
abbrev Environment := String → Option String

namespace Settings

def default : Settings where
  procRoot := "/proc"
  imageDirectory := "/usr/lib/sense-agent/ebpf"
  apiListen := .v4 0 3000
  containerdSocket := "/run/containerd/containerd.sock"
  dockerSocket := "/run/docker.sock"
  eventBuffer := 10000
  withoutRequests := false
  connectionTtl := 300

instance : Inhabited Settings := ⟨default⟩

/-- Reads a value or tells why it cannot be read. -/
abbrev Read (α : Type) := String → Except String α

def readPath : Read Path := fun value => .ok ⟨value⟩

def readAddress : Read Address := fun value =>
  match Address.parse? value with
  | some address => .ok address
  | none => .error "invalid socket address syntax"

/-- A positive number, with blanks around it let pass. -/
def readPositive : Read Nat := fun value =>
  match Text.readNumber Text.wordLimit (Text.trim value.toList) with
  | .ok 0 => .error "must be greater than zero"
  | .ok number => .ok number
  | .error failure => .error failure.message

/-- Yes or no in several spellings, in either case and with blanks around; nothing means no. -/
def readFlag : Read Bool := fun value =>
  let word := String.ofList ((Text.trim value.toList).map Char.toLower)
  if ["1", "true", "yes", "on"].contains word then .ok true
  else if ["0", "false", "no", "off", ""].contains word then .ok false
  else .error "expected a boolean"

/-- Reads the variable of that name, if it is set. -/
def readOr {α : Type} (environment : Environment) (key : String) (read : Read α) (unset : α) :
    Except InvalidSetting α :=
  match environment key with
  | none => .ok unset
  | some value => (read value).mapError fun reason => ⟨key, value, reason⟩

/-- The settings that an environment makes. -/
def ofEnvironment (environment : Environment) : Except InvalidSetting Settings := do
  let procRoot ← readOr environment "SENSE_PROC_ROOT" readPath default.procRoot
  let imageDirectory ← readOr environment "SENSE_EBPF_DIR" readPath default.imageDirectory
  let apiListen ← readOr environment "SENSE_API_LISTEN" readAddress default.apiListen
  let containerdSocket ← readOr environment "SENSE_CONTAINERD_SOCKET" readPath default.containerdSocket
  let dockerSocket ← readOr environment "SENSE_DOCKER_SOCKET" readPath default.dockerSocket
  let eventBuffer ← readOr environment "SENSE_EVENT_BUFFER" readPositive default.eventBuffer
  let withoutRequests ← readOr environment "SENSE_DISABLE_L7" readFlag default.withoutRequests
  let connectionTtl ← readOr environment "SENSE_CONNECTION_TTL_SECS" readPositive default.connectionTtl
  return ⟨procRoot, imageDirectory, apiListen, containerdSocket, dockerSocket, eventBuffer,
    withoutRequests, connectionTtl⟩

def toJson (settings : Settings) : Json :=
  .record [("proc_root", .text settings.procRoot.text), ("ebpf_dir", .text settings.imageDirectory.text),
    ("api_listen", .text settings.apiListen.render),
    ("containerd_socket", .text settings.containerdSocket.text),
    ("docker_socket", .text settings.dockerSocket.text), ("event_buffer", .natural settings.eventBuffer),
    ("disable_l7", .bool settings.withoutRequests),
    ("connection_ttl_secs", .natural settings.connectionTtl)]

end Settings

end Attribution
