import Attribution.Registry.Basic

/-!
The read-only view of the tracked containers over HTTP.

Two places can be read, `/containers` and `/healthz`. Other places do not exist, and other methods
are not allowed.
-/

namespace Attribution

namespace Api

/-- The content of a response. -/
inductive Body where
  | text (content : String)
  | json (document : Json)

structure Response where
  status : Nat
  body : Body

/-- What can be read. -/
inductive Resource where
  | containers
  | health
  deriving DecidableEq, Repr

def resourceAt? (path : String) : Option Resource :=
  if path = "/containers" then some .containers
  else if path = "/healthz" then some .health
  else none

/-- The characters of a scheme. -/
def isSchemeChar (c : Char) : Bool :=
  c.isAlphanum || c = '+' || c = '-' || c = '.'

/-- The part behind the scheme and the host of a full address; a plain path stays as it is. -/
def dropHost (uri : List Char) : List Char :=
  match Text.strip "://".toList (uri.dropWhile isSchemeChar) with
  | some rest =>
    match rest.dropWhile fun c => c ≠ '/' && c ≠ '?' && c ≠ '#' with
    | '/' :: path => '/' :: path
    | rest => '/' :: rest
  | none => uri

/-- The path of an address, without query and fragment. -/
def pathOf (uri : String) : String :=
  String.ofList ((dropHost uri.toList).takeWhile fun c => c ≠ '?' && c ≠ '#')

/-- The containers of a registry, ascending by identity. -/
def containersJson (registry : Registry) : Json :=
  .list Snapshot.toJson registry.snapshots

def content (registry : Registry) : Resource → Body
  | .containers => .json (containersJson registry)
  | .health => .text "ok"

/-- The body that a request for the head alone gets. -/
def Body.headOnly : Body → Body
  | .text _ => .text ""
  | .json _ => .json .null

/-- Answers a request. -/
def respond (registry : Registry) (method uri : String) : Response :=
  match resourceAt? (pathOf uri) with
  | none => ⟨404, .text ""⟩
  | some resource =>
    if method = "GET" then ⟨200, content registry resource⟩
    else if method = "HEAD" then ⟨200, (content registry resource).headOnly⟩
    else ⟨405, .text ""⟩

/-- An address that no interface of the host has. -/
structure BindError where
  address : Address
  deriving DecidableEq, Repr

def BindError.diagnosis (_ : BindError) : Diagnosis :=
  .caused "failed to bind API listener: " "Cannot assign requested address (os error 99)"

/-- Takes an address to listen on; the unspecified ones are always there. -/
def bind (interfaces : List Ip) (address : Address) : Except BindError Address :=
  if address.ip = .v4 0 ∨ address.ip = .v6 0 ∨ address.ip ∈ interfaces then .ok address
  else .error ⟨address⟩

end Api

end Attribution
