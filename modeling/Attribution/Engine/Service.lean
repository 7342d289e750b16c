import Attribution.Engine.Containerd
import Attribution.Engine.Docker
import Attribution.Engine.Error

/-! The servers that container engines run on the host, each on a socket. -/

namespace Attribution

namespace Containerd

/-- The containers service. An answer about a container can lack the container. -/
structure Service where
  get : String → Except Status (Option Record)
  list : Except Status (List String)

/-- What a service holds under an id. -/
inductive Reply where
  | record (record : Record)
  | empty
  | status (status : Status)

/-- The code of an answer about what does not exist. -/
def notFoundCode : Nat := 5

/-- A status in the place of a response as it reaches the caller: codes that are not defined become
the one for unknown failures, and a success that brings no response is an internal failure. -/
def received (status : Status) : Status :=
  if status.code = 0 then ⟨13, "Missing response message."⟩
  else if 16 < status.code then { status with code := 2 }
  else status

/-- The service that answers from a table; a list can be set to fail. -/
def Service.ofTable (replies : Table String Reply) (listing : Option Status) : Service where
  get id :=
    match replies.get? id with
    | some (.record record) => .ok (some record)
    | some .empty => .ok none
    | some (.status status) => .error (received status)
    | none => .error ⟨notFoundCode, "no such container"⟩
  list :=
    match listing with
    | some status => .error (received status)
    | none =>
      .ok <| (replies.entries.mergeSort fun a b => decide (a.1 ≤ b.1)).filterMap fun (_, reply) =>
        match reply with
        | .record record => some record.id
        | _ => none

end Containerd

namespace Docker

/-- The daemon. Its list can hold containers without id. -/
structure Service where
  ping : Except Refusal Unit
  inspect : String → Except Refusal Inspect
  list : Except Refusal (List (Option String))

/-- What a daemon holds under an id. -/
inductive Reply where
  | inspect (inspect : Inspect)
  | status (status : Status)

/-- The status of an answer about what does not exist. -/
def notFoundStatus : Nat := 404

/-- Whether what follows a status of success is dropped: after a switch of protocols, and where no
content or no change is announced. -/
def isBare (code : Nat) : Bool :=
  code = 101 || code = 204 || code = 304

/-- Reads an answer that is a status and a message about it. A success gives `bare` without content,
and `told` with the message as its content. An interim status cannot be an answer, and the daemon
reports an internal error instead. -/
def readStatus {α : Type} (bare told : Except Refusal α) (status : Status) : Except Refusal α :=
  if isBare status.code then bare
  else if status.code < 200 then .error (.status ⟨500, ""⟩)
  else if status.code < 300 then told
  else .error (.status status)

/-- The daemon that answers from a table; a ping and a list can be set to answer with a status. -/
def Service.ofTable (replies : Table String Reply) (ping listing : Option Status) : Service where
  ping :=
    match ping with
    | none => .ok ()
    | some status => readStatus (.ok ()) (.ok ()) status
  inspect id :=
    match replies.get? id with
    | some (.inspect inspect) => .ok inspect
    | some (.status status) => readStatus (.error .empty) (.ok .blank) status
    | none => .error (.status ⟨notFoundStatus, "No such container: " ++ id⟩)
  list :=
    match listing with
    | some status => readStatus (.error .empty) (.error .notList) status
    | none =>
      .ok <| (replies.entries.mergeSort fun a b => decide (a.1 ≤ b.1)).filterMap fun (_, reply) =>
        match reply with
        | .inspect inspect => some inspect.id
        | .status _ => none

end Docker

/-- A server of either engine. -/
inductive Service where
  | containerd (service : Containerd.Service)
  | docker (service : Docker.Service)

end Attribution
