import Attribution.Diagnosis
import Attribution.Text.Number

/-! The ways in which asking a container runtime can fail. -/

namespace Attribution

/-- A status: its code and what the server says about it. -/
structure Status where
  code : Nat
  message : String
  deriving DecidableEq, Repr

/-- Why docker's answer to a request gives nothing. -/
inductive Docker.Refusal where
  /-- The status is not one of success. -/
  | status (answer : Status)
  /-- A success without content. -/
  | empty
  /-- A success with an object where a list is due. -/
  | notList
  deriving DecidableEq, Repr

def Docker.Refusal.text : Docker.Refusal → String
  | status answer =>
    "Docker responded with status code " ++ Text.decimalString answer.code ++ ": " ++ answer.message
  | empty => "EOF while parsing a value at line 1 column 0"
  | notList =>
    "Failed to deserialize JSON: invalid type: map, expected a sequence at line 1 column 0"

namespace Engine

/-- The calls of the containers service. -/
inductive Call where
  | get
  | list
  deriving DecidableEq, Repr

def Call.method : Call → String
  | get => "/containerd.services.containers.v1.Containers/Get"
  | list => "/containerd.services.containers.v1.Containers/List"

/-- What was asked of docker. -/
inductive Inquiry where
  | ping
  | inspect
  | list
  deriving DecidableEq, Repr

def Inquiry.name : Inquiry → String
  | ping => "ping"
  | inspect => "container inspect"
  | list => "container list"

inductive Error where
  | unavailable
  /-- The service answered with a status instead of a response. -/
  | grpc (call : Call) (status : Status)
  /-- The server's answer is an error or cannot be read. -/
  | docker (inquiry : Inquiry) (refusal : Docker.Refusal)
  | notFound (id : String)
  | timeout (request : String)
  deriving DecidableEq, Repr

namespace Error

def diagnosis : Error → Diagnosis
  | unavailable => .ofText "no container runtime available"
  | grpc call status => .caused ("gRPC request `" ++ call.method ++ "` failed: ") status.message
  | docker inquiry refusal => .caused ("docker " ++ inquiry.name ++ " failed: ") refusal.text
  | notFound id => .ofText ("container `" ++ id ++ "` not found")
  | timeout request => .ofText ("request `" ++ request ++ "` timed out")

def message (failure : Error) : String :=
  failure.diagnosis.text

end Error

end Engine

end Attribution
