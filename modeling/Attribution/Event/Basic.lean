import Attribution.Net.Address
import Attribution.Text.Number
import Attribution.Text.Utf8

/-! What the kernel reports: kinds of events, application requests, and the events themselves. -/

namespace Attribution

/-- The kinds of events. -/
inductive EventType where
  | processStart
  | processExit
  | connectionOpen
  | connectionClose
  | connectionError
  | listenOpen
  | listenClose
  | fileOpen
  | tcpRetransmit
  | l7Request
  deriving DecidableEq, Repr

namespace EventType

/-- Every kind, in the order of their tags. -/
def all : List EventType :=
  [processStart, processExit, connectionOpen, connectionClose, connectionError, listenOpen,
    listenClose, fileOpen, tcpRetransmit, l7Request]

/-- The number by which the kernel names a kind. -/
def tag : EventType → UInt32
  | processStart => 1
  | processExit => 2
  | connectionOpen => 3
  | connectionClose => 4
  | connectionError => 5
  | listenOpen => 6
  | listenClose => 7
  | fileOpen => 8
  | tcpRetransmit => 9
  | l7Request => 10

def ofTag? (tag : UInt32) : Option EventType :=
  all.find? fun kind => kind.tag == tag

def name : EventType → String
  | processStart => "ProcessStart"
  | processExit => "ProcessExit"
  | connectionOpen => "ConnectionOpen"
  | connectionClose => "ConnectionClose"
  | connectionError => "ConnectionError"
  | listenOpen => "ListenOpen"
  | listenClose => "ListenClose"
  | fileOpen => "FileOpen"
  | tcpRetransmit => "TcpRetransmit"
  | l7Request => "L7Request"

def ofName? (name : String) : Option EventType :=
  all.find? fun kind => kind.name == name

end EventType

/-- Why a process ended. -/
inductive Reason where
  | none
  | oomKill
  | other (code : UInt32)
  deriving DecidableEq, Repr

def Reason.ofCode (code : UInt32) : Reason :=
  if code = 0 then .none else if code = 1 then .oomKill else .other code

/-- Application protocols. -/
inductive Protocol where
  | http
  | postgres
  | redis
  | memcached
  | mysql
  | mongo
  | kafka
  | cassandra
  | rabbitMq
  | nats
  | http2
  | dns
  | other (code : UInt8)
  deriving DecidableEq, Repr

namespace Protocol

/-- The protocols with a number of their own, from one on. -/
def known : List Protocol :=
  [http, postgres, redis, memcached, mysql, mongo, kafka, cassandra, rabbitMq, nats, http2, dns]

def ofCode (code : UInt8) : Protocol :=
  if code = 0 then other 0 else known.getD (code.toNat - 1) (other code)

def name : Protocol → String
  | http => "http"
  | postgres => "postgres"
  | redis => "redis"
  | memcached => "memcached"
  | mysql => "mysql"
  | mongo => "mongo"
  | kafka => "kafka"
  | cassandra => "cassandra"
  | rabbitMq => "rabbitmq"
  | nats => "nats"
  | http2 => "http2"
  | dns => "dns"
  | other code => "unknown-" ++ Text.decimalString code.toNat

/-- Known protocols in the order of their numbers, then the others. -/
def sortKey : Protocol → List Nat
  | http => [0, 0]
  | postgres => [1, 0]
  | redis => [2, 0]
  | memcached => [3, 0]
  | mysql => [4, 0]
  | mongo => [5, 0]
  | kafka => [6, 0]
  | cassandra => [7, 0]
  | rabbitMq => [8, 0]
  | nats => [9, 0]
  | http2 => [10, 0]
  | dns => [11, 0]
  | other code => [12, code.toNat]

theorem sortKey_injective {a b : Protocol} (same : a.sortKey = b.sortKey) : a = b := by
  cases a <;> cases b <;> simp_all [sortKey, UInt8.toNat_inj]

end Protocol

/-- A request of an application protocol. -/
structure Request where
  protocol : Protocol
  status : UInt32
  /-- How long it took, in nanoseconds. -/
  duration : UInt64
  method : UInt8
  statement : UInt32
  payload : Bytes
  deriving DecidableEq, Repr

/-- Server faults count as failures. -/
def Request.isFailed (request : Request) : Bool :=
  500 ≤ request.status

/-- An event; what does not apply to its kind stays zero or absent. -/
structure Event where
  kind : EventType
  reason : Reason
  pid : UInt32
  fd : UInt64
  timestamp : UInt64
  source : Option Address
  destination : Option Address
  request : Option Request
  deriving DecidableEq, Repr

namespace Event

def ofKind (kind : EventType) (pid : UInt32) : Event :=
  ⟨kind, .none, pid, 0, 0, none, none, none⟩

/-- Tells of a process that was there before the agent. -/
def start (pid : UInt32) : Event :=
  ofKind .processStart pid

end Event

end Attribution
