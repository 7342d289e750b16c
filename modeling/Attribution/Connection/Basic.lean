import Attribution.Event.Basic
import Attribution.Roster
import Attribution.Table

/-! Connections of processes and the counters kept about them. -/

namespace Attribution

/-- Milliseconds since some fixed moment. -/
abbrev Instant := Nat

/-- A file descriptor of a process. Descriptors are used again after they are closed. -/
structure Socket where
  pid : UInt32
  fd : UInt64
  deriving DecidableEq, Repr

/-- Two ends of a connection, the destination after NAT. -/
structure Pair where
  source : Address
  destination : Address
  deriving DecidableEq, Repr

/-- A connection that a process has opened. -/
structure Connection where
  source : Address
  /-- The destination as the process sees it. -/
  destination : Address
  /-- The destination after NAT. -/
  actual : Address
  pid : UInt32
  fd : UInt64
  /-- When the kernel saw it open; tells uses of one descriptor apart. -/
  timestamp : UInt64
  /-- When it was closed; nothing while it is open. -/
  closed : Option Instant
  deriving DecidableEq, Repr

namespace Connection

def socket (connection : Connection) : Socket :=
  ⟨connection.pid, connection.fd⟩

def pair (connection : Connection) : Pair :=
  ⟨connection.source, connection.actual⟩

/-- Whether both are one use of one descriptor. -/
def isSame (a b : Connection) : Bool :=
  a.pid = b.pid ∧ a.fd = b.fd ∧ a.timestamp = b.timestamp

end Connection

/-- Counters of requests over one protocol to one destination. -/
structure Usage where
  requests : Nat
  failed : Nat
  /-- Nanoseconds. -/
  duration : Nat
  deriving DecidableEq, Repr

namespace Usage

def none : Usage := ⟨0, 0, 0⟩

def add (usage : Usage) (request : Request) : Usage where
  requests := usage.requests + 1
  failed := if request.isFailed then usage.failed + 1 else usage.failed
  duration := usage.duration + request.duration.toNat

end Usage

end Attribution
