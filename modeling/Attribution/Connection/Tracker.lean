import Attribution.Connection.Basic

/-!
The connections of one container.

Sockets hold open connections. Pairs of addresses keep their latest connection until some time
after it was closed, and how many connections they have seen. Failed attempts and retransmissions
are counted per destination, requests per protocol and destination.
-/

namespace Attribution

/-- What is known about the connections of a container. -/
structure Tracker where
  /-- The open connection of every socket. -/
  held : Table Socket Connection
  /-- The latest connection of every pair. -/
  active : Table Pair Connection
  successful : Table Pair Nat
  failed : Table Address Nat
  lastAttempt : Table Address Instant
  retransmits : Table Address Nat
  listens : Roster Address
  usage : Table (Protocol × Address) Usage

namespace Tracker

def empty : Tracker :=
  ⟨.empty, .empty, .empty, .empty, .empty, .empty, .empty, .empty⟩

instance : Inhabited Tracker := ⟨empty⟩

/-- One more for a counter that may not exist yet. -/
def countUp {α : Type} [DecidableEq α] (counts : Table α Nat) (key : α) : Table α Nat :=
  counts.insert key (counts.getD key 0 + 1)

/-- One less for a counter, which goes when it reaches zero. -/
def countDown {α : Type} [DecidableEq α] (counts : Table α Nat) (key : α) : Table α Nat :=
  counts.alter key fun count => count.bind fun n => if n ≤ 1 then none else some (n - 1)

/-- A connection just opened. -/
structure Opening where
  source : Address
  destination : Address
  /-- The destination after NAT, where it is known already. -/
  actual : Address
  pid : UInt32
  fd : UInt64
  timestamp : UInt64
  deriving DecidableEq, Repr

def Opening.connection (opening : Opening) : Connection :=
  ⟨opening.source, opening.destination, opening.actual, opening.pid, opening.fd, opening.timestamp, none⟩

def attempt (tracker : Tracker) (destination : Address) (now : Instant) : Tracker :=
  { tracker with lastAttempt := tracker.lastAttempt.insert destination now }

/-- Records a connection that was opened, whatever its socket held before. Loopback destinations
are not recorded. -/
def opened (tracker : Tracker) (opening : Opening) (now : Instant) : Tracker :=
  if opening.destination.isLoopback then tracker
  else
    let connection := opening.connection
    { tracker.attempt opening.destination now with
      held := tracker.held.insert connection.socket connection
      active := tracker.active.insert connection.pair connection
      successful := countUp tracker.successful connection.pair }

/-- Records an attempt that failed. -/
def failedOpen (tracker : Tracker) (destination : Address) (now : Instant) : Tracker :=
  if destination.isLoopback then tracker
  else { tracker.attempt destination now with failed := countUp tracker.failed destination }

/-- Marks the pair's connection as closed if it is still this one. -/
def stamp (now : Instant) (active : Table Pair Connection) (connection : Connection) :
    Table Pair Connection :=
  active.adjust connection.pair fun latest =>
    if latest.isSame connection then { latest with closed := some now } else latest

/-- The connection a socket holds, if it is the one opened at that time. Time zero means any. -/
def current? (tracker : Tracker) (socket : Socket) (timestamp : UInt64) : Option Connection :=
  (tracker.held.get? socket).filter fun connection =>
    timestamp = 0 ∨ connection.timestamp = timestamp

/-- Closes the connection of a socket, if there is one and the time does not contradict. -/
def close (tracker : Tracker) (socket : Socket) (timestamp : UInt64) (now : Instant) :
    Bool × Tracker :=
  match tracker.current? socket timestamp with
  | none => (false, tracker)
  | some connection =>
    (true, { tracker with
      held := tracker.held.erase socket
      active := stamp now tracker.active connection })

/-- The connections that a process holds open. -/
def heldBy (tracker : Tracker) (pid : UInt32) : List Connection :=
  (tracker.held.filter fun socket _ => socket.pid = pid).values

/-- Closes whatever a process holds open, and tells how many connections that were. -/
def exit (tracker : Tracker) (pid : UInt32) (now : Instant) : Nat × Tracker :=
  let gone := tracker.heldBy pid
  (gone.length, { tracker with
    held := tracker.held.filter fun socket _ => socket.pid ≠ pid
    active := gone.foldl (stamp now) tracker.active })

/-- Takes a connection from its pair if it is the latest there. -/
def vacate (active : Table Pair Connection) (connection : Connection) : Table Pair Connection :=
  match active.get? connection.pair with
  | some latest => if latest.isSame connection then active.erase connection.pair else active
  | none => active

/-- Moves the connection that a socket opened at that time to its destination after NAT.
Nothing happens if the socket holds another connection or it has that destination already. -/
def redirect (tracker : Tracker) (socket : Socket) (timestamp : UInt64) (actual : Address) :
    Bool × Tracker :=
  match tracker.held.get? socket with
  | none => (false, tracker)
  | some connection =>
    if connection.timestamp ≠ timestamp ∨ connection.actual = actual then (false, tracker)
    else
      let moved := { connection with actual := actual }
      (true, { tracker with
        held := tracker.held.insert socket moved
        active := (vacate tracker.active connection).insert moved.pair moved
        successful := countUp (countDown tracker.successful connection.pair) moved.pair })

def retransmitted (tracker : Tracker) (destination : Address) : Tracker :=
  { tracker with retransmits := countUp tracker.retransmits destination }

def listen (tracker : Tracker) (address : Address) : Tracker :=
  { tracker with listens := tracker.listens.insert address }

def unlisten (tracker : Tracker) (address : Address) : Tracker :=
  { tracker with listens := tracker.listens.erase address }

/-- Counts a request for the connection of its socket; without such a connection it is discarded. -/
def requested (tracker : Tracker) (socket : Socket) (timestamp : UInt64) (request : Request) :
    Bool × Tracker :=
  match tracker.current? socket timestamp with
  | none => (false, tracker)
  | some connection =>
    let key := (request.protocol, connection.actual)
    (true, { tracker with
      usage := tracker.usage.insert key ((tracker.usage.getD key .none).add request) })

/-- Whether a moment lies at least `ttl` back. A moment that is still to come lies no time back. -/
def isExpired (now ttl moment : Instant) : Bool :=
  ttl ≤ now - moment

/-- Forgets connections closed some time ago, the counters of pairs left without a connection, and
destinations that were not tried for some time. Tells how many connections that were. -/
def purge (tracker : Tracker) (now ttl : Instant) : Nat × Tracker :=
  let active := tracker.active.filter fun _ connection => !connection.closed.any (isExpired now ttl)
  let lastAttempt := tracker.lastAttempt.filter fun _ moment => !isExpired now ttl moment
  (tracker.active.size - active.size, { tracker with
    active := active
    successful := tracker.successful.filter fun pair _ => active.contains pair
    lastAttempt := lastAttempt
    failed := tracker.failed.filter fun destination _ => lastAttempt.contains destination })

end Tracker

end Attribution
