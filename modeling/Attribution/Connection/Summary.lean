import Attribution.Ascending
import Attribution.Connection.Tracker
import Attribution.Json.Basic
import Attribution.Net.AddressText

/-! What is shown of a container's connections, each list in ascending order. -/

namespace Attribution

structure PairCount where
  pair : Pair
  count : Nat
  deriving DecidableEq, Repr

structure DestinationCount where
  destination : Address
  count : Nat
  deriving DecidableEq, Repr

structure UsageEntry where
  protocol : Protocol
  destination : Address
  usage : Usage
  deriving DecidableEq, Repr

/-- The connections of a container at one moment. -/
structure Summary where
  /-- How many sockets hold a connection. -/
  openCount : Nat
  successful : List PairCount
  failed : List DestinationCount
  retransmits : List DestinationCount
  listens : List Address
  usage : List UsageEntry
  deriving DecidableEq, Repr

def Pair.sortKey (pair : Pair) : List Nat :=
  pair.destination.sortKey ++ pair.source.sortKey

namespace Summary

def destinationCounts (counts : Table Address Nat) : List DestinationCount :=
  sortBy (·.destination.sortKey) (counts.entries.map fun (destination, count) => ⟨destination, count⟩)

def ofTracker (tracker : Tracker) : Summary where
  openCount := tracker.held.size
  successful := sortBy (·.pair.sortKey)
    (tracker.successful.entries.map fun (pair, count) => ⟨pair, count⟩)
  failed := destinationCounts tracker.failed
  retransmits := destinationCounts tracker.retransmits
  listens := sortBy Address.sortKey tracker.listens.members
  usage := sortBy (fun entry => entry.destination.sortKey ++ entry.protocol.sortKey)
    (tracker.usage.entries.map fun ((protocol, destination), usage) => ⟨protocol, destination, usage⟩)

/-- Nanoseconds as milliseconds: whole seconds and the rest of a second are added first. -/
def milliseconds (nanos : Nat) : Float :=
  (Float.ofNat (nanos / 1000000000) + Float.ofNat (nanos % 1000000000) / 1000000000.0) * 1000.0

def addressJson (address : Address) : Json := .text address.render

def destinationJson (count : DestinationCount) : Json :=
  .record [("dst", addressJson count.destination), ("count", .natural count.count)]

def pairJson (count : PairCount) : Json :=
  .record [("src", addressJson count.pair.source), ("dst", addressJson count.pair.destination),
    ("count", .natural count.count)]

def usageJson (entry : UsageEntry) : Json :=
  .record [("protocol", .text entry.protocol.name), ("dst", addressJson entry.destination),
    ("requests", .natural entry.usage.requests), ("failed", .natural entry.usage.failed),
    ("total_duration_ms", .float (milliseconds entry.usage.duration))]

def toJson (summary : Summary) : Json :=
  .record [("open", .natural summary.openCount), ("successful", .list pairJson summary.successful),
    ("failed", .list destinationJson summary.failed),
    ("retransmits", .list destinationJson summary.retransmits),
    ("listens", .list addressJson summary.listens), ("l7", .list usageJson summary.usage)]

end Summary

end Attribution
