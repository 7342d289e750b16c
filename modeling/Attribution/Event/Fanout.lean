import Attribution.Event.Record

/-!
Handing events to subscribers over bounded channels.

A full channel loses the event for that subscription alone, and a closed one gets nothing.
-/

namespace Attribution

/-- A bounded queue with one receiver. -/
structure Channel where
  capacity : Nat
  /-- What waits to be received, oldest first. -/
  queue : List Event
  isOpen : Bool
  deriving DecidableEq, Repr

/-- What becomes of an event offered to a channel. -/
inductive Delivery where
  | delivered
  | full
  | closed
  deriving DecidableEq, Repr

namespace Channel

def ofCapacity (capacity : Nat) : Channel := ⟨capacity, [], true⟩

def delivery (channel : Channel) : Delivery :=
  if !channel.isOpen then .closed
  else if channel.queue.length < channel.capacity then .delivered
  else .full

/-- Takes an event if the receiver is there and has room. -/
def offer (channel : Channel) (event : Event) : Channel :=
  match channel.delivery with
  | .delivered => { channel with queue := channel.queue ++ [event] }
  | _ => channel

/-- The oldest event that waits, and the channel without it. -/
def receive (channel : Channel) : Option Event × Channel :=
  (channel.queue.head?, { channel with queue := channel.queue.tail })

/-- The receiver goes, and with it what waits. -/
def hangUp (channel : Channel) : Channel :=
  { channel with queue := [], isOpen := false }

end Channel

/-- How many deliveries were made, were dropped for want of room, and how many records the kernel
lost. The counters wrap around. -/
structure DeliveryCounts where
  delivered : UInt64
  dropped : UInt64
  lost : UInt64
  deriving DecidableEq, Repr

def DeliveryCounts.zero : DeliveryCounts := ⟨0, 0, 0⟩

def DeliveryCounts.note (counts : DeliveryCounts) : Delivery → DeliveryCounts
  | .delivered => { counts with delivered := counts.delivered + 1 }
  | .full => { counts with dropped := counts.dropped + 1 }
  | .closed => counts

/-- A kind of events and the channel that wants them. -/
structure Subscription where
  kind : EventType
  channel : Nat
  deriving DecidableEq, Repr

/-- Channels, numbered in order of creation, and subscriptions, oldest first. -/
structure Fanout where
  channels : List Channel
  subscriptions : List Subscription
  counts : DeliveryCounts
  deriving DecidableEq, Repr

namespace Fanout

def empty : Fanout := ⟨[], [], .zero⟩

/-- Adds a channel; its number is how many there were. -/
def addChannel (fanout : Fanout) (capacity : Nat) : Fanout :=
  { fanout with channels := fanout.channels ++ [Channel.ofCapacity capacity] }

def subscribe (fanout : Fanout) (kind : EventType) (channel : Nat) : Fanout :=
  { fanout with subscriptions := fanout.subscriptions ++ [⟨kind, channel⟩] }

/-- Offers an event to one channel and counts what becomes of it. -/
def deliver (event : Event) (fanout : Fanout) (subscription : Subscription) : Fanout :=
  match fanout.channels[subscription.channel]? with
  | none => fanout
  | some channel =>
    { fanout with
      channels := fanout.channels.set subscription.channel (channel.offer event)
      counts := fanout.counts.note channel.delivery }

/-- Offers an event to every subscription of its kind in turn. -/
def dispatch (fanout : Fanout) (event : Event) : Fanout :=
  (fanout.subscriptions.filter (·.kind == event.kind)).foldl (deliver event) fanout

/-- Decodes what a reader got; what is no record or is not reported goes nowhere. -/
def accept (fanout : Fanout) (kind : RecordKind) (data : Bytes) : Fanout :=
  match Event.decode kind data with
  | .ok (some event) => fanout.dispatch event
  | _ => fanout

def recordLost (fanout : Fanout) (count : UInt64) : Fanout :=
  { fanout with counts := { fanout.counts with lost := fanout.counts.lost + count } }

def receive (fanout : Fanout) (channel : Nat) : Option Event × Fanout :=
  match fanout.channels[channel]? with
  | none => (none, fanout)
  | some found =>
    let (event, rest) := found.receive
    (event, { fanout with channels := fanout.channels.set channel rest })

def hangUp (fanout : Fanout) (channel : Nat) : Fanout :=
  { fanout with channels := fanout.channels.modify channel Channel.hangUp }

end Fanout

end Attribution
