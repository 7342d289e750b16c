import Attribution.Event.Fanout
import Mathlib.Data.List.Basic
import Mathlib.Data.List.Induction

/-!
Readers at work beside each other, and receivers beside them.

A reader that got an event looks up who wants it and from then on makes the offers one by one, with
no lock held, while other readers make theirs, receivers take what waits or go, and new subscriptions
are added.  What is offered is noted together with what became of it.
-/

namespace Attribution

/-- An event on its way from a reader to a subscription. -/
structure Send where
  reader : Nat
  /-- How many subscriptions are older. -/
  number : Nat
  subscription : Subscription
  event : Event
  deriving DecidableEq, Repr

namespace Send

def isTo (channel : Nat) (send : Send) : Bool :=
  send.subscription.channel == channel

/-- Whether a send is one of some readers to a channel. -/
def isAmong (of : Nat → Bool) (channel : Nat) (send : Send) : Bool :=
  of send.reader && send.isTo channel

def isFrom (reader : Nat) : Nat → Send → Bool :=
  isAmong (· == reader)

theorem isFrom_iff {reader channel : Nat} {send : Send} :
    send.isFrom reader channel = true ↔
      send.reader = reader ∧ send.subscription.channel = channel := by
  simp [isFrom, isAmong, isTo]

end Send

namespace Fanout

/-- What becomes of an event that is offered now. -/
def verdict (fanout : Fanout) (channel : Nat) : Delivery :=
  fanout.channels[channel]?.elim .closed Channel.delivery

/-- Who is to get an event, in order of subscription. -/
def sends (fanout : Fanout) (reader : Nat) (event : Event) : List Send :=
  (fanout.subscriptions.zipIdx.filter (·.1.kind == event.kind)).map fun (subscription, number) =>
    ⟨reader, number, subscription, event⟩

/-- The kinds that are to go to a channel. -/
def wanted (fanout : Fanout) (channel : Nat) : List EventType :=
  (fanout.subscriptions.filter (·.channel == channel)).map (·.kind)

theorem deliver_eq (event : Event) (fanout : Fanout) (subscription : Subscription) :
    fanout.deliver event subscription =
      { fanout with
        channels := fanout.channels.modify subscription.channel (·.offer event)
        counts := fanout.counts.note (fanout.verdict subscription.channel) } := by
  cases found : fanout.channels[subscription.channel]? with
  | none =>
    have beyond := List.getElem?_eq_none_iff.mp found
    simp [deliver, verdict, found, DeliveryCounts.note, List.modify_eq_self beyond]
  | some channel => simp [deliver, verdict, found, List.modify_eq_set_getElem?]

theorem receive_eq (fanout : Fanout) (channel : Nat) :
    fanout.receive channel =
      (fanout.channels[channel]?.bind (·.queue.head?),
        { fanout with channels := fanout.channels.modify channel (·.receive.2) }) := by
  cases found : fanout.channels[channel]? with
  | none =>
    have beyond := List.getElem?_eq_none_iff.mp found
    simp [receive, found, List.modify_eq_self beyond]
  | some channel => simp [receive, found, Channel.receive, List.modify_eq_set_getElem?]

theorem sends_subscription (fanout : Fanout) (reader : Nat) (event : Event) :
    (fanout.sends reader event).map (·.subscription) =
      fanout.subscriptions.filter (·.kind == event.kind) := by
  conv_rhs => rw [← List.zipIdx_map_fst 0 fanout.subscriptions, List.filter_map]
  simp [sends, Function.comp_def]

theorem mem_sends {fanout : Fanout} {reader : Nat} {event : Event} {send : Send}
    (listed : send ∈ fanout.sends reader event) :
    send.reader = reader ∧ send.event = event ∧
      fanout.subscriptions[send.number]? = some send.subscription := by
  simp only [sends, List.mem_map, List.mem_filter, Prod.exists] at listed
  obtain ⟨subscription, number, ⟨numbered, -⟩, rfl⟩ := listed
  exact ⟨rfl, rfl, List.mem_zipIdx_iff_getElem?.mp numbered⟩

end Fanout

/-- The fan-out at work. -/
structure Traffic where
  fanout : Fanout
  /-- What readers have still to offer, oldest first. -/
  pending : List Send
  /-- What was offered, and what became of it. -/
  made : List (Send × Delivery)
  /-- What came out of which channel. -/
  received : List (Nat × Event)
  deriving DecidableEq, Repr

namespace Traffic

inductive Step where
  | subscribe (kind : EventType) (channel : Nat)
  | record (reader : Nat) (kind : RecordKind) (data : Bytes)
  | send (reader channel : Nat)
  | receive (channel : Nat)
  | hangUp (channel : Nat)
  | lost (count : UInt64)
  deriving DecidableEq, Repr

def event? (kind : RecordKind) (data : Bytes) : Option Event :=
  match Event.decode kind data with
  | .ok event => event
  | .error _ => none

/-- A reader makes its next offer to a channel. The program takes the subscriptions in their order;
here a reader may offer to one channel before another, and read on before it is done. -/
def send (traffic : Traffic) (reader channel : Nat) : Traffic :=
  match traffic.pending.find? (·.isFrom reader channel) with
  | none => traffic
  | some send =>
    { traffic with
      fanout := traffic.fanout.deliver send.event send.subscription
      pending := traffic.pending.eraseP (·.isFrom reader channel)
      made := traffic.made ++ [(send, traffic.fanout.verdict channel)] }

def perform (traffic : Traffic) : Step → Traffic
  | .subscribe kind channel => { traffic with fanout := traffic.fanout.subscribe kind channel }
  | .record reader kind data =>
    { traffic with
      pending := traffic.pending ++ (event? kind data).toList.flatMap (traffic.fanout.sends reader) }
  | .send reader channel => traffic.send reader channel
  | .receive channel =>
    { traffic with
      fanout := (traffic.fanout.receive channel).2
      received :=
        traffic.received ++ (traffic.fanout.receive channel).1.toList.map (channel, ·) }
  | .hangUp channel => { traffic with fanout := traffic.fanout.hangUp channel }
  | .lost count => { traffic with fanout := traffic.fanout.recordLost count }

theorem send_cases (traffic : Traffic) (reader channel : Nat) :
    traffic.send reader channel = traffic ∨
      ∃ send, traffic.pending.find? (·.isFrom reader channel) = some send ∧
        send.reader = reader ∧ send.subscription.channel = channel ∧
        traffic.send reader channel =
          { traffic with
            fanout := traffic.fanout.deliver send.event send.subscription
            pending := traffic.pending.eraseP (·.isFrom reader channel)
            made := traffic.made ++ [(send, traffic.fanout.verdict channel)] } := by
  unfold Traffic.send
  split
  next => exact .inl rfl
  next send first =>
    obtain ⟨source, goal⟩ := Send.isFrom_iff.mp (List.find?_some first)
    exact .inr ⟨send, first, source, goal, rfl⟩

/-- Channels are there from the beginning; what matters is when they are subscribed. -/
def start (capacities : List Nat) : Traffic :=
  ⟨⟨capacities.map Channel.ofCapacity, [], .zero⟩, [], [], []⟩

def after (capacities : List Nat) (steps : List Step) : Traffic :=
  steps.foldl perform (start capacities)

@[simp] theorem after_nil (capacities : List Nat) : after capacities [] = start capacities :=
  rfl

theorem after_append (capacities : List Nat) (steps more : List Step) :
    after capacities (steps ++ more) = more.foldl perform (after capacities steps) := by
  simp [after]

theorem after_snoc (capacities : List Nat) (steps : List Step) (step : Step) :
    after capacities (steps ++ [step]) = (after capacities steps).perform step := by
  simp [after]

/-! ### Records without an event -/

/-- A record that cannot be read, or is not reported, tells of nothing. -/
def Step.tells : Step → Bool
  | .record _ kind data => (event? kind data).isSome
  | _ => true

theorem perform_of_not_tells {step : Step} (silent : step.tells = false) (traffic : Traffic) :
    traffic.perform step = traffic := by
  cases step <;> simp_all [Step.tells, perform]

theorem after_tells (capacities : List Nat) (steps : List Step) :
    after capacities (steps.filter (·.tells)) = after capacities steps := by
  induction steps using List.reverseRecOn with
  | nil => rfl
  | append_singleton steps step ih =>
    rw [List.filter_append, after_append, ih, after_snoc]
    cases telling : step.tells with
    | true => simp [telling]
    | false => simp [telling, perform_of_not_tells telling]

/-! ### Counters -/

def ended (traffic : Traffic) (outcome : Delivery) : Nat :=
  traffic.made.countP (·.2 == outcome)

structure Counted (traffic : Traffic) : Prop where
  delivered : traffic.fanout.counts.delivered = .ofNat (traffic.ended .delivered)
  dropped : traffic.fanout.counts.dropped = .ofNat (traffic.ended .full)

theorem Counted.send {traffic : Traffic} (counted : traffic.Counted) (reader channel : Nat) :
    (traffic.send reader channel).Counted := by
  rcases traffic.send_cases reader channel with same | ⟨send, -, -, goal, sent⟩
  · rwa [same]
  · rw [sent, Fanout.deliver_eq, goal]
    constructor <;> cases traffic.fanout.verdict channel <;>
      simp [DeliveryCounts.note, ended, counted.delivered, counted.dropped]

theorem counted_after (capacities : List Nat) (steps : List Step) :
    (after capacities steps).Counted := by
  induction steps using List.reverseRecOn with
  | nil => exact ⟨rfl, rfl⟩
  | append_singleton steps step ih =>
    rw [after_snoc]
    cases step with
    | send reader channel => exact ih.send reader channel
    | receive channel =>
      rw [perform, Fanout.receive_eq]
      exact ⟨ih.delivered, ih.dropped⟩
    | _ => exact ⟨ih.delivered, ih.dropped⟩

end Traffic

end Attribution
