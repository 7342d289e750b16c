import Attribution.Proofs.Fanout.Order

/-!
One channel by itself.

What a channel is offered, holds and gives out follows from the records, from the subscriptions and
offers to it, and from its own receiver.  The rest can be left out of a run, or be different.  Main
statement: in every run, offers are exact and in order, and channels, counters and silent records are
as they should be.
-/

namespace Attribution

theorem Channel.offer_of_refused {channel : Channel} {event : Event}
    (refused : channel.delivery ≠ .delivered) : channel.offer event = channel := by
  unfold offer
  split
  next taken => exact absurd taken refused
  next => rfl

/-- What there is to see of one channel. -/
structure Line where
  wanted : List EventType
  channel : Option Channel
  /-- What readers have still to offer to it. -/
  pending : List (Nat × Event)
  made : List ((Nat × Event) × Delivery)
  received : List Event
  deriving DecidableEq, Repr

namespace Line

/-- A step that has to do with the channel. -/
def perform (line : Line) : Traffic.Step → Line
  | .subscribe kind _ => { line with wanted := line.wanted ++ [kind] }
  | .record reader kind data =>
    { line with
      pending := line.pending ++ (Traffic.event? kind data).toList.flatMap fun event =>
        (line.wanted.filter (· == event.kind)).map fun _ => (reader, event) }
  | .send reader _ =>
    match line.pending.find? (·.1 == reader) with
    | none => line
    | some held =>
      { line with
        channel := line.channel.map (·.offer held.2)
        pending := line.pending.eraseP (·.1 == reader)
        made := line.made ++ [(held, line.channel.elim .closed Channel.delivery)] }
  | .receive _ =>
    { line with
      channel := line.channel.map (·.receive.2)
      received := line.received ++ (line.channel.bind (·.queue.head?)).toList }
  | .hangUp _ => { line with channel := line.channel.map Channel.hangUp }
  | .lost _ => line

def got (line : Line) : List Event :=
  (line.made.filter (·.2 == .delivered)).map (·.1.2)

/-- A channel of a capacity, whose receiver has gone or not: what got through was received or waits,
if it did not go with the receiver. -/
def Keeps (line : Line) (capacity : Nat) (gone : Bool) : Prop :=
  ∃ waiting, line.got = line.received ++ waiting ∧
    line.channel = some ⟨capacity, if gone then [] else waiting, !gone⟩

namespace Keeps

variable {line : Line} {capacity : Nat} {gone : Bool}

theorem send (keeps : line.Keeps capacity gone) (reader channel : Nat) :
    (line.perform (.send reader channel)).Keeps capacity gone := by
  obtain ⟨waiting, got, stands⟩ := keeps
  simp only [Line.perform]
  cases line.pending.find? (·.1 == reader) with
  | none => exact ⟨waiting, got, stands⟩
  | some held =>
    by_cases through :
        Channel.delivery ⟨capacity, if gone then [] else waiting, !gone⟩ = .delivered
    · -- only a channel that is open takes it
      have stays : gone = false := by
        cases gone with
        | true => simp [Channel.delivery] at through
        | false => rfl
      subst stays
      simp only [Bool.false_eq_true, ↓reduceIte, Bool.not_false] at through stands
      rw [Line.got] at got
      refine ⟨waiting ++ [held.2], ?_, ?_⟩
      · simp [Line.got, stands, through, got]
      · simp [stands, Channel.offer, through]
    · refine ⟨waiting, ?_, ?_⟩
      · simpa [Line.got, stands, through] using got
      · simp [stands, Channel.offer_of_refused through]

theorem receive (keeps : line.Keeps capacity gone) (channel : Nat) :
    (line.perform (.receive channel)).Keeps capacity gone := by
  obtain ⟨waiting, got, stands⟩ := keeps
  cases gone with
  | true => exact ⟨waiting, by simpa [Line.perform, Line.got, stands] using got, by
      simp [Line.perform, stands, Channel.receive]⟩
  | false =>
    refine ⟨waiting.tail, ?_, by simp [Line.perform, stands, Channel.receive]⟩
    refine got.trans ?_
    cases waiting <;> simp [Line.perform, stands]

theorem hangUp (keeps : line.Keeps capacity gone) (channel : Nat) :
    (line.perform (.hangUp channel)).Keeps capacity true := by
  obtain ⟨waiting, got, stands⟩ := keeps
  exact ⟨waiting, got, by simp [Line.perform, stands, Channel.hangUp]⟩

end Keeps

end Line

namespace Traffic

def Step.concerns (channel : Nat) : Step → Bool
  | .subscribe _ chosen | .send _ chosen | .receive chosen | .hangUp chosen => chosen == channel
  | .record _ _ _ => true
  | .lost _ => false

def line (traffic : Traffic) (channel : Nat) : Line where
  wanted := traffic.fanout.wanted channel
  channel := traffic.fanout.channels[channel]?
  pending := (traffic.pending.filter (·.isTo channel)).map fun send => (send.reader, send.event)
  made := (traffic.made.filter (·.1.isTo channel)).map fun (send, outcome) =>
    ((send.reader, send.event), outcome)
  received := (traffic.received.filter (·.1 == channel)).map (·.2)

theorem line_send (traffic : Traffic) (reader channel : Nat) :
    (traffic.send reader channel).line channel =
      (traffic.line channel).perform (.send reader channel) := by
  -- looking among those to the channel finds what looking among all finds
  have sought : (traffic.line channel).pending.find? (·.1 == reader) =
      (traffic.pending.find? (·.isFrom reader channel)).map fun send => (send.reader, send.event) := by
    simp only [line, List.find?_map, List.find?_filter, Function.comp_def]
    congr 2
    funext send
    rw [Bool.decide_and, Bool.decide_coe, Bool.decide_coe, Bool.and_comm]
    rfl
  have kept : (traffic.line channel).pending.eraseP (·.1 == reader) =
      ((traffic.pending.eraseP (·.isFrom reader channel)).filter (·.isTo channel)).map
        fun send => (send.reader, send.event) := by
    simp [line, List.eraseP_map, List.eraseP_filter, Function.comp_def, Send.isFrom, Send.isAmong]
  cases found : traffic.pending.find? (·.isFrom reader channel) with
  | none => simp [Traffic.send, Line.perform, sought, found]
  | some send =>
    obtain ⟨rfl, rfl⟩ := Send.isFrom_iff.mp (List.find?_some found)
    simp only [Line.perform, sought, found, kept, Option.map_some]
    simp [Traffic.send, found, line, Fanout.deliver_eq, Fanout.wanted, Send.isTo, Fanout.verdict]

theorem line_send_of_ne (traffic : Traffic) (reader : Nat) {channel other : Nat}
    (differs : other ≠ channel) : (traffic.send reader other).line channel = traffic.line channel := by
  rcases traffic.send_cases reader other with same | ⟨send, first, -, goal, sent⟩
  · rw [same]
  · have astray : send.isTo channel = false := by simpa [Send.isTo, goal] using differs
    have kept : traffic.pending.filter (·.isTo channel) = [send].filter (·.isTo channel) ++
        (traffic.pending.eraseP (·.isFrom reader other)).filter (·.isTo channel) :=
      filter_eraseP first fun chosen => absurd chosen (by simp [astray])
    simp [sent, line, Fanout.deliver_eq, goal, Fanout.wanted, List.getElem?_modify_ne, differs,
      astray, kept]

theorem issued_to (traffic : Traffic) (reader : Nat) (kind : RecordKind) (data : Bytes)
    (channel : Nat) :
    ((traffic.issued (.record reader kind data)).filter (·.isTo channel)).map
        (fun send => (send.reader, send.event)) =
      (event? kind data).toList.flatMap fun event =>
        ((traffic.fanout.wanted channel).filter (· == event.kind)).map fun _ => (reader, event) := by
  cases told : event? kind data with
  | none => simp [issued, told]
  | some event => simp only [issued, told, Option.toList_some, List.flatMap_singleton, Fanout.sends_to]

theorem line_perform {channel : Nat} {step : Step} (own : step.concerns channel = true)
    (traffic : Traffic) : (traffic.perform step).line channel = (traffic.line channel).perform step := by
  cases step with
  | subscribe kind chosen =>
    obtain rfl := beq_iff_eq.mp own
    simp [line, perform, Line.perform, Fanout.subscribe, Fanout.wanted]
  | record reader kind data =>
    have told := issued_to traffic reader kind data channel
    simp only [issued] at told
    simp only [line, perform, Line.perform, List.filter_append, List.map_append, told]
  | send reader chosen =>
    obtain rfl := beq_iff_eq.mp own
    exact line_send traffic reader chosen
  | receive chosen =>
    obtain rfl := beq_iff_eq.mp own
    cases oldest : traffic.fanout.channels[chosen]?.bind (·.queue.head?) <;>
      simp [line, perform, Line.perform, Fanout.receive_eq, Fanout.wanted, oldest]
  | hangUp chosen =>
    obtain rfl := beq_iff_eq.mp own
    simp [line, perform, Line.perform, Fanout.hangUp, Fanout.wanted]
  | lost count => rfl

theorem line_perform_of_not {channel : Nat} {step : Step} (foreign : step.concerns channel = false)
    (traffic : Traffic) : (traffic.perform step).line channel = traffic.line channel := by
  cases step with
  | subscribe kind chosen =>
    have differs : chosen ≠ channel := by simpa [Step.concerns] using foreign
    simp [line, perform, Fanout.subscribe, Fanout.wanted, differs]
  | record reader kind data => simp [Step.concerns] at foreign
  | send reader chosen =>
    exact line_send_of_ne traffic reader (by simpa [Step.concerns] using foreign)
  | receive chosen =>
    have differs : chosen ≠ channel := by simpa [Step.concerns] using foreign
    simp [line, perform, Fanout.receive_eq, Fanout.wanted, List.getElem?_modify_ne, differs]
  | hangUp chosen =>
    have differs : chosen ≠ channel := by simpa [Step.concerns] using foreign
    simp [line, perform, Fanout.hangUp, Fanout.wanted, List.getElem?_modify_ne, differs]
  | lost count => rfl

/-- What there is to see of a channel is a run of its own. -/
theorem line_after (capacities : List Nat) (steps : List Step) (channel : Nat) :
    (after capacities steps).line channel =
      (steps.filter (·.concerns channel)).foldl Line.perform ((start capacities).line channel) := by
  induction steps using List.reverseRecOn with
  | nil => rfl
  | append_singleton steps step ih =>
    rw [after_snoc, List.filter_append, List.foldl_append, ← ih]
    cases own : step.concerns channel with
    | true => simp [own, line_perform own]
    | false => simp [own, line_perform_of_not own]

theorem line_isolated {capacities others : List Nat} {channel : Nat}
    (same : others[channel]? = capacities[channel]?) (steps : List Step) :
    (after others (steps.filter (·.concerns channel))).line channel =
      (after capacities steps).line channel := by
  have alike : (start others).line channel = (start capacities).line channel := by
    simp [start, line, Fanout.wanted, same]
  rw [line_after, line_after, alike, List.filter_filter]
  simp

/-! ### What one channel keeps -/

theorem keeps_after {capacities : List Nat} {channel capacity : Nat}
    (known : capacities[channel]? = some capacity) (steps : List Step) :
    ((after capacities steps).line channel).Keeps capacity (steps.contains (.hangUp channel)) := by
  induction steps using List.reverseRecOn with
  | nil => exact ⟨[], rfl, by simp [start, line, known, Channel.ofCapacity]⟩
  | append_singleton steps step ih =>
    rw [after_snoc]
    cases own : step.concerns channel with
    | false =>
      -- a step that has to do with another channel is no end of this one
      rw [line_perform_of_not own]
      have stays : step ≠ .hangUp channel := by
        intro same
        simp [Step.concerns, same] at own
      simpa [stays.symm] using ih
    | true =>
      rw [line_perform own]
      cases step with
      | send reader chosen => simpa using ih.send reader chosen
      | receive chosen => simpa using ih.receive chosen
      | hangUp chosen =>
        obtain rfl := beq_iff_eq.mp own
        simpa using ih.hangUp chosen
      | lost => simp [Step.concerns] at own
      | _ => simpa [Line.perform, Line.Keeps, Line.got] using ih

theorem got_line (traffic : Traffic) (channel : Nat) :
    (traffic.line channel).got = traffic.got (Send.isTo channel) := by
  simp [Line.got, got, line, List.filter_map, List.filter_filter, Function.comp_def, Bool.and_comm]

theorem made_send {capacities : List Nat} {channel capacity : Nat}
    (known : capacities[channel]? = some capacity) {steps : List Step} {reader : Nat} {send : Send}
    (first : (after capacities steps).pending.find? (·.isFrom reader channel) = some send) :
    (after capacities (steps ++ [.send reader channel])).made = (after capacities steps).made ++
      [(send,
        if .hangUp channel ∈ steps then .closed
        else if ((after capacities steps).got (Send.isTo channel)).length <
          ((after capacities steps).line channel).received.length + capacity then .delivered
        else .full)] := by
  obtain ⟨waiting, got, stands⟩ := keeps_after known steps
  have found : (after capacities steps).fanout.channels[channel]? = _ := stands
  rw [got_line] at got
  rw [after_snoc]
  have waits : waiting.length < capacity ↔
      ((after capacities steps).got (Send.isTo channel)).length <
        ((after capacities steps).line channel).received.length + capacity := by
    rw [got, List.length_append]
    omega
  have verdict : (after capacities steps).fanout.verdict channel =
      if .hangUp channel ∈ steps then .closed
      else if waiting.length < capacity then .delivered else .full := by
    rw [Fanout.verdict, found]
    by_cases gone : Step.hangUp channel ∈ steps <;> simp [Channel.delivery, gone]
  simp only [perform, Traffic.send, first, verdict, waits]

/-- What a run of the fan-out comes to. -/
structure Lawful (capacities : List Nat) (steps : List Step) : Prop where
  /-- A subscription is offered the events of its kind that arrive at a reader after it was made. -/
  exact : ∀ before kind channel later, steps = before ++ .subscribe kind channel :: later →
    ∀ reader, (after capacities steps).Follows
      (through (after capacities before).fanout.subscriptions.length (· == reader))
      ((arrivals (· == reader) later).filter (·.kind == kind))
  /-- Where readers take turns, so are the events of them all. -/
  ordered : TakeTurns capacities (fun _ => true) steps →
    ∀ before kind channel later, steps = before ++ .subscribe kind channel :: later →
      (after capacities steps).Follows
        (through (after capacities before).fanout.subscriptions.length fun _ => true)
        ((arrivals (fun _ => true) later).filter (·.kind == kind))
  /-- An offer gets through if the channel is open and has room. -/
  judged : ∀ channel capacity, capacities[channel]? = some capacity → ∀ reader send,
    (after capacities steps).pending.find? (·.isFrom reader channel) = some send →
      (after capacities (steps ++ [.send reader channel])).made = (after capacities steps).made ++
        [(send,
          if .hangUp channel ∈ steps then .closed
          else if ((after capacities steps).got (Send.isTo channel)).length <
            ((after capacities steps).line channel).received.length + capacity then .delivered
          else .full)]
  /-- What got through to a channel was received in that order, or waits, or went with the receiver. -/
  kept : ∀ channel capacity, capacities[channel]? = some capacity → ∃ waiting,
    (after capacities steps).got (Send.isTo channel) =
        ((after capacities steps).line channel).received ++ waiting ∧
      (after capacities steps).fanout.channels[channel]? =
        some ⟨capacity, if .hangUp channel ∈ steps then [] else waiting, .hangUp channel ∉ steps⟩
  /-- Without the subscriptions, offers and receivers of the other channels, and with other capacities
  of theirs, a channel fares the same. -/
  isolated : ∀ channel others, others[channel]? = capacities[channel]? →
    (after others (steps.filter (·.concerns channel))).line channel =
      (after capacities steps).line channel
  /-- Records that cannot be read, or are not reported, change nothing. -/
  silent : after capacities (steps.filter (·.tells)) = after capacities steps
  counted : (after capacities steps).Counted
  /-- A channel that was subscribed once to every kind is offered all that arrives at a reader after
  that. -/
  funnel : ∀ early channel later,
    steps = early ++ EventType.all.map (.subscribe · channel) ++ later →
      (∀ kind, Step.subscribe kind channel ∉ early ++ later) → ∀ reader,
        (after capacities steps).Follows (·.isFrom reader channel) (arrivals (· == reader) later)
  /-- Where readers take turns, it is offered all that arrives. -/
  merged : TakeTurns capacities (fun _ => true) steps → ∀ early channel later,
    steps = early ++ EventType.all.map (.subscribe · channel) ++ later →
      (∀ kind, Step.subscribe kind channel ∉ early ++ later) →
        (after capacities steps).Follows (·.isTo channel) (arrivals (fun _ => true) later)

theorem lawful (capacities : List Nat) (steps : List Step) : Lawful capacities steps where
  exact := by
    intro before kind channel later splits reader
    subst splits
    exact follows_of_offers
      (offers_through before kind channel later (takeTurns_one capacities reader _))
  ordered := by
    intro turns before kind channel later splits
    subst splits
    exact follows_of_offers (offers_through before kind channel later turns)
  judged := fun channel capacity known reader send first => made_send known first
  kept := by
    intro channel capacity known
    obtain ⟨waiting, got, stands⟩ := keeps_after known steps
    refine ⟨waiting, (got_line _ channel).symm.trans got, ?_⟩
    have found : (after capacities steps).fanout.channels[channel]? = _ := stands
    simpa using found
  isolated := fun channel others same => line_isolated same steps
  silent := after_tells capacities steps
  counted := counted_after capacities steps
  funnel := by
    intro early channel later splits once reader
    subst splits
    exact follows_of_offers (offers_among once (takeTurns_one capacities reader _))
  merged := by
    intro turns early channel later splits once
    subst splits
    exact follows_of_offers (offers_among once turns)

end Traffic

end Attribution
