import Attribution.Agent
import Attribution.Proofs.Fanout.Isolation

/-!
Calls that run to their end.

A call that brings a record makes all its offers before it returns.  Where no other call comes in between,
that is a run in which the reader makes them at once, in order of subscription.  Main statement: every run
of the fan-out is lawful; calls one after the other are such a run, with the same channels, subscriptions
and counters and the same events received; and so are the agent's own subscriptions, with whatever comes
after them.
-/

namespace Attribution

/-- The fan-out between two calls, and what has come out of which channel. -/
structure Exchange where
  fanout : Fanout
  received : List (Nat × Event)
  deriving DecidableEq, Repr

namespace Exchange

/-- One call.  A single offer is none; those of a record belong to its call. -/
def perform (exchange : Exchange) : Traffic.Step → Exchange
  | .subscribe kind channel => { exchange with fanout := exchange.fanout.subscribe kind channel }
  | .record _ kind data => { exchange with fanout := exchange.fanout.accept kind data }
  | .send _ _ => exchange
  | .receive channel =>
    { fanout := (exchange.fanout.receive channel).2
      received :=
        exchange.received ++ (exchange.fanout.receive channel).1.toList.map (channel, ·) }
  | .hangUp channel => { exchange with fanout := exchange.fanout.hangUp channel }
  | .lost count => { exchange with fanout := exchange.fanout.recordLost count }

end Exchange

namespace Traffic

def exchange (traffic : Traffic) : Exchange :=
  ⟨traffic.fanout, traffic.received⟩

def Step.isSend : Step → Bool
  | .send _ _ => true
  | _ => false

/-- The offers that a step calls for, one by one. -/
def sendsOf (traffic : Traffic) (step : Step) : List Step :=
  (traffic.issued step).map fun send => .send send.reader send.subscription.channel

/-- The run in which every reader makes the offers of a record at once. -/
def uninterrupted (capacities : List Nat) (steps : List Step) : List Step :=
  steps.foldl (fun finer step => finer ++ step :: (after capacities finer).sendsOf step) []

theorem uninterrupted_snoc (capacities : List Nat) (steps : List Step) (step : Step) :
    uninterrupted capacities (steps ++ [step]) = uninterrupted capacities steps ++
      step :: (after capacities (uninterrupted capacities steps)).sendsOf step := by
  simp [uninterrupted]

theorem filter_sendsOf (traffic : Traffic) (step : Step) :
    (traffic.sendsOf step).filter (!·.isSend) = [] := by
  rw [List.filter_eq_nil_iff]
  intro offer listed
  obtain ⟨send, -, rfl⟩ := List.mem_map.mp listed
  simp [Step.isSend]

theorem filter_uninterrupted (capacities : List Nat) (steps : List Step) :
    (uninterrupted capacities steps).filter (!·.isSend) = steps.filter (!·.isSend) := by
  induction steps using List.reverseRecOn with
  | nil => rfl
  | append_singleton steps step ih =>
    rw [uninterrupted_snoc, List.filter_append, List.filter_append, ih, List.append_right_inj,
      List.filter_cons, filter_sendsOf, List.filter_cons, List.filter_nil]

/-! ### One call -/

theorem send_all (sends : List Send) (traffic : Traffic) (holds : traffic.pending = sends) :
    let last := (sends.map fun send => Step.send send.reader send.subscription.channel).foldl perform
      traffic
    last.pending = [] ∧ last.received = traffic.received ∧
      last.fanout = sends.foldl (fun fanout send => fanout.deliver send.event send.subscription)
        traffic.fanout := by
  -- of what is held, the head is always the first of its reader to its channel
  induction sends generalizing traffic with
  | nil => exact ⟨holds, rfl, rfl⟩
  | cons send sends ih =>
    have first : send.isFrom send.reader send.subscription.channel = true :=
      Send.isFrom_iff.mpr ⟨rfl, rfl⟩
    have rest := ih (traffic.perform (.send send.reader send.subscription.channel))
      (by simp [perform, Traffic.send, holds, first])
    simpa [perform, Traffic.send, holds, first] using rest

theorem accept_eq (fanout : Fanout) (kind : RecordKind) (data : Bytes) :
    fanout.accept kind data = (event? kind data).elim fanout fanout.dispatch := by
  unfold Fanout.accept event?
  cases Event.decode kind data with
  | error => rfl
  | ok event => cases event <;> rfl

theorem dispatch_eq (fanout : Fanout) (reader : Nat) (event : Event) :
    fanout.dispatch event = (fanout.sends reader event).foldl
      (fun fanout send => fanout.deliver send.event send.subscription) fanout := by
  rw [Fanout.dispatch, ← Fanout.sends_subscription fanout reader, List.foldl_map]
  refine List.foldl_ext _ _ _ fun made send listed => ?_
  rw [(Fanout.mem_sends listed).2.1]

/-- A step whose offers are made at once is a call. -/
theorem perform_at_once (traffic : Traffic) (idle : traffic.pending = []) (step : Step) :
    let last := (step :: traffic.sendsOf step).foldl perform traffic
    last.pending = [] ∧ last.exchange = traffic.exchange.perform step := by
  cases step with
  | record reader kind data =>
    have all := send_all (traffic.issued (.record reader kind data))
      (traffic.perform (.record reader kind data)) (by simp [perform, issued, idle])
    refine ⟨all.1, ?_⟩
    simp only [exchange, Exchange.perform, Exchange.mk.injEq]
    refine ⟨all.2.2.trans ?_, all.2.1⟩
    rw [accept_eq, issued]
    cases told : event? kind data with
    | none => rfl
    | some event =>
      rw [Option.elim_some, dispatch_eq _ reader]
      simp [perform]
  | send reader channel =>
    have still : traffic.send reader channel = traffic := by simp [Traffic.send, idle]
    simp [sendsOf, issued, perform, still, idle, Exchange.perform]
  | _ => simp [sendsOf, issued, perform, idle, exchange, Exchange.perform]

/-! ### Whole runs -/

theorem reached (capacities : List Nat) (steps : List Step) :
    let last := after capacities (uninterrupted capacities steps)
    last.pending = [] ∧
      last.exchange = steps.foldl Exchange.perform (start capacities).exchange := by
  induction steps using List.reverseRecOn with
  | nil => exact ⟨rfl, rfl⟩
  | append_singleton steps step ih =>
    obtain ⟨idle, same⟩ := ih
    rw [uninterrupted_snoc, after_append, List.foldl_append, ← same]
    exact perform_at_once _ idle step

theorem TakeTurns.sends {capacities : List Nat} {of : Nat → Bool} {steps : List Step}
    (turns : TakeTurns capacities of steps) {offers : List Step}
    (none : ∀ reader kind data, Step.record reader kind data ∉ offers) :
    TakeTurns capacities of (steps ++ offers) := by
  induction offers using List.reverseRecOn with
  | nil => simpa using turns
  | append_singleton offers offer ih =>
    rw [← List.append_assoc]
    intro early reader kind data begins its
    rcases List.prefix_concat_iff.mp begins with whole | shorter
    · obtain ⟨rfl, arrived⟩ := List.append_inj' whole rfl
      exact absurd (by simp [List.singleton_inj.mp arrived]) (none reader kind data)
    · exact ih (fun _ _ _ listed => none _ _ _ (List.mem_append_left _ listed)) early reader kind
        data shorter its

theorem takeTurns_uninterrupted (capacities : List Nat) (steps : List Step) :
    TakeTurns capacities (fun _ => true) (uninterrupted capacities steps) := by
  induction steps using List.reverseRecOn with
  | nil => simp [TakeTurns, uninterrupted]
  | append_singleton steps step ih =>
    rw [uninterrupted_snoc, List.append_cons]
    apply TakeTurns.sends
    · intro early reader kind data begins its send held _
      rcases List.prefix_concat_iff.mp begins with whole | shorter
      · -- nothing is held when the last record arrives
        obtain ⟨rfl, -⟩ := List.append_inj' whole rfl
        rw [(reached capacities steps).1] at held
        exact absurd held List.not_mem_nil
      · exact ih early reader kind data shorter its send held rfl
    · intro reader kind data listed
      obtain ⟨send, -, other⟩ := List.mem_map.mp listed
      cases other

/-- Calls one after the other are a run: the one in which their offers are made at once. -/
structure Embedded (capacities : List Nat) (steps : List Step) : Prop where
  calls : (uninterrupted capacities steps).filter (!·.isSend) = steps.filter (!·.isSend)
  turns : TakeTurns capacities (fun _ => true) (uninterrupted capacities steps)
  idle : (after capacities (uninterrupted capacities steps)).pending = []
  same : (after capacities (uninterrupted capacities steps)).exchange =
    steps.foldl Exchange.perform (start capacities).exchange
  lawful : Lawful capacities (uninterrupted capacities steps)

theorem embedded (capacities : List Nat) (steps : List Step) : Embedded capacities steps where
  calls := filter_uninterrupted capacities steps
  turns := takeTurns_uninterrupted capacities steps
  idle := (reached capacities steps).1
  same := (reached capacities steps).2
  lawful := lawful capacities _

/-! ### The agent's channel -/

/-- A fan-out before anything is offered. -/
def ofFanout (fanout : Fanout) : Traffic :=
  ⟨fanout, [], [], []⟩

theorem ofFanout_subscribeAll {tracer : Tracer} (fresh : tracer.fanout = .empty) (capacity : Nat) :
    ofFanout (Agent.subscribeAll tracer capacity).fanout =
      after [capacity] (EventType.all.map (.subscribe · 0)) := by
  simp [Agent.subscribeAll, fresh, Fanout.empty, Fanout.addChannel, Fanout.subscribe, EventType.all,
    after, start, perform, ofFanout]

theorem follows_subscribeAll {tracer : Tracer} (fresh : tracer.fanout = .empty) (capacity : Nat)
    {steps : List Step} (once : ∀ kind, Step.subscribe kind 0 ∉ steps) (reader : Nat) :
    (steps.foldl perform (ofFanout (Agent.subscribeAll tracer capacity).fanout)).Follows
      (·.isFrom reader 0) (arrivals (· == reader) steps) := by
  rw [ofFanout_subscribeAll fresh, ← after_append]
  exact (lawful [capacity] _).funnel [] 0 steps rfl once reader

/-- However subscriptions, records, offers, receivers and lost samples come between each other, the run
is lawful.  Calls that are not interrupted are one of the runs, and the agent's channel gets what arrives
at each reader once and in order. -/
theorem fanout_lawful (capacities : List Nat) (steps : List Step) :
    Lawful capacities steps ∧ Embedded capacities steps ∧
      ∀ tracer capacity, tracer.fanout = .empty → (∀ kind, Step.subscribe kind 0 ∉ steps) →
        ∀ reader, (steps.foldl perform (ofFanout (Agent.subscribeAll tracer capacity).fanout)).Follows
          (·.isFrom reader 0) (arrivals (· == reader) steps) :=
  ⟨lawful capacities steps, embedded capacities steps,
    fun _ capacity fresh once reader => follows_subscribeAll fresh capacity once reader⟩

def processRecord (kind : EventType) (pid : UInt32) : Bytes :=
  ProcRecord.encode ⟨kind.tag, pid, 0⟩

/-- Two readers, and three receivers of starts: one is slow, one takes exits too, one has gone. -/
def crowd : List Step :=
  [.subscribe .processStart 0, .subscribe .processStart 1, .subscribe .processStart 2, .hangUp 2,
    .record 0 .proc (processRecord .processStart 1), .record 1 .proc (processRecord .processStart 2),
    .record 1 .proc [], .receive 1, .subscribe .processExit 1,
    .record 0 .proc (processRecord .processExit 1), .receive 1, .receive 0,
    .record 1 .proc (processRecord .processStart 3)]

/-- What arrives second at the agent is offered first. -/
def racing : List Step :=
  [.record 0 .proc (processRecord .processStart 1), .record 1 .proc (processRecord .processStart 2),
    .send 1 0, .send 0 0, .record 0 .proc (processRecord .processExit 1), .send 0 0]

def idleTracer : Tracer :=
  ⟨false, 0, [], [], [], .empty⟩

theorem crowd_and_racing_lawful :
    (let last := crowd.foldl Exchange.perform (start [1, 4, 2]).exchange
     let finer := after [1, 4, 2] (uninterrupted [1, 4, 2] crowd)
     last.fanout.counts = ⟨6, 1, 0⟩ ∧
      last.received.map (fun (channel, event) => (channel, event.pid)) = [(1, 1), (1, 2), (0, 1)] ∧
      finer.exchange = last ∧ (finer.got (through 0 fun _ => true)).map (·.pid) = [1, 3] ∧
      ∃ events, finer.Follows (through 0 fun _ => true) events ∧ events.map (·.pid) = [1, 2, 3]) ∧
      (let traffic := racing.foldl perform (ofFanout (Agent.subscribeAll idleTracer 8).fanout)
       (traffic.got (·.isTo 0)).map (·.pid) = [2, 1, 1] ∧
        traffic.Follows (·.isFrom 0 0) (arrivals (· == 0) racing)) := by
  obtain ⟨-, embedded, -⟩ := fanout_lawful [1, 4, 2] crowd
  have splits : uninterrupted [1, 4, 2] crowd =
      [] ++ .subscribe .processStart 0 :: (uninterrupted [1, 4, 2] crowd).tail := by decide +kernel
  have follows := embedded.lawful.ordered embedded.turns [] .processStart 0 _ splits
  have once (kind : EventType) : Step.subscribe kind 0 ∉ racing := by simp [racing]
  have racers := (fanout_lawful [] racing).2.2 idleTracer 8 rfl once 0
  exact ⟨⟨by decide +kernel, by decide +kernel, embedded.same, by decide +kernel, _, follows,
    by decide +kernel⟩, by decide +kernel, racers⟩

end Traffic

end Attribution
