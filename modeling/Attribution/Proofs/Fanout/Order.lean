import Attribution.Proofs.Fanout.Traffic

/-!
Which events are offered to a subscription, and in which order.

A reader holds its offers to a channel in the order of its records, and a step only moves the first of
them from those held to those made.  So made and held together change with new records alone, and at
the end.
-/

namespace Attribution

theorem filter_zipIdx {α : Type} (list : List α) (number : Nat) :
    list.zipIdx.filter (·.2 == number) = (list[number]?.map (·, number)).toList := by
  induction list using List.reverseRecOn with
  | nil => rfl
  | append_singleton list item ih =>
    rw [List.zipIdx_append, List.filter_append, ih]
    rcases Nat.lt_trichotomy number list.length with inside | rfl | beyond
    · simp [List.getElem?_append_left inside, Nat.ne_of_gt inside]
    · simp
    · have absent : list[number]? = none := List.getElem?_eq_none (Nat.le_of_lt beyond)
      have still : (list ++ [item])[number]? = none :=
        List.getElem?_eq_none (Nat.le_trans (Nat.le_of_eq List.length_append) beyond)
      simp [absent, still, Nat.ne_of_lt beyond]

theorem filter_eraseP {α : Type} {found which : α → Bool} {list : List α} {first : α}
    (least : list.find? found = some first)
    (together : which first = true → ∀ item ∈ list, which item = true → found item = true) :
    list.filter which = [first].filter which ++ (list.eraseP found).filter which := by
  obtain ⟨holds, before, later, rfl, fails⟩ := List.find?_eq_some_iff_append.mp least
  simp only [Bool.not_eq_true'] at fails
  rw [List.eraseP_append_right _ (by simpa using fails), List.eraseP_cons_of_pos holds]
  cases selected : which first with
  | false => simp [selected]
  | true =>
    have none : before.filter which = [] := by
      refine List.filter_eq_nil_iff.mpr fun item listed chosen => ?_
      have found := together selected item (by simp [listed]) chosen
      simp [fails item listed] at found
    simp [selected, none]

theorem EventType.filter_all (kind : EventType) : all.filter (· == kind) = [kind] := by
  cases kind <;> rfl

namespace Fanout

theorem sends_through (fanout : Fanout) (reader : Nat) (event : Event) {number : Nat}
    {subscription : Subscription} (numbered : fanout.subscriptions[number]? = some subscription) :
    (fanout.sends reader event).filter (·.number == number) =
      if subscription.kind = event.kind then [⟨reader, number, subscription, event⟩] else [] := by
  have picked : (fanout.subscriptions.zipIdx.filter (·.1.kind == event.kind)).filter
      (·.2 == number) = [(subscription, number)].filter (·.1.kind == event.kind) := by
    rw [List.filter_comm, filter_zipIdx, numbered]
    rfl
  rw [sends, List.filter_map]
  simp only [Function.comp_def, picked]
  by_cases wants : subscription.kind = event.kind <;> simp [wants]

theorem sends_to (fanout : Fanout) (reader : Nat) (event : Event) (channel : Nat) :
    ((fanout.sends reader event).filter (·.isTo channel)).map (fun send => (send.reader, send.event)) =
      ((fanout.wanted channel).filter (· == event.kind)).map fun _ => (reader, event) := by
  have same : ∀ send ∈ (fanout.sends reader event).filter (·.isTo channel),
      (send.reader, send.event) = (reader, event) := by
    intro send listed
    obtain ⟨source, told, -⟩ := mem_sends (List.mem_filter.mp listed).1
    rw [source, told]
  have picked : ((fanout.sends reader event).filter (·.isTo channel)).map (·.subscription) =
      (fanout.subscriptions.filter (·.kind == event.kind)).filter (·.channel == channel) := by
    rw [← sends_subscription fanout reader, List.filter_map]
    rfl
  calc
    _ = ((fanout.sends reader event).filter (·.isTo channel)).map fun _ => (reader, event) :=
      List.map_congr_left same
    _ = (((fanout.sends reader event).filter (·.isTo channel)).map (·.subscription)).map
        fun _ => (reader, event) := by rw [List.map_map]; rfl
    _ = _ := by
      rw [picked, List.filter_comm, wanted, List.filter_map, List.map_map]
      rfl

end Fanout

namespace Traffic

def sends (traffic : Traffic) : List Send :=
  traffic.made.map (·.1) ++ traffic.pending

def offers (traffic : Traffic) (which : Send → Bool) : List Event :=
  (traffic.sends.filter which).map (·.event)

/-- What a step adds to what is to be offered. -/
def issued (traffic : Traffic) : Step → List Send
  | .record reader kind data => (event? kind data).toList.flatMap (traffic.fanout.sends reader)
  | _ => []

theorem subscriptions_perform (traffic : Traffic) (step : Step) :
    (traffic.perform step).fanout.subscriptions = traffic.fanout.subscriptions ++
      match step with
      | .subscribe kind channel => [⟨kind, channel⟩]
      | _ => [] := by
  cases step with
  | send reader channel =>
    rcases traffic.send_cases reader channel with same | ⟨send, -, -, -, sent⟩
    · simp [perform, same]
    · simp [perform, sent, Fanout.deliver_eq]
  | receive channel => simp [perform, Fanout.receive_eq]
  | _ => simp [perform, Fanout.subscribe, Fanout.hangUp, Fanout.recordLost]

/-- Whether those held of a kind all go from one reader to one channel. -/
def Single (traffic : Traffic) (which : Send → Bool) : Prop :=
  ∀ one ∈ traffic.pending, ∀ other ∈ traffic.pending, which one = true → which other = true →
    one.reader = other.reader ∧ one.subscription.channel = other.subscription.channel

theorem filter_sends_perform {traffic : Traffic} {which : Send → Bool}
    (single : traffic.Single which) (step : Step) :
    (traffic.perform step).sends.filter which =
      traffic.sends.filter which ++ (traffic.issued step).filter which := by
  cases step with
  | record reader kind data => simp [perform, sends, issued]
  | send reader channel =>
    rcases traffic.send_cases reader channel with same | ⟨send, first, source, goal, sent⟩
    · simp [perform, same, issued]
    · -- the first of those to this channel is the first of its kind
      have moved := filter_eraseP first fun chosen other listed likewise => by
        have same := single other listed send (List.mem_of_find?_eq_some first) likewise chosen
        exact Send.isFrom_iff.mpr ⟨same.1.trans source, same.2.trans goal⟩
      simp only [perform, sent, issued, sends, List.map_append, List.filter_append,
        List.append_assoc, List.filter_nil, List.append_nil]
      rw [moved]
      rfl
  | _ => simp [perform, sends, issued]

theorem offers_perform {traffic : Traffic} {which : Send → Bool} (single : traffic.Single which)
    (step : Step) :
    (traffic.perform step).offers which =
      traffic.offers which ++ ((traffic.issued step).filter which).map (·.event) := by
  rw [offers, offers, filter_sends_perform single, List.map_append]

theorem mem_issued {traffic : Traffic} {step : Step} {send : Send}
    (told : send ∈ traffic.issued step) :
    (∃ kind data, step = .record send.reader kind data) ∧
      traffic.fanout.subscriptions[send.number]? = some send.subscription := by
  cases step with
  | record reader kind data =>
    obtain ⟨event, -, told⟩ := List.mem_flatMap.mp told
    obtain ⟨rfl, -, numbered⟩ := Fanout.mem_sends told
    exact ⟨⟨kind, data, rfl⟩, numbered⟩
  | _ => simp [issued] at told

theorem mem_pending_perform {traffic : Traffic} {step : Step} {send : Send}
    (listed : send ∈ (traffic.perform step).pending) :
    send ∈ traffic.pending ∨ send ∈ traffic.issued step := by
  cases step with
  | record reader kind data => exact List.mem_append.mp listed
  | send reader channel =>
    rcases traffic.send_cases reader channel with same | ⟨send, -, -, -, sent⟩
    · exact .inl (same ▸ listed)
    · rw [perform, sent] at listed
      exact .inl (List.mem_of_mem_eraseP listed)
  | _ => exact .inl listed

theorem mem_made_perform {traffic : Traffic} {step : Step} {send : Send}
    (listed : send ∈ (traffic.perform step).made.map (·.1)) : send ∈ traffic.sends := by
  cases step with
  | send reader channel =>
    rcases traffic.send_cases reader channel with same | ⟨first, found, -, -, sent⟩
    · exact List.mem_append_left _ (same ▸ listed)
    · simp only [perform, sent, List.map_append, List.map_cons, List.map_nil, List.mem_append,
        List.mem_singleton] at listed
      rcases listed with made | rfl
      · exact List.mem_append_left _ made
      · exact List.mem_append_right _ (List.mem_of_find?_eq_some found)
  | _ => exact List.mem_append_left _ listed

theorem numbered_after (capacities : List Nat) (steps : List Step) :
    ∀ send ∈ (after capacities steps).sends,
      (after capacities steps).fanout.subscriptions[send.number]? = some send.subscription := by
  induction steps using List.reverseRecOn with
  | nil => simp [start, sends]
  | append_singleton steps step ih =>
    intro send listed
    rw [after_snoc] at listed
    have known : (after capacities steps).fanout.subscriptions[send.number]? =
        some send.subscription := by
      rcases List.mem_append.mp listed with made | held
      · exact ih send (mem_made_perform made)
      · rcases mem_pending_perform held with old | new
        · exact ih send (List.mem_append_right _ old)
        · exact (mem_issued new).2
    rw [after_snoc, subscriptions_perform]
    exact (List.getElem?_append_left (List.getElem?_eq_some_iff.mp known).1).trans known

/-! ### One subscription -/

def Step.arrival? (of : Nat → Bool) : Step → Option Event
  | .record reader kind data => if of reader then event? kind data else none
  | _ => none

/-- The events that arrive at some readers, in that order. -/
def arrivals (of : Nat → Bool) (steps : List Step) : List Event :=
  steps.filterMap (Step.arrival? of)

theorem arrivals_snoc (of : Nat → Bool) (steps : List Step) (step : Step) :
    arrivals of (steps ++ [step]) = arrivals of steps ++ (step.arrival? of).toList := by
  cases told : step.arrival? of <;> simp [arrivals, told]

/-- Nothing arrives at one of some readers while another of them has offers to make. -/
def TakeTurns (capacities : List Nat) (of : Nat → Bool) (steps : List Step) : Prop :=
  ∀ early reader kind data, early ++ [.record reader kind data] <+: steps → of reader = true →
    ∀ send ∈ (after capacities early).pending, of send.reader = true → send.reader = reader

theorem takeTurns_one (capacities : List Nat) (reader : Nat) (steps : List Step) :
    TakeTurns capacities (· == reader) steps := by
  intro early arrived kind data _ its send _ theirs
  simp_all

theorem TakeTurns.initial {capacities : List Nat} {of : Nat → Bool} {steps more : List Step}
    (turns : TakeTurns capacities of (steps ++ more)) : TakeTurns capacities of steps :=
  fun early reader kind data begins =>
    turns early reader kind data (begins.trans (List.prefix_append steps more))

theorem TakeTurns.alone {capacities : List Nat} {of : Nat → Bool} {steps : List Step}
    (turns : TakeTurns capacities of steps) :
    ∀ one ∈ (after capacities steps).pending, ∀ other ∈ (after capacities steps).pending,
      of one.reader = true → of other.reader = true → one.reader = other.reader := by
  induction steps using List.reverseRecOn with
  | nil => simp [start]
  | append_singleton steps step ih =>
    rw [after_snoc]
    -- what a record adds, against what is held when it arrives
    have meets : ∀ new ∈ (after capacities steps).issued step,
        ∀ old ∈ (after capacities steps).pending,
          of new.reader = true → of old.reader = true → old.reader = new.reader := by
      intro new told old held its theirs
      obtain ⟨⟨kind, data, rfl⟩, -⟩ := mem_issued told
      exact turns steps new.reader kind data List.prefix_rfl its old held theirs
    intro one first other second its theirs
    rcases mem_pending_perform first with oneHeld | oneNew <;>
      rcases mem_pending_perform second with otherHeld | otherNew
    · exact ih turns.initial one oneHeld other otherHeld its theirs
    · exact meets other otherNew one oneHeld theirs its
    · exact (meets one oneNew other otherHeld its theirs).symm
    · obtain ⟨⟨kind, data, arrived⟩, -⟩ := mem_issued oneNew
      obtain ⟨⟨_, _, same⟩, -⟩ := mem_issued otherNew
      exact (Step.record.inj (arrived.symm.trans same)).1

def through (number : Nat) (of : Nat → Bool) (send : Send) : Bool :=
  send.number == number && of send.reader

theorem TakeTurns.single {capacities : List Nat} {of : Nat → Bool} {steps : List Step}
    (turns : TakeTurns capacities of steps) (number : Nat) :
    (after capacities steps).Single (through number of) := by
  intro one first other second its theirs
  simp only [through, Bool.and_eq_true, beq_iff_eq] at its theirs
  have numbered := numbered_after capacities steps
  have same := numbered one (List.mem_append_right _ first)
  rw [its.1, ← theirs.1, numbered other (List.mem_append_right _ second), Option.some_inj] at same
  exact ⟨turns.alone one first other second its.2 theirs.2, by rw [same]⟩

theorem issued_through {traffic : Traffic} {number : Nat} {subscription : Subscription}
    (numbered : traffic.fanout.subscriptions[number]? = some subscription) (of : Nat → Bool)
    (step : Step) :
    ((traffic.issued step).filter (through number of)).map (·.event) =
      (step.arrival? of).toList.filter (·.kind == subscription.kind) := by
  cases step with
  | record reader kind data =>
    cases told : event? kind data with
    | none => simp [issued, Step.arrival?, told]
    | some event =>
      have split : (traffic.fanout.sends reader event).filter (through number of) =
          ((traffic.fanout.sends reader event).filter (·.number == number)).filter
            (of ·.reader) := by
        rw [List.filter_filter]
        exact List.filter_congr fun send _ => Bool.and_comm _ _
      simp only [issued, Step.arrival?, told, Option.toList_some, List.flatMap_singleton, split,
        Fanout.sends_through _ _ _ numbered]
      by_cases wants : subscription.kind = event.kind
      · cases its : of reader <;> simp [its, wants]
      · cases of reader <;> simp [wants, Ne.symm wants]
  | _ => rfl

theorem subscribed_after (capacities : List Nat) (before : List Step) (kind : EventType)
    (channel : Nat) (later : List Step) :
    (after capacities (before ++ .subscribe kind channel :: later)).fanout.subscriptions[
        (after capacities before).fanout.subscriptions.length]? = some ⟨kind, channel⟩ := by
  induction later using List.reverseRecOn with
  | nil => rw [after_snoc, subscriptions_perform, List.getElem?_concat_length]
  | append_singleton later step ih =>
    rw [← List.cons_append, ← List.append_assoc, after_snoc, subscriptions_perform]
    exact (List.getElem?_append_left (List.getElem?_eq_some_iff.mp ih).1).trans ih

/-- What is offered through a subscription: the events of its kind that arrive after it was made, in
the order in which they arrive. -/
theorem offers_through {capacities : List Nat} {of : Nat → Bool} (before : List Step)
    (kind : EventType) (channel : Nat) (later : List Step)
    (turns : TakeTurns capacities of (before ++ .subscribe kind channel :: later)) :
    (after capacities (before ++ .subscribe kind channel :: later)).offers
        (through (after capacities before).fanout.subscriptions.length of) =
      (arrivals of later).filter (·.kind == kind) := by
  induction later using List.reverseRecOn with
  | nil =>
    rw [after_snoc]
    -- what was offered before went through older subscriptions
    change ((after capacities before).sends.filter _).map _ = _
    refine List.map_eq_nil_iff.mpr (List.filter_eq_nil_iff.mpr fun send listed => ?_)
    have inside := (List.getElem?_eq_some_iff.mp (numbered_after capacities before send listed)).1
    simp [through, Nat.ne_of_lt inside]
  | append_singleton later step ih =>
    rw [← List.cons_append, ← List.append_assoc] at turns ⊢
    have single := turns.initial.single (after capacities before).fanout.subscriptions.length
    have numbered := subscribed_after capacities before kind channel later
    rw [after_snoc, offers_perform single, ih turns.initial, issued_through numbered, arrivals_snoc,
      List.filter_append]

/-! ### One channel for every kind -/

/-- The kinds that a step adds to those wanted at a channel. -/
def Step.wish (channel : Nat) : Step → List EventType
  | .subscribe kind chosen => if chosen = channel then [kind] else []
  | _ => []

theorem wanted_perform (traffic : Traffic) (step : Step) (channel : Nat) :
    (traffic.perform step).fanout.wanted channel =
      traffic.fanout.wanted channel ++ step.wish channel := by
  rw [Fanout.wanted, Fanout.wanted, subscriptions_perform, List.filter_append, List.map_append]
  cases step with
  | subscribe kind chosen => by_cases same : chosen = channel <;> simp [Step.wish, same]
  | _ => rfl

theorem wanted_after (capacities : List Nat) (steps : List Step) (channel : Nat) :
    (after capacities steps).fanout.wanted channel = steps.flatMap (Step.wish channel) := by
  induction steps using List.reverseRecOn with
  | nil => rfl
  | append_singleton steps step ih =>
    rw [after_snoc, wanted_perform, ih, List.flatMap_append, List.flatMap_singleton]

theorem issued_among {traffic : Traffic} {channel : Nat}
    (every : traffic.fanout.wanted channel = EventType.all) (of : Nat → Bool) (step : Step) :
    ((traffic.issued step).filter (Send.isAmong of channel)).map (·.event) =
      (step.arrival? of).toList := by
  cases step with
  | record reader kind data =>
    cases told : event? kind data with
    | none => simp [issued, Step.arrival?, told]
    | some event =>
      have among : ∀ send ∈ traffic.fanout.sends reader event,
          send.isAmong of channel = (of reader && send.isTo channel) := by
        intro send listed
        rw [Send.isAmong, (Fanout.mem_sends listed).1]
      simp only [issued, Step.arrival?, told, Option.toList_some, List.flatMap_singleton,
        List.filter_congr among]
      cases of reader with
      | false => simp
      | true =>
        have told := congrArg (List.map Prod.snd) (traffic.fanout.sends_to reader event channel)
        rw [every, EventType.filter_all, List.map_map, List.map_map] at told
        exact told
  | _ => rfl

theorem sends_subscribes (capacities : List Nat) (steps : List Step) (kinds : List EventType)
    (channel : Nat) :
    (after capacities (steps ++ kinds.map (.subscribe · channel))).sends =
      (after capacities steps).sends := by
  induction kinds using List.reverseRecOn with
  | nil => simp
  | append_singleton kinds kind ih =>
    rw [List.map_append, ← List.append_assoc, List.map_singleton, after_snoc]
    exact ih

theorem flatMap_wish {channel : Nat} {steps : List Step}
    (none : ∀ kind, Step.subscribe kind channel ∉ steps) : steps.flatMap (Step.wish channel) = [] := by
  refine List.flatMap_eq_nil_iff.mpr fun step listed => ?_
  cases step with
  | subscribe kind chosen =>
    refine if_neg fun same => none kind ?_
    rwa [← same]
  | _ => rfl

theorem wanted_funnel {capacities : List Nat} {early later : List Step} {channel : Nat}
    (once : ∀ kind, Step.subscribe kind channel ∉ early ++ later) :
    (after capacities (early ++ EventType.all.map (.subscribe · channel) ++ later)).fanout.wanted
      channel = EventType.all := by
  simp only [List.mem_append, not_or] at once
  have all : (EventType.all.map (Step.subscribe · channel)).flatMap (Step.wish channel) =
      EventType.all := by
    simp [List.flatMap_map, Step.wish]
  rw [wanted_after, List.flatMap_append, List.flatMap_append, all,
    flatMap_wish fun kind => (once kind).1, flatMap_wish fun kind => (once kind).2,
    List.nil_append, List.append_nil]

theorem sends_to_of_none {capacities : List Nat} {steps : List Step} {channel : Nat}
    (none : ∀ kind, Step.subscribe kind channel ∉ steps) :
    ∀ send ∈ (after capacities steps).sends, send.isTo channel = false := by
  intro send listed
  have unwanted := (wanted_after capacities steps channel).trans (flatMap_wish none)
  rw [Fanout.wanted, List.map_eq_nil_iff, List.filter_eq_nil_iff] at unwanted
  have numbered := List.mem_of_getElem? (numbered_after capacities steps send listed)
  simpa [Send.isTo] using unwanted send.subscription numbered

/-- What readers that take turns offer to a channel that was subscribed once to every kind: all that
arrives at them after that, in that order. -/
theorem offers_among {capacities : List Nat} {of : Nat → Bool} {early later : List Step} {channel : Nat}
    (once : ∀ kind, Step.subscribe kind channel ∉ early ++ later)
    (turns : TakeTurns capacities of (early ++ EventType.all.map (.subscribe · channel) ++ later)) :
    (after capacities (early ++ EventType.all.map (.subscribe · channel) ++ later)).offers
      (Send.isAmong of channel) = arrivals of later := by
  induction later using List.reverseRecOn with
  | nil =>
    -- nothing goes to a channel that nobody has subscribed
    rw [List.append_nil] at once ⊢
    rw [offers, sends_subscribes]
    refine List.map_eq_nil_iff.mpr (List.filter_eq_nil_iff.mpr fun send listed => ?_)
    simp [Send.isAmong, sends_to_of_none once send listed]
  | append_singleton later step ih =>
    rw [← List.append_assoc] at once turns ⊢
    have before : ∀ kind, Step.subscribe kind channel ∉ early ++ later :=
      fun kind listed => once kind (List.mem_append_left _ listed)
    have single : (after capacities (early ++ EventType.all.map (.subscribe · channel) ++
        later)).Single (Send.isAmong of channel) := by
      intro one first other second its theirs
      simp only [Send.isAmong, Send.isTo, Bool.and_eq_true, beq_iff_eq] at its theirs
      exact ⟨turns.initial.alone one first other second its.1 theirs.1, its.2.trans theirs.2.symm⟩
    rw [after_snoc, offers_perform single, ih before turns.initial, issued_among (wanted_funnel before),
      arrivals_snoc]

/-! ### What gets through -/

def outcomes (traffic : Traffic) (which : Send → Bool) : List Delivery :=
  (traffic.made.filter (which ·.1)).map (·.2)

/-- The events that got through. -/
def got (traffic : Traffic) (which : Send → Bool) : List Event :=
  (traffic.made.filter fun (send, outcome) => which send && outcome == .delivered).map (·.1.event)

/-- Offers are made of certain events, of each once and in their order, and those whose offer was a
delivery get through. -/
structure Follows (traffic : Traffic) (which : Send → Bool) (events : List Event) : Prop where
  offers : traffic.offers which = events
  got : traffic.got which =
    ((events.zip (traffic.outcomes which)).filter (·.2 == .delivered)).map (·.1)
  sublist : (traffic.got which).Sublist events

theorem zip_outcomes (made : List (Send × Delivery)) (rest : List Event) :
    (made.map (·.1.event) ++ rest).zip (made.map (·.2)) =
      made.map fun (send, outcome) => (send.event, outcome) := by
  induction made with
  | nil => simp
  | cons offer made ih => simp [ih]

theorem offers_eq (traffic : Traffic) (which : Send → Bool) :
    traffic.offers which = (traffic.made.filter (which ·.1)).map (·.1.event) ++
      (traffic.pending.filter which).map (·.event) := by
  rw [offers, sends, List.filter_append, List.map_append, List.filter_map, List.map_map]
  rfl

theorem got_eq (traffic : Traffic) (which : Send → Bool) :
    traffic.got which =
      (((traffic.offers which).zip (traffic.outcomes which)).filter (·.2 == .delivered)).map
        (·.1) := by
  rw [offers_eq, outcomes, zip_outcomes, List.filter_map, List.filter_filter, List.map_map, got]
  congr 1
  exact List.filter_congr fun offer _ => Bool.and_comm _ _

theorem got_sublist (traffic : Traffic) (which : Send → Bool) :
    (traffic.got which).Sublist (traffic.offers which) := by
  rw [offers_eq, got, ← List.filter_filter]
  have among : ((traffic.made.filter (·.2 == .delivered)).filter (which ·.1)).Sublist
      (traffic.made.filter (which ·.1)) := List.Sublist.filter _ List.filter_sublist
  exact (among.map _).trans (List.sublist_append_left _ _)

theorem follows_of_offers {traffic : Traffic} {which : Send → Bool} {events : List Event}
    (offered : traffic.offers which = events) : traffic.Follows which events := by
  subst offered
  exact ⟨rfl, traffic.got_eq which, traffic.got_sublist which⟩

end Traffic

end Attribution
