import Attribution.Proofs.Registry.Lookups
import Attribution.Proofs.System.Tracked

/-!
How often the runtime is asked about a cgroup.

What keeps the runtime from being asked a second time is the container that a cgroup leads to, and
arrivals whose cgroup gets no name leave none.  Main statement: while no container goes, a cgroup is asked
about at most once exactly if nobody arrives from it after a first arrival of which no name has come.  The
processes of a pause container are asked about one by one.
-/

namespace Attribution

open Kernel (Pid)

namespace System

variable {steps : List Step} {step : Step} {system : System} {arrival : Arrival} {id : String}

/-- The arrival that a step brings to a registry. -/
def Step.arrival? (registry : Registry) : Step → Option Arrival
  | .event sources seen now => registry.arrivalBy? sources seen now
  | _ => none

/-- All arrivals in the course of a run from some state on, in their order. -/
def arrivalsFrom (system : System) : List Step → List Arrival
  | [] => []
  | step :: rest => (step.arrival? system.registry).toList ++ arrivalsFrom (system.perform step) rest

def arrivals (steps : List Step) : List Arrival :=
  arrivalsFrom empty steps

def arrivalsAt (id : String) (steps : List Step) : List Arrival :=
  (arrivals steps).filter (·.cgroup.id = id)

theorem arrivalsFrom_snoc (system : System) (steps : List Step) (step : Step) :
    arrivalsFrom system (steps ++ [step]) =
      arrivalsFrom system steps ++ (step.arrival? (steps.foldl perform system).registry).toList := by
  induction steps generalizing system with
  | nil => simp [arrivalsFrom]
  | cons first rest ih =>
    rw [List.cons_append, arrivalsFrom, ih, arrivalsFrom, List.append_assoc]
    rfl

theorem arrivals_snoc (steps : List Step) (step : Step) :
    arrivals (steps ++ [step]) = arrivals steps ++ (step.arrival? (after steps).registry).toList :=
  arrivalsFrom_snoc empty steps step

theorem arrivals_append (steps : List Step) {quiet : List Step} (eventless : Eventless quiet) :
    arrivals (steps ++ quiet) = arrivals steps := by
  induction quiet using List.reverseRecOn with
  | nil => rw [List.append_nil]
  | append_singleton quiet step ih =>
    have before : Eventless quiet := fun sources event now listed =>
      eventless sources event now (List.mem_append_left _ listed)
    have silent : step.arrival? (after (steps ++ quiet)).registry = none := by
      cases step with
      | event sources event now => exact absurd (by simp) (eventless sources event now)
      | _ => rfl
    rw [← List.append_assoc, arrivals_snoc, silent, Option.toList_none, List.append_nil, ih before]

theorem arrivalsAt_snoc (id : String) (steps : List Step) (step : Step) :
    arrivalsAt id (steps ++ [step]) =
      arrivalsAt id steps ++ ((step.arrival? (after steps).registry).filter (·.cgroup.id = id)).toList := by
  rw [arrivalsAt, arrivals_snoc, List.filter_append, arrivalsAt, Option.toList_filter]

/-! ### What is asked in the course of a run -/

theorem lookups_perform (system : System) (step : Step) :
    (system.perform step).registry.lookups =
      Registry.questions (step.arrival? system.registry).toList ++ system.registry.lookups := by
  cases step with
  | event sources event now => exact Registry.lookups_handle sources system.registry event now
  | purge now ttl => exact Registry.lookups_purge system.registry now ttl
  | take count conntrack =>
    simp only [perform]
    split <;> rfl
  | deliver =>
    simp only [perform]
    split
    · rfl
    · exact Registry.lookups_applyAnswer system.registry _ _

theorem lookups_after (steps : List Step) :
    (after steps).registry.lookups = (Registry.questions (arrivals steps)).reverse := by
  induction steps using List.reverseRecOn with
  | nil => rfl
  | append_singleton steps step ih =>
    rw [after_snoc, lookups_perform, ih, arrivals_snoc, Registry.questions_append, List.reverse_append]
    congr 1
    -- A step brings one arrival at most.
    cases step.arrival? (after steps).registry with
    | none => rfl
    | some arrival =>
      rw [Option.toList_some, Registry.questions, List.filter_singleton]
      cases arrival.asks <;> rfl

theorem classified_of_arrivals (steps : List Step)
    (grounded : ∀ sources event now, .event sources event now ∈ steps → sources.Grounded) :
    ∀ arrival ∈ arrivals steps, arrival.cgroup.Classified := by
  induction steps using List.reverseRecOn with
  | nil => simp [arrivals, arrivalsFrom]
  | append_singleton steps step ih =>
    intro arrival member
    rw [arrivals_snoc, List.mem_append, Option.mem_toList] at member
    rcases member with before | new
    · exact ih (fun sources event now listed => grounded sources event now (List.mem_append_left _ listed))
        arrival before
    · cases step with
      | event sources event now =>
        have sound : sources.Grounded := grounded sources event now (by simp)
        rcases Registry.read_of_arrivalBy new with read | read
        · obtain ⟨_, _, _, told⟩ := sound.first read
          exact Cgroup.classified_of_content told
        · obtain ⟨_, _, _, told⟩ := sound.again read
          exact Cgroup.classified_of_content told
      | _ => cases new

/-! ### Runs in which no container goes -/

/-- No step of a run takes a container out of the indices. -/
def Keeping (steps : List Step) : Prop :=
  ∀ earlier step, earlier ++ [step] <+: steps →
    (after earlier).registry.Keeps (after (earlier ++ [step])).registry

theorem Keeping.before (keeping : Keeping (steps ++ [step])) : Keeping steps :=
  fun earlier last happened => keeping earlier last (happened.trans (List.prefix_append steps [step]))

theorem Keeping.last (keeping : Keeping (steps ++ [step])) :
    (after steps).registry.Keeps ((after steps).perform step).registry := by
  rw [← after_snoc]
  exact keeping steps step (List.prefix_refl _)

theorem known_of_perform (keeps : (after steps).registry.Keeps ((after steps).perform step).registry)
    (arrives : step.arrival? (after steps).registry = some arrival) :
    arrival.known = ((after steps).registry.byCgroup.get? arrival.cgroup.id).isSome := by
  cases step with
  | event sources event now => exact (orderly_after steps).known_of_arrivalBy keeps arrives
  | _ => cases arrives

theorem isSome_byCgroup_perform (keeps : (after steps).registry.Keeps ((after steps).perform step).registry)
    (id : String) :
    (((after steps).perform step).registry.byCgroup.get? id).isSome = true ↔
      ((after steps).registry.byCgroup.get? id).isSome = true ∨
        ∃ arrival ∈ step.arrival? (after steps).registry,
          arrival.cgroup.id = id ∧ arrival.name?.isSome = true := by
  cases step with
  | event sources event now => exact (orderly_after steps).isSome_byCgroup_handle keeps id
  | _ =>
    rw [(samePlaces_perform _ (by simp)).byCgroup]
    simp [Step.arrival?]

theorem isSome_byCgroup_after (keeping : Keeping steps) (id : String) :
    ((after steps).registry.byCgroup.get? id).isSome = true ↔
      ∃ arrival ∈ arrivalsAt id steps, arrival.name?.isSome = true := by
  induction steps using List.reverseRecOn with
  | nil =>
    have nothing : (after []).registry.byCgroup.get? id = none := rfl
    simp [nothing, arrivalsAt, arrivals, arrivalsFrom]
  | append_singleton steps step ih =>
    rw [after_snoc, isSome_byCgroup_perform keeping.last, ih keeping.before, arrivalsAt_snoc]
    simp only [List.mem_append, Option.mem_toList, Option.mem_def, Option.filter_eq_some_iff, decide_eq_true_eq,
      or_and_right, exists_or, and_assoc]

/-- An arrival is known by its cgroup exactly if a name has come of an earlier one from there. -/
theorem known_iff (keeping : Keeping steps) (earlier later : List Arrival)
    (split : arrivalsAt id steps = earlier ++ arrival :: later) :
    arrival.known = true ↔ ∃ other ∈ earlier, other.name?.isSome = true := by
  induction steps using List.reverseRecOn generalizing later with
  | nil => simp [arrivalsAt, arrivals, arrivalsFrom] at split
  | append_singleton steps step ih =>
    rw [arrivalsAt_snoc] at split
    cases brought : (step.arrival? (after steps).registry).filter (·.cgroup.id = id) with
    | none =>
      rw [brought, Option.toList_none, List.append_nil] at split
      exact ih keeping.before later split
    | some new =>
      rw [brought, Option.toList_some] at split
      cases later using List.reverseRecOn with
      | nil =>
        -- The arrival is that of the last step, and all others have come before it.
        obtain ⟨rfl, same⟩ := List.append_inj' split rfl
        cases same
        obtain ⟨arrives, own⟩ := Option.filter_eq_some_iff.1 brought
        rw [known_of_perform keeping.last arrives, of_decide_eq_true own, isSome_byCgroup_after keeping.before]
      | append_singleton later last =>
        rw [← List.cons_append, ← List.append_assoc] at split
        exact ih keeping.before later (List.append_inj' split rfl).1

/-! ### One cgroup -/

theorem needsMetadata_of_arrivals
    (grounded : ∀ sources event now, .event sources event now ∈ steps → sources.Grounded) {first : Arrival}
    (one : first ∈ arrivalsAt id steps) (two : arrival ∈ arrivalsAt id steps) :
    Registry.needsMetadata arrival.cgroup = Registry.needsMetadata first.cgroup := by
  obtain ⟨came, here⟩ := List.mem_filter.1 one
  obtain ⟨cameToo, there⟩ := List.mem_filter.1 two
  have classified := classified_of_arrivals steps grounded
  apply (classified first came).needsMetadata_eq (classified arrival cameToo)
  rw [of_decide_eq_true here, of_decide_eq_true there]

theorem known_of_named (keeping : Keeping steps) {first : Arrival} {rest : List Arrival}
    (came : arrivalsAt id steps = first :: rest) (named : first.name?.isSome = true) (member : arrival ∈ rest) :
    arrival.known = true := by
  obtain ⟨earlier, later, rfl⟩ := List.append_of_mem member
  exact (known_iff keeping (first :: earlier) later came).2 ⟨first, by simp, named⟩

/-- Of several arrivals from one cgroup, one at most is asked about if the first gets a name, and otherwise the
first two are. -/
theorem asked_once_of_several (keeping : Keeping steps) {first second : Arrival} {rest : List Arrival}
    (came : arrivalsAt id steps = first :: second :: rest)
    (grounded : ∀ sources event now, .event sources event now ∈ steps → sources.Grounded) :
    ((first :: second :: rest).filter (·.asks)).length ≤ 1 ↔
      (Registry.needsMetadata first.cgroup = true → first.name?.isSome = true) := by
  have asks {other : Arrival} (member : other ∈ first :: second :: rest) :
      other.asks = (Registry.needsMetadata first.cgroup && !other.known) := by
    rw [← came] at member
    rw [Arrival.asks, needsMetadata_of_arrivals grounded (came ▸ List.mem_cons_self) member]
  have fresh : first.known = false := by
    rw [← Bool.not_eq_true, known_iff keeping [] (second :: rest) came]
    simp
  cases needed : Registry.needsMetadata first.cgroup with
  | false =>
    have silent : (first :: second :: rest).filter (·.asks) = [] := by
      rw [List.filter_eq_nil_iff]
      intro other member
      simp [asks member, needed]
    simp [silent]
  | true =>
    have asksFirst : first.asks = true := by simp [asks List.mem_cons_self, needed, fresh]
    cases named : first.name?.isSome with
    | true =>
      have silent : (second :: rest).filter (·.asks) = [] := by
        rw [List.filter_eq_nil_iff]
        intro other member
        simp [asks (List.mem_cons_of_mem first member), known_of_named keeping came named member]
      simp [asksFirst, silent]
    | false =>
      have unknown : second.known = false := by
        rw [← Bool.not_eq_true, known_iff keeping [first] rest came]
        simp [named]
      have asksSecond : second.asks = true := by simp [asks, needed, unknown]
      simp [asksFirst, asksSecond]

theorem asks_once_iff
    (grounded : ∀ sources event now, .event sources event now ∈ steps → sources.Grounded)
    (keeping : Keeping steps) (id : String) :
    ((arrivalsAt id steps).filter (·.asks)).length ≤ 1 ↔
      ¬∃ first second rest, arrivalsAt id steps = first :: second :: rest ∧
        Registry.needsMetadata first.cgroup = true ∧ first.name? = none := by
  cases came : arrivalsAt id steps with
  | nil => simp
  | cons first others =>
    cases others with
    | nil => simpa using List.length_filter_le (·.asks) [first]
    | cons second rest =>
      rw [asked_once_of_several keeping came grounded]
      constructor
      · rintro named ⟨_, _, _, ⟨⟩, needed, nameless⟩
        rw [nameless] at named
        cases named needed
      · intro alone needed
        rw [Option.isSome_iff_ne_none]
        intro nameless
        exact alone ⟨first, second, rest, rfl, needed, nameless⟩

/-- While no container goes, the runtime is asked because of arrivals and for nothing else, and about a cgroup
at most once, unless another process arrives from it after a first arrival that the runtime was asked about
and that has got no name. -/
theorem asked_once_iff (steps : List Step)
    (grounded : ∀ sources event now, .event sources event now ∈ steps → sources.Grounded)
    (keeping : Keeping steps) :
    (after steps).registry.lookups = (Registry.questions (arrivals steps)).reverse ∧
      ∀ id, ((arrivalsAt id steps).filter (·.asks)).length ≤ 1 ↔
        ¬∃ first second rest, arrivalsAt id steps = first :: second :: rest ∧
          Registry.needsMetadata first.cgroup = true ∧ first.name? = none :=
  ⟨lookups_after steps, asks_once_iff grounded keeping⟩

/-! ### Two processes of one cgroup -/

theorem keeping_of_starts
    (starts : ∀ step ∈ steps, ∃ sources pid now, step = .event sources (.start pid) now) : Keeping steps := by
  intro earlier step happened
  obtain ⟨sources, pid, now, rfl⟩ := starts step (happened.subset (by simp))
  rw [after_snoc]
  exact Registry.keeps_start sources (after earlier).registry pid

def seenTwice (sources : Sources) : List Step :=
  [.event sources (.start 7) 0, .event sources (.start 8) 0]

theorem keeping_seenTwice (sources : Sources) : Keeping (seenTwice sources) := by
  apply keeping_of_starts
  intro step member
  simp only [seenTwice, List.mem_cons, List.not_mem_nil, or_false] at member
  rcases member with rfl | rfl
  · exact ⟨sources, 7, 0, rfl⟩
  · exact ⟨sources, 8, 0, rfl⟩

theorem grounded_seenTwice {sources : Sources} (sound : sources.Grounded) :
    ∀ asked event now, .event asked event now ∈ seenTwice sources → asked.Grounded := by
  intro asked event now member
  simp only [seenTwice, List.mem_cons, Step.event.injEq, List.not_mem_nil, or_false] at member
  rcases member with ⟨rfl, -⟩ | ⟨rfl, -⟩ <;> exact sound

theorem arrivals_seenTwice (sources : Sources) {cgroup : Cgroup} {answer : Except Engine.Error (Option Metadata)}
    (read : ∀ pid, sources.cgroupOf pid = .ok cgroup) (answered : Registry.metadataFor sources cgroup = answer) :
    let first : Arrival := ⟨cgroup, false, answer⟩
    arrivals (seenTwice sources) = [first, { first with known := first.name?.isSome }] := by
  intro first
  let next := Registry.empty.start sources 7
  have one : Registry.empty.arrival? sources 7 = some first := by
    rw [Registry.arrival?_of_read rfl (read 7), answered]
    rfl
  have unknown : next.byPid.get? 8 = none := Registry.byPid_start_of_ne (by decide)
  have leads : (next.byCgroup.get? cgroup.id).isSome = first.name?.isSome := by
    have nothing : Registry.empty.byCgroup.get? cgroup.id = none := rfl
    rw [Bool.eq_iff_iff, Registry.isSome_byCgroup_start, one, nothing]
    simp [first]
  have two : next.arrival? sources 8 = some { first with known := first.name?.isSome } := by
    rw [Registry.arrival?_of_read unknown (read 8), leads, answered]
  change (Registry.empty.arrival? sources 7).toList ++ ((next.arrival? sources 8).toList ++ []) = _
  rw [one, two]
  rfl

theorem web_asked_once :
    let came := arrivalsAt Cgroup.webUnderDocker.id (seenTwice webSources)
    came.length = 2 ∧ (came.filter (·.asks)).length ≤ 1 := by
  have sound : webSources.Grounded := ⟨fun read => ⟨_, _, _, read⟩, fun read => ⟨_, _, _, read⟩⟩
  obtain ⟨paths, read⟩ := webSources_read 7
  have named : Identity.derive Cgroup.webUnderDocker.kind Cgroup.webUnderDocker.containerId
      (some Cgroup.webMetadata) = some ⟨"/k8s/default/web/nginx"⟩ := by decide
  let first : Arrival := ⟨{ Cgroup.webUnderDocker with paths := paths }, false, .ok (some Cgroup.webMetadata)⟩
  have both : arrivals (seenTwice webSources) = [first, { first with known := first.name?.isSome }] :=
    arrivals_seenTwice webSources (fun _ => read) rfl
  have came : arrivalsAt first.cgroup.id (seenTwice webSources) =
      [first, { first with known := first.name?.isSome }] := by
    rw [arrivalsAt, both]
    simp
  obtain ⟨-, once⟩ := asked_once_iff _ (grounded_seenTwice sound) (keeping_seenTwice webSources)
  refine ⟨congrArg List.length came, (once _).2 ?_⟩
  rintro ⟨one, two, rest, here, -, nameless⟩
  obtain ⟨rfl, -⟩ := List.cons.inj (came.symm.trans here)
  cases nameless.symm.trans named

/-- What the runtime says of the container that holds the namespaces of the pod. -/
def pauseMetadata : Metadata :=
  { Cgroup.webMetadata with
    labels := Cgroup.webMetadata.labels.insert Kubernetes.containerName Kubernetes.pauseName }

def pauseSources : Sources :=
  { webSources with metadataOf := fun _ => .ok pauseMetadata }

/-- The runtime answers, no container goes, and it is asked about the same cgroup again. -/
theorem not_always_asked_once :
    ¬∀ steps : List Step,
      (∀ sources event now, .event sources event now ∈ steps → sources.Grounded) →
      (∀ arrival ∈ arrivals steps, arrival.asks = true → ∃ known, arrival.answer = .ok known) →
      Keeping steps → ∀ id, ((arrivalsAt id steps).filter (·.asks)).length ≤ 1 := by
  intro always
  have sound : pauseSources.Grounded := ⟨fun read => ⟨_, _, _, read⟩, fun read => ⟨_, _, _, read⟩⟩
  obtain ⟨paths, read⟩ := webSources_read 7
  let first : Arrival := ⟨{ Cgroup.webUnderDocker with paths := paths }, false, .ok (some pauseMetadata)⟩
  have nameless : first.name? = none := by
    have nameless : Identity.derive Cgroup.webUnderDocker.kind Cgroup.webUnderDocker.containerId
        (some pauseMetadata) = none := by decide
    exact nameless
  have came : arrivals (seenTwice pauseSources) = [first, first] := by
    have both : arrivals (seenTwice pauseSources) = [first, { first with known := first.name?.isSome }] :=
      arrivals_seenTwice pauseSources (fun _ => read) rfl
    rw [both, nameless]
    rfl
  have answered : ∀ arrival ∈ arrivals (seenTwice pauseSources), arrival.asks = true →
      ∃ known, arrival.answer = .ok known := by
    rw [came]
    intro arrival member asked
    have same : arrival = first := by simpa using member
    exact ⟨some pauseMetadata, same ▸ rfl⟩
  have twice : (arrivalsAt first.cgroup.id (seenTwice pauseSources)).filter (·.asks) = [first, first] := by
    have asks : first.asks = true := rfl
    simp [arrivalsAt, came, asks]
  have once := always _ (grounded_seenTwice sound) answered (keeping_seenTwice pauseSources) first.cgroup.id
  rw [twice] at once
  exact absurd once (by simp)

end System

end Attribution
