import Attribution.Proofs.Fanout.Calls
import Attribution.Proofs.System.Lookups

/-!
What holds of an agent that has started.

Its registry has taken in one event for every process that was there, with what its own files and the container
runtime say of them, and has then answered the requests that they led to.  So it has come about by a run, and what
holds after runs whose sources read cgroup files holds of it.  The agent's own channel is the first of its
fan-out, and gets what arrives from then on.
-/

namespace Attribution

section Except

variable {ε δ α β : Type}

theorem bind_eq_ok_iff {first : Except ε α} {next : α → Except ε β} {value : β} :
    first >>= next = .ok value ↔ ∃ middle, first = .ok middle ∧ next middle = .ok value := by
  cases first <;> simp [bind, Except.bind]

theorem mapError_eq_ok_iff {result : Except ε α} {convert : ε → δ} {value : α} :
    result.mapError convert = .ok value ↔ result = .ok value := by
  cases result <;> simp [Except.mapError]

end Except

theorem Tracer.fanout_of_load {files : Files.Tree} {plan : Probe.Plan} {tracer : Tracer}
    (loaded : load files plan = .ok tracer) : tracer.fanout = .empty := by
  simp only [load, bind_eq_ok_iff] at loaded
  obtain ⟨image, -, object, -, readers, -, ⟨⟩⟩ := loaded
  rfl

namespace Agent

variable {host : Host} {environment : Environment} {agent : Agent}

/-- The steps in which the processes are taken in that are there already. -/
def swept (host : Host) (agent : Agent) : List System.Step :=
  (sweep host agent.settings).map (.event (sources host agent.settings agent.base agent.client) · 0)

/-- An agent that has started has loaded its instrumentation, subscribed its channel, and taken in the processes. -/
theorem parts_of_start (started : start host environment = .ok agent) :
    ∃ tracer, Tracer.load host.files (plan host agent.settings) = .ok tracer ∧
      agent.tracer = (subscribeAll tracer agent.settings.eventBuffer).run ∧
      agent.registry = Registry.run (sources host agent.settings agent.base agent.client)
        (conntrack host agent.settings) .empty (sweep host agent.settings) 0 := by
  simp only [start, bind_eq_ok_iff, mapError_eq_ok_iff] at started
  obtain ⟨settings, -, base, -, tracer, loaded, ⟨⟩⟩ := started
  exact ⟨tracer, loaded, rfl, rfl⟩

theorem reached_of_start (started : start host environment = .ok agent) :
    ∃ quiet, System.Eventless quiet ∧ (System.after (swept host agent ++ quiet)).registry = agent.registry := by
  obtain ⟨tracer, -, -, registry⟩ := parts_of_start started
  obtain ⟨quiet, told, eventless, reached⟩ := System.run_reached (sources host agent.settings agent.base agent.client)
    (conntrack host agent.settings) (sweep host agent.settings) 0
  exact ⟨quiet, eventless, (congrArg System.registry reached).trans registry.symm⟩

theorem grounded_swept (host : Host) (agent : Agent) {quiet : List System.Step} (eventless : System.Eventless quiet) :
    ∀ sources event now, .event sources event now ∈ swept host agent ++ quiet → sources.Grounded := by
  intro sources event now member
  rcases List.mem_append.1 member with here | there
  · obtain ⟨_, -, same⟩ := List.mem_map.1 here
    cases same
    exact Sources.grounded_ofFiles _ _ _ _
  · exact absurd there (eventless sources event now)

theorem trackable_of_start (started : start host environment = .ok agent) :
    ∀ container ∈ agent.registry.containers, container.founding.Trackable := by
  obtain ⟨quiet, eventless, reached⟩ := reached_of_start started
  intro container member
  rw [← reached] at member
  exact System.trackable_after (grounded_swept host agent eventless) container.founding
    (List.mem_map_of_mem (Registry.mem_created_of_mem_containers member))

theorem keeping_swept (host : Host) (agent : Agent) : System.Keeping (swept host agent) := by
  apply System.keeping_of_starts
  intro step member
  obtain ⟨event, found, rfl⟩ := List.mem_map.1 member
  unfold sweep at found
  split at found
  · obtain ⟨pid, -, rfl⟩ := List.mem_map.1 found
    exact ⟨_, pid, 0, rfl⟩
  · cases found

/-- A start asks the runtime because of the processes that it finds and for nothing else, and about a cgroup at most
once, unless it finds another process there after a first one that the runtime was asked about and that has got no
name. -/
theorem asked_once_of_start (started : start host environment = .ok agent) :
    agent.registry.lookups = (Registry.questions (System.arrivals (swept host agent))).reverse ∧
      ∀ id, ((System.arrivalsAt id (swept host agent)).filter (·.asks)).length ≤ 1 ↔
        ¬∃ first second rest, System.arrivalsAt id (swept host agent) = first :: second :: rest ∧
          Registry.needsMetadata first.cgroup = true ∧ first.name? = none := by
  constructor
  · obtain ⟨quiet, eventless, reached⟩ := reached_of_start started
    rw [← reached, System.lookups_after, System.arrivals_append _ eventless]
  · have grounded := grounded_swept host agent (by simp [System.Eventless] : System.Eventless [])
    rw [List.append_nil] at grounded
    exact System.asks_once_iff grounded (keeping_swept host agent)

theorem follows_of_start (started : start host environment = .ok agent) {steps : List Traffic.Step}
    (once : ∀ kind, Traffic.Step.subscribe kind 0 ∉ steps) (reader : Nat) :
    (steps.foldl Traffic.perform (.ofFanout agent.tracer.fanout)).Follows (·.isFrom reader 0)
      (Traffic.arrivals (· == reader) steps) := by
  obtain ⟨tracer, loaded, subscribed, -⟩ := parts_of_start started
  rw [subscribed]
  exact Traffic.follows_subscribeAll (Tracer.fanout_of_load loaded) _ once reader

end Agent

end Attribution
