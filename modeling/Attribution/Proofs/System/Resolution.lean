import Attribution.Proofs.Registry.Outcome
import Attribution.Proofs.System.Recheck
import Attribution.Proofs.System.Transparency

/-!
What a failed resolution leaves behind.

A process is unknown, in a container, or ignored.  Events come to its resolution by different ways,
and it can fail in the process file system and at the runtime.  Main statement: a failure leaves
nothing behind, so that the process is asked about again; an ignored process is never asked about; and a
process is ignored only because it was asked about, everything was answered, and no name came of it.
-/

namespace Attribution

open Kernel (Pid)

namespace Registry

variable {sources : Sources} {registry : Registry} {pid : Pid} {event : Event} {now : Instant}

/-! ### Processes without a container -/

theorem handle_of_ignored (ignored : registry.byPid.get? event.pid = some .ignored)
    (remains : event.kind ≠ .processExit) : registry.handle sources event now = registry := by
  have nowhere := containerOf?_of_ignored ignored
  have prepared : registry.prepare sources event now = registry := by
    have preparation := prepare_preparation sources registry event now
    generalize registry.prepare sources event now = next at preparation ⊢
    cases preparation with
    | idle => rfl
    | starts => exact start_eq_of_known ignored
    | exits kind => exact absurd kind remains
    | moves asks speaks elsewhere =>
      rw [isElsewhere_of_nowhere nowhere] at elsewhere
      cases elsewhere
  rw [handle_eq, prepared, record_of_nowhere nowhere]

theorem Fails.handle_eq (fails : registry.Fails sources event.pid)
    (unknown : registry.byPid.get? event.pid = none) (now : Instant) :
    ∃ lookups, registry.handle sources event now = { registry with lookups := lookups } := by
  have nowhere := containerOf?_of_unknown unknown
  obtain ⟨lookups, prepared⟩ : ∃ lookups,
      registry.prepare sources event now = { registry with lookups := lookups } := by
    have preparation := prepare_preparation sources registry event now
    generalize registry.prepare sources event now = next at preparation ⊢
    cases preparation with
    | idle => exact ⟨registry.lookups, rfl⟩
    | starts => exact fails.start_eq unknown
    | exits kind => exact ⟨registry.lookups, exit_of_unknown unknown⟩
    | moves asks speaks elsewhere =>
      rw [isElsewhere_of_nowhere nowhere] at elsewhere
      cases elsewhere
  refine ⟨lookups, ?_⟩
  rw [Registry.handle_eq, prepared, record_of_nowhere]
  exact nowhere

theorem prepare_of_unknown (unknown : registry.byPid.get? event.pid = none)
    (resolves : event.resolves now = true) :
    registry.prepare sources event now = registry.start sources event.pid := by
  rw [prepare_eq_ensure sources registry resolves, ensure_eq,
    isElsewhere_of_nowhere (containerOf?_of_unknown unknown), Bool.and_false, if_neg Bool.false_ne_true]

theorem handle_of_unknown (unknown : registry.byPid.get? event.pid = none)
    (resolves : event.resolves now = true) :
    registry.handle sources event now = (registry.resolve sources event.pid).record event now := by
  rw [handle_eq, prepare_of_unknown unknown resolves]
  simp only [start, unknown]

theorem Consistent.standing_handle (consistent : registry.Consistent)
    (unknown : registry.byPid.get? event.pid = none) (resolves : event.resolves now = true) :
    (registry.handle sources event now).standing event.pid = registry.outcome sources event.pid := by
  have same := (samePlaces_handle sources registry event now).byPid event.pid
  rw [prepare_of_unknown unknown resolves] at same
  rw [← consistent.standing_start unknown sources]
  apply standing_congr _ same
  rw [handle_eq, prepare_of_unknown unknown resolves]
  exact foundings_record _ event now

/-! ### Processes that become ignored -/

/-- The cgroup of a process was read, what had to be asked of the runtime was answered, and no name came
of it. -/
def Nameless (sources : Sources) (pid : Pid) : Prop :=
  ∃ cgroup metadata, sources.cgroupOf pid = .ok cgroup ∧ metadataFor sources cgroup = .ok metadata ∧
    Identity.derive cgroup.kind cgroup.containerId metadata = none

theorem nameless_of_start (before : registry.byPid.get? pid ≠ some .ignored)
    (ignored : (registry.start sources pid).byPid.get? pid = some .ignored) :
    registry.byPid.get? pid = none ∧ Nameless sources pid := by
  have resolution := start_resolution sources registry pid
  generalize registry.start sources pid = next at resolution ignored
  cases resolution with
  | settled found => exact absurd ignored before
  | unreadable unknown read => exact absurd ignored before
  | known unknown read found =>
    rw [byPid_attach, if_pos rfl] at ignored
    cases ignored
  | unanswered unknown read fresh failed =>
    rw [byPid_noteLookup] at ignored
    exact absurd ignored before
  | untracked unknown read fresh answered nameless => exact ⟨unknown, _, _, read, answered, nameless⟩
  | joined unknown read fresh answered named found =>
    rw [joinBy, byPid_attach, if_pos rfl] at ignored
    cases ignored
  | created unknown read fresh answered named first =>
    rw [byPid_create, if_pos rfl] at ignored
    cases ignored

/-- Only the process of an event becomes ignored by it, and only by a resolution that ends without a
name: of an unknown process, or of one that has just left its container. -/
theorem nameless_of_handle (before : registry.byPid.get? pid ≠ some .ignored)
    (ignored : (registry.handle sources event now).byPid.get? pid = some .ignored) :
    event.pid = pid ∧ (registry.byPid.get? pid = none ∧ Nameless sources pid ∨
      registry.Moves sources event now ∧ Nameless sources.later pid) := by
  rw [(samePlaces_handle sources registry event now).byPid] at ignored
  have own : event.pid = pid := by
    by_contra another
    rw [byPid_prepare_of_ne (Ne.symm another)] at ignored
    exact before ignored
  refine ⟨own, ?_⟩
  subst own
  have preparation := prepare_preparation sources registry event now
  generalize registry.prepare sources event now = next at preparation ignored
  cases preparation with
  | idle => exact absurd ignored before
  | starts => exact .inl (nameless_of_start before ignored)
  | exits kind =>
    rw [byPid_exit_self] at ignored
    cases ignored
  | moves asks speaks elsewhere =>
    have left : (registry.exit event.pid now).byPid.get? event.pid ≠ some .ignored := by
      simp [byPid_exit_self]
    exact .inr ⟨⟨asks, speaks, elsewhere⟩, (nameless_of_start left ignored).2⟩

end Registry

namespace System

variable {steps between : List Step} {step : Step} {pid : Pid}

/-! ### Runs -/

theorem unknown_perform {system : System} (unknown : system.registry.byPid.get? pid = none)
    (silent : step.resolves pid = false) : (system.perform step).registry.byPid.get? pid = none := by
  cases step with
  | event sources event now =>
    refine ((Registry.samePlaces_handle sources system.registry event now).byPid pid).trans ?_
    by_cases own : event.pid = pid
    · subst own
      have quiet : event.resolves now = false := by simpa [Step.resolves] using silent
      by_cases ends : event.kind = .processExit
      · rw [Registry.prepare_of_exit ends, Registry.byPid_exit_self]
      · rw [Registry.prepare_of_not_resolves quiet ends, unknown]
    · rw [Registry.byPid_prepare_of_ne (Ne.symm own), unknown]
  | _ => rw [(samePlaces_perform system (by simp)).byPid, unknown]

theorem unknown_after (unknown : (after steps).registry.byPid.get? pid = none)
    (silent : ∀ step ∈ between, step.resolves pid = false) :
    (after (steps ++ between)).registry.byPid.get? pid = none := by
  induction between using List.reverseRecOn with
  | nil => rwa [List.append_nil]
  | append_singleton between step ih =>
    rw [← List.append_assoc, after_snoc]
    apply unknown_perform (ih fun other member => silent other (List.mem_append_left _ member))
    exact silent step (by simp)

theorem nameless_of_perform {system : System} (before : system.registry.byPid.get? pid ≠ some .ignored)
    (ignored : (system.perform step).registry.byPid.get? pid = some .ignored) :
    ∃ sources event now, step = .event sources event now ∧ event.pid = pid ∧
      (system.registry.byPid.get? pid = none ∧ Registry.Nameless sources pid ∨
        system.registry.Moves sources event now ∧ Registry.Nameless sources.later pid) := by
  cases step with
  | event sources event now => exact ⟨sources, event, now, rfl, Registry.nameless_of_handle before ignored⟩
  | _ =>
    rw [(samePlaces_perform system (by simp)).byPid] at ignored
    exact absurd ignored before

/-- After every run: an ignored process is left alone by all its events but its end, and nobody is asked
about it; a resolution that fails leaves indices, processes, trackers and queue as they are, and the
process is unknown until the next event that needs its container has it resolved from the beginning; and
a process becomes ignored only by an event whose sources tell that it has no name. -/
theorem failures_forgotten (steps : List Step) :
    let registry := (after steps).registry
    (∀ sources event now, registry.byPid.get? event.pid = some .ignored → event.kind ≠ .processExit →
        registry.handle sources event now = registry) ∧
      (∀ sources event now, registry.byPid.get? event.pid = none → registry.Fails sources event.pid →
        (∃ lookups, registry.handle sources event now = { registry with lookups := lookups }) ∧
          ∀ between, (∀ step ∈ between, step.resolves event.pid = false) →
            let later := (after (steps ++ .event sources event now :: between)).registry
            later.byPid.get? event.pid = none ∧
              ∀ asked next moment, next.pid = event.pid → next.resolves moment = true →
                later.handle asked next moment = (later.resolve asked event.pid).record next moment ∧
                  (later.handle asked next moment).standing event.pid = later.outcome asked event.pid) ∧
      ∀ step pid, registry.byPid.get? pid ≠ some .ignored →
        (after (steps ++ [step])).registry.byPid.get? pid = some .ignored →
        ∃ sources event now, step = .event sources event now ∧ event.pid = pid ∧
          (registry.byPid.get? pid = none ∧ Registry.Nameless sources pid ∨
            registry.Moves sources event now ∧ Registry.Nameless sources.later pid) := by
  intro registry
  refine ⟨fun _ _ _ => Registry.handle_of_ignored, ?_, ?_⟩
  · intro sources event now unknown fails
    obtain ⟨lookups, handled⟩ := fails.handle_eq unknown now
    refine ⟨⟨lookups, handled⟩, ?_⟩
    intro between silent later
    have still : (after (steps ++ [.event sources event now])).registry.byPid.get? event.pid = none := by
      rw [after_snoc]
      change (registry.handle sources event now).byPid.get? event.pid = none
      rw [handled]
      exact unknown
    have unknownLater : later.byPid.get? event.pid = none := by
      have waiting := unknown_after still silent
      rwa [List.append_assoc] at waiting
    refine ⟨unknownLater, ?_⟩
    intro asked next moment own resolves
    have consistent : later.Consistent := (orderly_after _).toConsistent
    rw [← own] at unknownLater ⊢
    exact ⟨Registry.handle_of_unknown unknownLater resolves,
      consistent.standing_handle unknownLater resolves⟩
  · intro step pid before ignored
    rw [after_snoc] at ignored
    exact nameless_of_perform before ignored

/-! ### A runtime that answers at the second time -/

/-- Process 1 is the host's, any other is in a container that the runtime has to be asked about. -/
def dockerSources (answer : Except Engine.Error Metadata) : Sources where
  cgroupOf pid :=
    if pid = 1 then .ok ⟨"/init.scope", .v2, .standalone, "", .empty⟩
    else .ok ⟨"/docker/a", .v2, .docker, "a", .empty⟩
  metadataOf _ := answer

/-- The host's process is seen, and then one of the container while the runtime is away. -/
def seenTooEarly : List Step :=
  [.event (dockerSources (.error .unavailable)) (.start 1) 0,
    .event (dockerSources (.error .unavailable)) (.start 7) 0]

def hostListens : Event :=
  ⟨.listenOpen, .none, 1, 3, 0, some (.v4 0 22), none, none⟩

theorem answered_at_second_time :
    (∀ sources, (after seenTooEarly).registry.handle sources hostListens 1 = (after seenTooEarly).registry) ∧
      (after seenTooEarly).registry.created = [] ∧
      ((after seenTooEarly).registry.handle (dockerSources (.ok .empty)) (.start 7) 1).standing 7 = .of ⟨"a"⟩ ∧
      Registry.Nameless (dockerSources (.error .unavailable)) 1 := by
  have ignored : (after (seenTooEarly.take 1)).registry.byPid.get? 1 = some .ignored := by decide
  have fails : (after (seenTooEarly.take 1)).registry.Fails (dockerSources (.error .unavailable)) 7 :=
    .unanswered rfl (by decide) rfl
  obtain ⟨silent, -, -⟩ := failures_forgotten seenTooEarly
  obtain ⟨-, retried, -⟩ := failures_forgotten (seenTooEarly.take 1)
  obtain ⟨-, -, nameless⟩ := failures_forgotten []
  obtain ⟨⟨lookups, handled⟩, later⟩ := retried _ (.start 7) 0 (by decide) fails
  refine ⟨fun sources => silent sources hostListens 1 (by decide) (by decide), ?_, ?_, ?_⟩
  · have none : (after (seenTooEarly.take 1)).registry.created = [] := by decide
    exact (congrArg Registry.created handled).trans none
  · obtain ⟨-, again⟩ := later [] (by simp)
    obtain ⟨-, found⟩ := again (dockerSources (.ok .empty)) (.start 7) 1 rfl rfl
    exact found.trans (by decide)
  · obtain ⟨sources, event, now, same, -, asked⟩ :=
      nameless (.event (dockerSources (.error .unavailable)) (.start 1) 0) 1 (by decide) ignored
    cases same
    rcases asked with ⟨-, found⟩ | ⟨moves, -⟩
    · exact found
    · exact absurd moves.2.2 (by decide)

end System

end Attribution
