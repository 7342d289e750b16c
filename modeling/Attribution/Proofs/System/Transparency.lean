import Attribution.Proofs.Files.Finding
import Attribution.Proofs.Registry.Standing
import Attribution.Proofs.System.Basic

/-!
Remembering changes nothing.

A run is followed process by process: an end makes a process unknown, and an event that resolves it
makes it what its cgroup file and the runtime say, whatever the registry remembers of other processes.
Main statement: while those say the same throughout, the registry knows of every process what they say,
and the order of events matters only as far as processes end.
-/

namespace Attribution.System

open Kernel (Pid)

variable {sources : Sources} {steps more others : List Step} {step : Step} {pid : Pid}
  {before : Standing}

/-- Every event of a run finds the same cgroup files and the same answers of the runtime. -/
def Asking (sources : Sources) (steps : List Step) : Prop :=
  ∀ asked event now, .event asked event now ∈ steps → asked = sources

theorem asking_append : Asking sources (steps ++ more) ↔ Asking sources steps ∧ Asking sources more := by
  simp only [Asking, List.mem_append]
  constructor
  · intro asking
    exact ⟨fun asked event now member => asking asked event now (.inl member),
      fun asked event now member => asking asked event now (.inr member)⟩
  · rintro ⟨first, second⟩ asked event now (member | member)
    · exact first asked event now member
    · exact second asked event now member

/-! ### One process -/

def Step.ends (pid : Pid) : Step → Bool
  | .event _ seen _ => decide (seen.pid = pid) && decide (seen.kind = .processExit)
  | _ => false

def Step.resolves (pid : Pid) : Step → Bool
  | .event _ seen now => decide (seen.pid = pid) && seen.resolves now
  | _ => false

/-- What becomes of a process by a step, if every event that resolves it asks afresh. -/
def Step.settle (sources : Sources) (pid : Pid) (before : Standing) : Step → Standing
  | .event _ seen now => seen.settle sources now pid before
  | _ => before

/-- What becomes of a process in the course of a run, if every event that resolves it asks afresh. -/
def settle (sources : Sources) (pid : Pid) (before : Standing) (steps : List Step) : Standing :=
  steps.foldl (Step.settle sources pid) before

theorem settle_append (sources : Sources) (pid : Pid) (before : Standing) (steps more : List Step) :
    settle sources pid before (steps ++ more) =
      settle sources pid (settle sources pid before steps) more :=
  List.foldl_append

theorem settle_of_not_ends (remains : step.ends pid = false) :
    step.settle sources pid before = if step.resolves pid then sources.standing pid else before := by
  cases step with
  | event asked event now =>
    simp only [Step.ends, Bool.and_eq_false_imp, decide_eq_true_eq, decide_eq_false_iff_not] at remains
    by_cases own : event.pid = pid
    · simp [Step.settle, Step.resolves, Event.settle, own, remains own]
    · simp [Step.settle, Step.resolves, Event.settle, own]
  | purge now ttl => rfl
  | take count conntrack => rfl
  | deliver => rfl

theorem settle_of_none_ends (remains : ∀ step ∈ steps, step.ends pid = false) :
    settle sources pid before steps =
      if steps.any (·.resolves pid) then sources.standing pid else before := by
  induction steps generalizing before with
  | nil => rfl
  | cons step rest ih =>
    have later : settle sources pid (step.settle sources pid before) rest =
        if rest.any (·.resolves pid) then sources.standing pid else step.settle sources pid before :=
      ih fun other member => remains other (List.mem_cons_of_mem step member)
    change settle sources pid (step.settle sources pid before) rest = _
    rw [later, settle_of_not_ends (remains step List.mem_cons_self), List.any_cons]
    cases step.resolves pid <;> simp

/-! ### Runs -/

theorem namesStay_perform (system : System) (step : Step) :
    system.registry.NamesStay (system.perform step).registry := by
  obtain ⟨more, grown, -⟩ := foundings_perform system step
  exact .of_foundings grown

theorem faithful_after (steady : sources.Steady) (asking : Asking sources steps) :
    (after steps).registry.Faithful sources := by
  induction steps using List.reverseRecOn with
  | nil => exact Registry.faithful_empty sources
  | append_singleton steps step ih =>
    obtain ⟨earlier, last⟩ := asking_append.1 asking
    have faithful := ih earlier
    rw [after_snoc]
    cases step with
    | event asked event now =>
      rw [last asked event now (List.mem_singleton_self _)]
      exact faithful.handle (orderly_after steps).toConsistent steady event now
    | _ => exact faithful.samePlaces (namesStay_perform _ _) (samePlaces_perform _ (by simp))

/-- What the registry knows of a process is what becomes of it by asking afresh every time. -/
theorem standing_after (steady : sources.Steady) (asking : Asking sources steps) (pid : Pid) :
    (after steps).registry.standing pid = settle sources pid .unknown steps := by
  induction steps using List.reverseRecOn with
  | nil => rfl
  | append_singleton steps step ih =>
    obtain ⟨earlier, last⟩ := asking_append.1 asking
    have faithful := faithful_after steady earlier
    have next := faithful_after steady asking
    rw [after_snoc] at next ⊢
    rw [settle_append, ← ih earlier]
    cases step with
    | event asked event now =>
      rw [last asked event now (List.mem_singleton_self _)]
      exact faithful.standing_handle (orderly_after steps).toConsistent steady event now pid
    | _ => exact faithful.standing_congr next ((samePlaces_perform _ (by simp)).byPid pid)

/-- The start of a process was seen, and its end not since. -/
def Running (pid : Pid) (steps : List Step) : Prop :=
  ∃ earlier later asked event now, steps = earlier ++ .event asked event now :: later ∧
    event.pid = pid ∧ event.kind = .processStart ∧ ∀ step ∈ later, step.ends pid = false

theorem standing_of_running (steady : sources.Steady) (asking : Asking sources steps)
    (running : Running pid steps) : (after steps).registry.standing pid = sources.standing pid := by
  obtain ⟨earlier, later, asked, event, now, rfl, own, kind, remains⟩ := running
  have starts : Step.resolves pid (.event asked event now) = true := by
    simp [Step.resolves, own, Event.resolves, kind]
  have stays : ∀ step ∈ .event asked event now :: later, step.ends pid = false := by
    intro step member
    rcases List.mem_cons.1 member with rfl | after
    · simp [Step.ends, kind]
    · exact remains step after
  rw [standing_after steady asking, settle_append, settle_of_none_ends stays, List.any_cons, starts,
    Bool.true_or, if_pos rfl]

theorem standing_of_perm (steady : sources.Steady) (asking : Asking sources (steps ++ more))
    (reordered : more.Perm others) (remains : ∀ step ∈ more, step.ends pid = false) :
    (after (steps ++ more)).registry.standing pid = (after (steps ++ others)).registry.standing pid := by
  have askingOthers : Asking sources (steps ++ others) := by
    obtain ⟨first, second⟩ := asking_append.1 asking
    exact asking_append.2 ⟨first, fun asked event now member =>
      second asked event now (reordered.mem_iff.2 member)⟩
  have remainsOthers : ∀ step ∈ others, step.ends pid = false :=
    fun step member => remains step (reordered.mem_iff.2 member)
  rw [standing_after steady asking, standing_after steady askingOthers, settle_append, settle_append,
    settle_of_none_ends remains, settle_of_none_ends remainsOthers, reordered.any_eq]

/-- While the cgroup files and the runtime's answers stay as they are, a process that is mapped is in
the container whose name its own cgroup gives, one that is ignored is in a cgroup without a name, one
that was seen to start is unknown only if its cgroup or the runtime cannot be read, and the order of
events that do not end a process makes no difference to it. -/
theorem caches_transparent {files : Files.Tree} {root : Path} {base : String}
    {metadataOf : String → Except Engine.Error Metadata} {steps : List Step}
    (asking : Asking (.ofFiles files root base metadataOf) steps) :
    let sources := Sources.ofFiles files root base metadataOf
    let registry := (after steps).registry
    (∀ pid number, registry.byPid.get? pid = some (.mapped number) →
      ∃ cgroup metadata container, Cgroup.ofPid files root base pid = .ok cgroup ∧
        Registry.metadataFor sources cgroup = .ok metadata ∧
        registry.container? number = some container ∧
        Identity.derive cgroup.kind cgroup.containerId metadata = some container.identity) ∧
      (∀ pid, registry.byPid.get? pid = some .ignored →
        ∃ cgroup metadata, Cgroup.ofPid files root base pid = .ok cgroup ∧
          Registry.metadataFor sources cgroup = .ok metadata ∧
          Identity.derive cgroup.kind cgroup.containerId metadata = none) ∧
      (∀ pid, Running pid steps → (registry.byPid.get? pid = none ↔
        (∃ failure, Cgroup.ofPid files root base pid = .error failure) ∨
          ∃ cgroup failure, Cgroup.ofPid files root base pid = .ok cgroup ∧
            Registry.metadataFor sources cgroup = .error failure)) ∧
      ∀ more others pid, more.Perm others → Asking sources more →
        (∀ step ∈ more, step.ends pid = false) →
        (after (steps ++ more)).registry.standing pid = (after (steps ++ others)).registry.standing pid := by
  intro sources registry
  have steady : sources.Steady := Sources.steady_ofFiles files root base metadataOf
  have faithful : registry.Faithful sources := faithful_after steady asking
  refine ⟨?_, ?_, ?_, ?_⟩
  · intro pid number mapped
    obtain ⟨identity, named, said⟩ := Option.map_eq_some_iff.1 (faithful.pids mapped)
    obtain ⟨container, here, rfl⟩ := Option.map_eq_some_iff.1 named
    have name : sources.standing pid = .ofName (some container.identity) := said.symm
    obtain ⟨cgroup, metadata, read, answered, derived⟩ := Sources.standing_eq_ofName_iff.1 name
    exact ⟨cgroup, metadata, container, read, answered, here, derived⟩
  · intro pid ignored
    have nameless : sources.standing pid = .ofName none := (Option.some.inj (faithful.pids ignored)).symm
    exact Sources.standing_eq_ofName_iff.1 nameless
  · intro pid running
    rw [← faithful.standing_eq_unknown_iff, standing_of_running steady asking running]
    exact Sources.standing_eq_unknown_iff
  · intro more others pid reordered askingMore remains
    exact standing_of_perm steady (asking_append.2 ⟨asking, askingMore⟩) reordered remains

/-! ### A unit whose processes are seen in either order -/

/-- The unit runs in a cgroup of its own, process 101 in one below it. -/
def unitFiles : Files.Tree :=
  ⟨.ofList [(["proc"], .directory), (["proc", "100"], .directory), (["proc", "101"], .directory),
    (["proc", "100", "cgroup"], .file (Text.utf8 "0::/system.slice/a.service\n")),
    (["proc", "101", "cgroup"], .file (Text.utf8 "0::/system.slice/a.service/b\n"))]⟩

def unitSources : Sources :=
  .ofFiles unitFiles "/proc" "/" fun _ => .error .unavailable

def bothSeen : List Step :=
  [.event unitSources (.start 101) 0, .event unitSources (.start 100) 0]

theorem bothSeen_asking : Asking unitSources bothSeen := by
  intro asked event now member
  simp only [bothSeen, List.mem_cons, List.not_mem_nil, or_false, Step.event.injEq] at member
  rcases member with ⟨rfl, _⟩ | ⟨rfl, _⟩ <;> rfl

theorem bothSeen_running : Running 101 bothSeen :=
  ⟨[], [.event unitSources (.start 100) 0], unitSources, .start 101, 0, rfl, rfl, rfl, by decide⟩

theorem unit_read : ∃ paths, Cgroup.ofPid unitFiles "/proc" "/" 101 =
    .ok ⟨"/system.slice/a.service/b", .v2, .systemd, "/system.slice/a.service", paths⟩ := by
  have place : Path.ofPid "/proc" 101 ["cgroup"] = "/proc/101/cgroup" := by decide +kernel
  have found : unitFiles.find true "/proc/101/cgroup" =
      .ok (["proc", "101", "cgroup"], .file (Text.utf8 "0::/system.slice/a.service/b\n")) :=
    Files.Tree.find_names (by decide +kernel) (by decide) rfl (by simp)
  have text : Files.readText unitFiles "/proc/101/cgroup" = .ok "0::/system.slice/a.service/b\n" := by
    rw [Files.readText, Files.Tree.readText, Files.Tree.read, Files.Tree.openEntry, Files.Tree.stat, found]
    decide +kernel
  have parsed : Cgroup.recordAll "/" .empty (Cgroup.writtenLines "0::/system.slice/a.service/b\n") =
      .ok (.ofList [("", "/system.slice/a.service/b")]) := rfl
  unfold Cgroup.ofPid
  dsimp only
  rw [place, text]
  dsimp only
  unfold Cgroup.ofContent
  rw [parsed]
  exact ⟨_, rfl⟩

/-- The worker belongs to its unit, whether it is seen before the unit's own process or after it. -/
theorem worker_in_unit :
    (∃ number container, (after bothSeen).registry.byPid.get? 101 = some (.mapped number) ∧
      (after bothSeen).registry.container? number = some container ∧
      container.identity = ⟨"/system.slice/a.service"⟩) ∧
      (after bothSeen).registry.standing 101 = (after bothSeen.reverse).registry.standing 101 := by
  obtain ⟨mapped, ignored, unknown, _⟩ := caches_transparent bothSeen_asking
  have nothing : Asking unitSources [] := fun _ _ _ member => nomatch member
  obtain ⟨_, _, _, ordered⟩ := caches_transparent nothing
  obtain ⟨paths, read⟩ := unit_read
  have answered : Registry.metadataFor unitSources ⟨"/system.slice/a.service/b", .v2, .systemd,
    "/system.slice/a.service", paths⟩ = .ok none := rfl
  have derived : Identity.derive .systemd "/system.slice/a.service" none =
      some ⟨"/system.slice/a.service"⟩ := by decide
  constructor
  · rcases state : (after bothSeen).registry.byPid.get? 101 with _ | number | _
    · rcases (unknown 101 bothSeen_running).1 state with ⟨_, failed⟩ | ⟨_, _, again, failed⟩
      · cases read.symm.trans failed
      · cases read.symm.trans again
        cases answered.symm.trans failed
    · obtain ⟨_, _, container, again, answer, here, named⟩ := mapped 101 number state
      cases read.symm.trans again
      cases answered.symm.trans answer
      exact ⟨number, container, rfl, here, Option.some.inj (named.symm.trans derived)⟩
    · obtain ⟨_, _, again, answer, nameless⟩ := ignored 101 state
      cases read.symm.trans again
      cases answered.symm.trans answer
      cases derived.symm.trans nameless
  · exact ordered bothSeen bothSeen.reverse 101 (List.reverse_perm bothSeen).symm bothSeen_asking (by decide)

end Attribution.System
