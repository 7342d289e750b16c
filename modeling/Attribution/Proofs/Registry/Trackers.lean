import Attribution.Proofs.Registry.Phases

/-!
What the registry's operations do to the trackers of its containers.

A tracker changes by acts alone: the exit of a process that its container has lost, what an event
says, a purge, and the redirection that an answer asks for.  A property of trackers that these acts
keep therefore holds of every container ever created.
-/

namespace Attribution.Registry

open Kernel (Pid)

variable {sources : Sources} {registry : Registry} {pid : Pid} {number : Nat} {event : Event}
  {now : Instant}

def tracker? (registry : Registry) (number : Nat) : Option Tracker :=
  (registry.container? number).map (·.tracker)

theorem tracker?_track (update : Tracker → Tracker) (n : Nat) :
    (registry.track number update).tracker? n =
      if n = number then (registry.tracker? n).map update else registry.tracker? n := by
  unfold tracker? track
  rw [container?_change]
  split
  · rw [Option.map_map, Option.map_map]
    rfl
  · rfl

theorem tracker?_attach (n : Nat) : (registry.attach pid number).tracker? n = registry.tracker? n := by
  unfold tracker?
  rw [container?_attach]
  split
  · rw [Option.map_map]
    rfl
  · rfl

theorem tracker?_create (identity : Identity) (cgroup : Cgroup) (metadata : Option Metadata)
    (n : Nat) :
    (registry.create pid identity cgroup metadata).tracker? n =
      if n = registry.created.length then some .empty else registry.tracker? n := by
  unfold tracker?
  rw [container?_create]
  split <;> rfl

theorem tracker?_noteLookup (cgroup : Cgroup) (n : Nat) :
    (registry.noteLookup cgroup).tracker? n = registry.tracker? n := by
  obtain ⟨lookups, noted⟩ := noteLookup_eq registry cgroup
  rw [noted]
  rfl

theorem tracker?_start (sources : Sources) (registry : Registry) (pid : Pid) (n : Nat) :
    (registry.start sources pid).tracker? n = registry.tracker? n ∨
      (registry.tracker? n = none ∧ (registry.start sources pid).tracker? n = some .empty ∧
        (registry.start sources pid).byPid.get? pid = some (.mapped n)) := by
  have resolution := start_resolution sources registry pid
  generalize registry.start sources pid = next at resolution ⊢
  cases resolution with
  | settled found => exact .inl rfl
  | unreadable unknown read => exact .inl rfl
  | known unknown read found => exact .inl (tracker?_attach n)
  | unanswered unknown read fresh failed => exact .inl (tracker?_noteLookup _ n)
  | untracked unknown read fresh answered nameless => exact .inl (tracker?_noteLookup _ n)
  | @joined cgroup _ _ _ unknown read fresh answered named found =>
    exact .inl ((tracker?_attach n).trans (tracker?_noteLookup cgroup n))
  | @created cgroup _ _ unknown read fresh answered named first =>
    rw [tracker?_create, byPid_create, if_pos rfl, created_noteLookup]
    split
    · rename_i new
      rw [new]
      exact .inr ⟨by rw [tracker?, container?_length]; rfl, rfl, rfl⟩
    · exact .inl (tracker?_noteLookup cgroup n)

theorem tracker?_leaving (n : Nat) :
    (registry.leaving pid number now).tracker? n =
      if n = number then (registry.tracker? n).map (·.perform (.exit pid now))
      else registry.tracker? n := by
  unfold tracker?
  rw [container?_leaving]
  split
  · rw [Option.map_map, Option.map_map]
    rfl
  · rfl

theorem tracker?_exit (registry : Registry) (pid : Pid) (now : Instant) (n : Nat) :
    (registry.exit pid now).tracker? n =
      if registry.byPid.get? pid = some (.mapped n) then
        (registry.tracker? n).map (·.perform (.exit pid now))
      else registry.tracker? n := by
  have departure := exit_departure registry pid now
  generalize registry.exit pid now = next at departure ⊢
  cases departure with
  | unknown absent => simp [absent]
  | ignored found =>
    simp only [found, Option.some.injEq, reduceCtorEq, if_false]
    rfl
  | remains found inhabited => simp [found, tracker?_leaving, eq_comm]
  | last found deserted =>
    simp only [found, Option.some.injEq, PidState.mapped.injEq, eq_comm]
    exact tracker?_leaving n

theorem tracker?_askAbout (n : Nat) :
    (registry.askAbout event number).tracker? n = registry.tracker? n := by
  obtain ⟨queue, asked⟩ := askAbout_eq registry event number
  rw [asked]
  rfl

theorem tracker?_record (registry : Registry) (event : Event) (now : Instant) (n : Nat) :
    (registry.record event now).tracker? n = registry.tracker? n ∨
      ∃ act, event.act? now = some act ∧ registry.byPid.get? event.pid = some (.mapped n) ∧
        (registry.record event now).tracker? n = (registry.tracker? n).map (·.perform act) := by
  unfold record
  split
  · rename_i act number does mapped
    rw [tracker?_askAbout, tracker?_track]
    split
    · rename_i here
      subst here
      exact .inr ⟨act, does, containerOf?_eq_some_iff.1 mapped, rfl⟩
    · exact .inl rfl
  · exact .inl rfl

theorem tracker?_record_of_mapped {act : Tracker.Act} (does : event.act? now = some act)
    (mapped : registry.byPid.get? event.pid = some (.mapped number)) (n : Nat) :
    (registry.record event now).tracker? n =
      if n = number then (registry.tracker? n).map (·.perform act) else registry.tracker? n := by
  unfold record
  rw [does, containerOf?_eq_some_iff.2 mapped]
  exact (tracker?_askAbout n).trans (tracker?_track _ n)

theorem tracker?_applyAnswer (registry : Registry) (request : NatRequest) (answer : Option Address)
    (n : Nat) :
    (registry.applyAnswer request answer).1.tracker? n = registry.tracker? n ∨
      ∃ actual, answer = some actual ∧ n = request.container ∧
        (registry.applyAnswer request answer).1.tracker? n =
          (registry.tracker? n).map (·.perform (.redirect request.socket request.timestamp actual)) := by
  unfold applyAnswer
  split
  · exact .inl rfl
  · rename_i actual
    split
    · exact .inl rfl
    · rw [tracker?_track]
      split
      · rename_i here
        exact .inr ⟨actual, rfl, here, rfl⟩
      · exact .inl rfl

theorem queue_applyAnswer (registry : Registry) (request : NatRequest) (answer : Option Address) :
    (registry.applyAnswer request answer).1.queue = registry.queue :=
  applyAnswer_cases (·.queue = registry.queue) request answer rfl fun _ => rfl

theorem queue_purge (registry : Registry) (now ttl : Instant) :
    (registry.purge now ttl).queue = registry.queue :=
  purge_induction (·.queue = registry.queue) now ttl rfl fun _ _ same => same

/-! ### Properties of every tracker -/

/-- All containers ever created have a tracker with a property. -/
def Everywhere (property : Tracker → Prop) (registry : Registry) : Prop :=
  ∀ number tracker, registry.tracker? number = some tracker → property tracker

section Everywhere

variable {property : Tracker → Prop}

theorem everywhere_start (fresh : property .empty) (holds : registry.Everywhere property)
    (sources : Sources) (pid : Pid) : (registry.start sources pid).Everywhere property := by
  intro n tracker found
  rcases tracker?_start sources registry pid n with same | ⟨_, new, _⟩
  · exact holds n tracker (same ▸ found)
  · rw [new] at found
    cases found
    exact fresh

theorem everywhere_of_acted {next : Registry} {act : Tracker.Act}
    (keeps : ∀ tracker, property tracker → property (tracker.perform act))
    (holds : registry.Everywhere property)
    (acted : ∀ n, next.tracker? n = registry.tracker? n ∨
      next.tracker? n = (registry.tracker? n).map (·.perform act)) : next.Everywhere property := by
  intro n tracker found
  rcases acted n with same | performed
  · exact holds n tracker (same ▸ found)
  · rw [performed, Option.map_eq_some_iff] at found
    obtain ⟨before, present, rfl⟩ := found
    exact keeps before (holds n before present)

theorem everywhere_exit (holds : registry.Everywhere property)
    (keeps : ∀ tracker, property tracker → property (tracker.perform (.exit pid now))) :
    (registry.exit pid now).Everywhere property := by
  refine everywhere_of_acted keeps holds fun n => ?_
  rw [tracker?_exit]
  split
  · exact .inr rfl
  · exact .inl rfl

theorem everywhere_prepare (fresh : property .empty)
    (exits : ∀ tracker, property tracker → property (tracker.perform (.exit event.pid now)))
    (holds : registry.Everywhere property) (sources : Sources) :
    (registry.prepare sources event now).Everywhere property := by
  have preparation := prepare_preparation sources registry event now
  generalize registry.prepare sources event now = next at preparation ⊢
  cases preparation with
  | idle => exact holds
  | starts => exact everywhere_start fresh holds sources event.pid
  | exits kind => exact everywhere_exit holds exits
  | moves asks speaks elsewhere =>
    exact everywhere_start fresh (everywhere_exit holds exits) sources.later event.pid

theorem everywhere_record
    (acts : ∀ tracker act, event.act? now = some act → property tracker →
      property (tracker.perform act))
    (holds : registry.Everywhere property) : (registry.record event now).Everywhere property := by
  cases does : event.act? now with
  | none =>
    have same : registry.record event now = registry := by simp [record, does]
    rw [same]
    exact holds
  | some act =>
    refine everywhere_of_acted (fun tracker => acts tracker act does) holds fun n => ?_
    rcases tracker?_record registry event now n with same | ⟨_, done, _, performed⟩
    · exact .inl same
    · rw [does] at done
      cases done
      exact .inr performed

theorem everywhere_applyAnswer {request : NatRequest} {answer : Option Address}
    (keeps : ∀ tracker actual, answer = some actual → registry.tracker? request.container = some tracker →
      property tracker → property (tracker.perform (.redirect request.socket request.timestamp actual)))
    (holds : registry.Everywhere property) :
    (registry.applyAnswer request answer).1.Everywhere property := by
  intro n tracker found
  rcases tracker?_applyAnswer registry request answer n with same | ⟨actual, given, rfl, performed⟩
  · exact holds n tracker (same ▸ found)
  · rw [performed, Option.map_eq_some_iff] at found
    obtain ⟨before, present, rfl⟩ := found
    exact keeps before actual given present (holds _ before present)

theorem everywhere_purge {ttl : Instant}
    (keeps : ∀ tracker, property tracker → property (tracker.perform (.purge now ttl)))
    (holds : registry.Everywhere property) : (registry.purge now ttl).Everywhere property := by
  refine purge_induction (Everywhere property) now ttl holds fun next number holds => ?_
  refine everywhere_of_acted keeps holds fun n => ?_
  rw [tracker?_track]
  split
  · exact .inr rfl
  · exact .inl rfl

end Everywhere

end Attribution.Registry
