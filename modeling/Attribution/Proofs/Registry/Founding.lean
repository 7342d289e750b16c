import Attribution.Proofs.Registry.Phases

/-!
How containers come to be.

A container is founded with a name, a cgroup and what the runtime has told, and none of the three
changes afterwards: processes come and go, connections are recorded and purged, and the founding stays.
The only operation that founds a container is the resolution of a process, and then the founding is what
the sources have said about the cgroup of that process.
-/

namespace Attribution

open Kernel (Pid)

/-- What a container is founded with. -/
structure Founding where
  identity : Identity
  cgroup : Cgroup
  metadata : Option Metadata

def Container.founding (container : Container) : Founding :=
  ⟨container.identity, container.cgroup, container.metadata⟩

/-- The sources lead from a process to the founding. -/
structure Sources.Founds (sources : Sources) (pid : Pid) (founding : Founding) : Prop where
  read : sources.cgroupOf pid = .ok founding.cgroup
  answered : Registry.metadataFor sources founding.cgroup = .ok founding.metadata
  named : Identity.derive founding.cgroup.kind founding.cgroup.containerId founding.metadata =
    some founding.identity

namespace Registry

variable {sources : Sources} {registry next : Registry} {pid : Pid} {number : Nat} {event : Event}
  {now : Instant}

def foundings (registry : Registry) : List Founding :=
  registry.created.map Container.founding

/-! ### Operations that found nothing -/

theorem foundings_change {update : Container → Container}
    (keeps : ∀ container, (update container).founding = container.founding) :
    (registry.change number update).foundings = registry.foundings := by
  apply List.ext_getElem?
  intro n
  simp only [foundings, change, List.getElem?_map, List.getElem?_modify]
  cases registry.created[n]? with
  | none => rfl
  | some container =>
    apply congrArg some
    dsimp only
    split
    · exact keeps container
    · rfl

theorem foundings_track (registry : Registry) (number : Nat) (update : Tracker → Tracker) :
    (registry.track number update).foundings = registry.foundings :=
  foundings_change fun _ => rfl

theorem foundings_attach (registry : Registry) (pid : Pid) (number : Nat) :
    (registry.attach pid number).foundings = registry.foundings :=
  foundings_change fun _ => rfl

theorem foundings_noteLookup (registry : Registry) (cgroup : Cgroup) :
    (registry.noteLookup cgroup).foundings = registry.foundings := by
  rw [foundings, created_noteLookup, foundings]

theorem foundings_record (registry : Registry) (event : Event) (now : Instant) :
    (registry.record event now).foundings = registry.foundings :=
  record_cases (·.foundings = registry.foundings) event now rfl
    fun number update _ => foundings_track registry number update

theorem foundings_purge (registry : Registry) (now ttl : Instant) :
    (registry.purge now ttl).foundings = registry.foundings :=
  purge_induction (·.foundings = registry.foundings) now ttl rfl
    fun next number same => (foundings_track next number _).trans same

theorem foundings_applyAnswer (registry : Registry) (request : NatRequest) (answer : Option Address) :
    (registry.applyAnswer request answer).1.foundings = registry.foundings :=
  applyAnswer_cases (·.foundings = registry.foundings) request answer rfl
    (foundings_track registry request.container)

theorem foundings_exit (registry : Registry) (pid : Pid) (now : Instant) :
    (registry.exit pid now).foundings = registry.foundings := by
  have departure := exit_departure registry pid now
  generalize registry.exit pid now = next at departure ⊢
  have left (number : Nat) : (registry.leaving pid number now).foundings = registry.foundings :=
    foundings_change fun _ => rfl
  cases departure with
  | unknown absent => rfl
  | ignored found => rfl
  | remains found inhabited => exact left _
  | last found deserted => exact left _

/-! ### The resolution of a process -/

theorem foundings_create (registry : Registry) (pid : Pid) (identity : Identity) (cgroup : Cgroup)
    (metadata : Option Metadata) : (registry.create pid identity cgroup metadata).foundings =
      registry.foundings ++ [⟨identity, cgroup, metadata⟩] := by
  rw [create, foundings_attach, foundings, List.map_append]
  rfl

theorem foundings_start (sources : Sources) (registry : Registry) (pid : Pid) :
    ∃ more, (registry.start sources pid).foundings = registry.foundings ++ more ∧
      ∀ founding ∈ more, sources.Founds pid founding := by
  have resolution := start_resolution sources registry pid
  generalize registry.start sources pid = next at resolution ⊢
  have noted (cgroup : Cgroup) : (registry.noteLookup cgroup).foundings = registry.foundings ++ [] := by
    rw [foundings_noteLookup, List.append_nil]
  cases resolution with
  | settled | unreadable => exact ⟨[], (List.append_nil _).symm, by simp⟩
  | known => exact ⟨[], (foundings_attach registry pid _).trans (List.append_nil _).symm, by simp⟩
  | @unanswered cgroup => exact ⟨[], noted cgroup, by simp⟩
  | @untracked cgroup => exact ⟨[], noted cgroup, by simp⟩
  | @joined cgroup _ _ number => exact ⟨[], (foundings_attach _ pid number).trans (noted cgroup), by simp⟩
  | @created cgroup metadata identity unknown read fresh answered named first =>
    refine ⟨[⟨identity, cgroup, metadata⟩], ?_, ?_⟩
    · rw [foundings_create, foundings_noteLookup]
    · intro founding member
      rw [List.mem_singleton.1 member]
      exact ⟨read, answered, named⟩

/-- What an event founds is what its sources say of its process, at first or when they are read again. -/
theorem foundings_handle (sources : Sources) (registry : Registry) (event : Event) (now : Instant) :
    ∃ more, (registry.handle sources event now).foundings = registry.foundings ++ more ∧
      ∀ founding ∈ more, sources.Founds event.pid founding ∨ sources.later.Founds event.pid founding := by
  rw [handle_eq, foundings_record]
  have preparation := prepare_preparation sources registry event now
  generalize registry.prepare sources event now = next at preparation ⊢
  cases preparation with
  | idle => exact ⟨[], (List.append_nil _).symm, by simp⟩
  | starts =>
    obtain ⟨more, grown, founded⟩ := foundings_start sources registry event.pid
    exact ⟨more, grown, fun founding member => .inl (founded founding member)⟩
  | exits kind => exact ⟨[], (foundings_exit registry event.pid now).trans (List.append_nil _).symm, by simp⟩
  | moves asks speaks elsewhere =>
    obtain ⟨more, grown, founded⟩ := foundings_start sources.later (registry.exit event.pid now) event.pid
    rw [foundings_exit] at grown
    exact ⟨more, grown, fun founding member => .inr (founded founding member)⟩

end Registry

end Attribution
