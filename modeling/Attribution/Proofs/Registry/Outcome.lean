import Attribution.Proofs.Registry.Places
import Attribution.Proofs.Registry.Standing

/-!
What resolving a process comes to.

A cgroup that has led to a container leads there again; any other is what the runtime says about it.
This is told from the registry as it is before the process is resolved, and it fixes what is known of
the process afterwards, whatever the sources have said before.
-/

namespace Attribution.Registry

open Kernel (Pid)

variable {sources : Sources} {registry next : Registry} {pid : Pid} {number n : Nat} {identity : Identity}

/-! ### What is known of a process -/

theorem standing_eq_of_iff : registry.standing pid = .of identity ↔
    ∃ n, registry.byPid.get? pid = some (.mapped n) ∧ registry.name? n = some identity := by
  unfold standing
  cases found : registry.byPid.get? pid with
  | none => simp
  | some state =>
    cases state with
    | ignored => simp [meaning?]
    | mapped n => cases named : registry.name? n <;> simp [meaning?, named]

theorem standing_eq_ignored_iff :
    registry.standing pid = .ignored ↔ registry.byPid.get? pid = some .ignored := by
  unfold standing
  cases found : registry.byPid.get? pid with
  | none => simp
  | some state =>
    cases state with
    | ignored => simp [meaning?]
    | mapped n => cases named : registry.name? n <;> simp [meaning?, named]

theorem standing_congr (foundings : next.foundings = registry.foundings)
    (state : next.byPid.get? pid = registry.byPid.get? pid) : next.standing pid = registry.standing pid := by
  have names (n : Nat) : next.name? n = registry.name? n := by
    rw [name?_eq, name?_eq, foundings]
  have meanings (state : PidState) : next.meaning? state = registry.meaning? state := by
    cases state with
    | ignored => rfl
    | mapped n => rw [meaning?, meaning?, names]
  rw [standing, standing, state, funext meanings]

theorem Linked.name?_of_indexed (linked : registry.Linked) (indexed : registry.Indexed number) :
    ∃ identity, registry.name? number = some identity := by
  obtain ⟨container, here⟩ := linked.container_of_indexed indexed
  exact ⟨container.identity, by rw [name?, here, Option.map_some]⟩

theorem Linked.byIdentity_of_name (linked : registry.Linked) (indexed : registry.Indexed number)
    (named : registry.name? number = some identity) :
    registry.byIdentity.get? identity = some number := by
  obtain ⟨own, found⟩ := indexed
  obtain ⟨container, here, rfl, _⟩ := linked.own_identity found
  rw [name?, here, Option.map_some, Option.some.injEq] at named
  rw [← named, found]

theorem Linked.standing_eq_unknown_iff (linked : registry.Linked) :
    registry.standing pid = .unknown ↔ registry.byPid.get? pid = none := by
  unfold standing
  cases found : registry.byPid.get? pid with
  | none => simp
  | some state =>
    cases state with
    | ignored => simp [meaning?]
    | mapped n =>
      obtain ⟨identity, named⟩ :=
        linked.name?_of_indexed (linked.hosts_indexed (linked.mapped_iff_hosts.1 found))
      simp [meaning?, named]

/-! ### What becomes of a process -/

/-- What an unknown process is found to be. -/
def outcome (sources : Sources) (registry : Registry) (pid : Pid) : Standing :=
  match sources.cgroupOf pid with
  | .error _ => .unknown
  | .ok cgroup =>
    match (registry.byCgroup.get? cgroup.id).bind registry.name? with
    | some identity => .of identity
    | none => sources.standingIn cgroup

/-- The resolution of an unknown process fails: its cgroup cannot be told, or is not known yet and the
runtime gives no answer about it. -/
inductive Fails (sources : Sources) (registry : Registry) (pid : Pid) : Prop where
  | unread {failure : Cgroup.Error} (read : sources.cgroupOf pid = .error failure)
  | unanswered {cgroup : Cgroup} {failure : Engine.Error} (read : sources.cgroupOf pid = .ok cgroup)
      (fresh : registry.byCgroup.get? cgroup.id = none)
      (failed : metadataFor sources cgroup = .error failure)

theorem outcome_of_fresh {cgroup : Cgroup} (read : sources.cgroupOf pid = .ok cgroup)
    (fresh : registry.byCgroup.get? cgroup.id = none) :
    registry.outcome sources pid = sources.standingIn cgroup := by
  simp only [outcome, read, fresh, Option.bind_none]

theorem outcome_of_known {cgroup : Cgroup} (read : sources.cgroupOf pid = .ok cgroup)
    (found : registry.byCgroup.get? cgroup.id = some number)
    (named : registry.name? number = some identity) : registry.outcome sources pid = .of identity := by
  simp only [outcome, read, found, Option.bind_some, named]

theorem Consistent.standing_start (consistent : registry.Consistent)
    (unknown : registry.byPid.get? pid = none) (sources : Sources) :
    (registry.start sources pid).standing pid = registry.outcome sources pid := by
  have resolution := start_resolution sources registry pid
  obtain ⟨more, grown, -⟩ := foundings_start sources registry pid
  have stay : registry.NamesStay (registry.start sources pid) := .of_foundings grown
  generalize registry.start sources pid = next at resolution stay ⊢
  cases resolution with
  | settled found =>
    rw [unknown] at found
    cases found
  | unreadable _ read => simp only [standing, unknown, outcome, read, Option.bind_none, Option.getD_none]
  | known _ read found =>
    obtain ⟨identity, named⟩ := consistent.name?_of_indexed (consistent.cgroup_indexed found)
    rw [outcome_of_known read found named, standing_eq_of_iff]
    exact ⟨_, by rw [byPid_attach, if_pos rfl], stay _ _ named⟩
  | unanswered _ read fresh failed =>
    rw [outcome_of_fresh read fresh, Sources.standingIn_of_unanswered failed]
    simp only [standing, byPid_noteLookup, unknown, Option.bind_none, Option.getD_none]
  | untracked _ read fresh answered nameless =>
    rw [outcome_of_fresh read fresh, Sources.standingIn_of_answered answered, nameless, Standing.ofName,
      standing_eq_ignored_iff, byPid_ignore, if_pos rfl]
  | joined _ read fresh answered named found =>
    rw [outcome_of_fresh read fresh, Sources.standingIn_of_answered answered, named, Standing.ofName,
      standing_eq_of_iff]
    obtain ⟨container, here, own, _⟩ := consistent.own_identity found
    refine ⟨_, by rw [joinBy, byPid_attach, if_pos rfl], stay _ _ ?_⟩
    rw [name?, here, Option.map_some, own]
  | created _ read fresh answered named first =>
    rw [outcome_of_fresh read fresh, Sources.standingIn_of_answered answered, named, Standing.ofName,
      standing_eq_of_iff]
    refine ⟨_, by rw [byPid_create, if_pos rfl], ?_⟩
    rw [name?, container?_create, if_pos rfl]
    rfl

/-! ### Failures -/

theorem Linked.outcome_eq_unknown_iff (linked : registry.Linked) :
    registry.outcome sources pid = .unknown ↔ registry.Fails sources pid := by
  constructor
  · intro unknown
    unfold outcome at unknown
    split at unknown
    · rename_i read
      exact .unread read
    · rename_i cgroup read
      split at unknown
      · cases unknown
      · rename_i nameless
        have fresh : registry.byCgroup.get? cgroup.id = none := by
          by_contra found
          obtain ⟨number, found⟩ := Option.ne_none_iff_exists'.1 found
          obtain ⟨identity, named⟩ := linked.name?_of_indexed (linked.cgroup_indexed found)
          rw [found, Option.bind_some, named] at nameless
          cases nameless
        unfold Sources.standingIn at unknown
        split at unknown
        · rename_i failed
          exact .unanswered read fresh failed
        · exact absurd unknown (Standing.ofName_ne_unknown _)
  · intro fails
    cases fails with
    | unread read => simp only [outcome, read]
    | unanswered read fresh failed =>
      rw [outcome_of_fresh read fresh, Sources.standingIn_of_unanswered failed]

theorem Fails.start_eq (fails : registry.Fails sources pid) (unknown : registry.byPid.get? pid = none) :
    ∃ lookups, registry.start sources pid = { registry with lookups := lookups } := by
  cases fails with
  | unread read => exact ⟨registry.lookups, by simp only [start, unknown, resolve, read]⟩
  | @unanswered cgroup _ read fresh failed =>
    obtain ⟨lookups, noted⟩ := noteLookup_eq registry cgroup
    exact ⟨lookups, by simp only [start, unknown, resolve, read, fresh, failed, noted]⟩

end Attribution.Registry
