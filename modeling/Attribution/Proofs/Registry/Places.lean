import Attribution.Proofs.Registry.Ownership

/-!
What keeps a process in its container.

The cgroup by which a process was placed goes on leading to its container as long as the process is
there.  A process that leaves and is placed again by that cgroup is back where it was, unless nobody
was left to keep the container in the indices.
-/

namespace Attribution.Registry

open Kernel (Pid)

variable {sources : Sources} {registry : Registry} {pid other : Pid} {number n : Nat} {event : Event}
  {now : Instant} {id : String}

theorem byPid_start_of_ne (another : other ≠ pid) :
    (registry.start sources pid).byPid.get? other = registry.byPid.get? other := by
  have resolution := start_resolution sources registry pid
  generalize registry.start sources pid = next at resolution ⊢
  cases resolution with
  | settled found => rfl
  | unreadable unknown read => rfl
  | known unknown read found => rw [byPid_attach, if_neg another]
  | unanswered unknown read fresh failed => rw [byPid_noteLookup]
  | untracked unknown read fresh answered nameless =>
    rw [byPid_ignore, if_neg another, byPid_noteLookup]
  | joined unknown read fresh answered named found =>
    rw [joinBy, byPid_attach, if_neg another, byPid_noteLookup]
  | created unknown read fresh answered named first =>
    rw [byPid_create, if_neg another, byPid_noteLookup]

theorem byCgroup_start (found : registry.byCgroup.get? id = some n) (sources : Sources) (pid : Pid) :
    (registry.start sources pid).byCgroup.get? id = some n := by
  have resolution := start_resolution sources registry pid
  generalize registry.start sources pid = next at resolution ⊢
  have distinct {cgroup : Cgroup} (fresh : registry.byCgroup.get? cgroup.id = none) :
      id ≠ cgroup.id := by
    rintro rfl
    rw [fresh] at found
    cases found
  cases resolution with
  | settled known => exact found
  | unreadable unknown read => exact found
  | known unknown read known => exact found
  | unanswered unknown read fresh failed => rw [byCgroup_noteLookup, found]
  | @untracked cgroup _ unknown read fresh answered nameless =>
    exact (congrArg (·.get? id) (byCgroup_noteLookup registry cgroup)).trans found
  | @joined cgroup _ _ _ unknown read fresh answered named known =>
    refine (Table.get?_insert _ cgroup.id _ id).trans ?_
    rw [if_neg (distinct fresh), byCgroup_noteLookup, found]
  | created unknown read fresh answered named first =>
    rw [byCgroup_create, if_neg (distinct fresh), byCgroup_noteLookup, found]

theorem byIdentity_start {identity : Identity} (found : registry.byIdentity.get? identity = some n)
    (sources : Sources) (pid : Pid) :
    (registry.start sources pid).byIdentity.get? identity = some n := by
  have resolution := start_resolution sources registry pid
  generalize registry.start sources pid = next at resolution ⊢
  cases resolution with
  | settled known => exact found
  | unreadable unknown read => exact found
  | known unknown read known => exact found
  | unanswered unknown read fresh failed => rw [byIdentity_noteLookup, found]
  | @untracked cgroup _ unknown read fresh answered nameless =>
    exact (congrArg (·.get? identity) (byIdentity_noteLookup registry cgroup)).trans found
  | @joined cgroup _ _ _ unknown read fresh answered named known =>
    exact (congrArg (·.get? identity) (byIdentity_noteLookup registry cgroup)).trans found
  | @created _ _ name unknown read fresh answered named first =>
    have another : identity ≠ name := by
      rintro rfl
      rw [first] at found
      cases found
    rw [byIdentity_create, if_neg another, byIdentity_noteLookup, found]

theorem hosts_start_of_ne (another : other ≠ pid) :
    (registry.start sources pid).Hosts n other ↔ registry.Hosts n other := by
  refine ⟨?_, fun hosts => hosts_start hosts sources pid⟩
  have resolution := start_resolution sources registry pid
  generalize registry.start sources pid = next at resolution ⊢
  intro hosts
  have unnoted {cgroup : Cgroup} (hosts : (registry.noteLookup cgroup).Hosts n other) :
      registry.Hosts n other := by
    obtain ⟨_, noted⟩ := noteLookup_eq registry cgroup
    rw [noted] at hosts
    exact hosts
  cases resolution with
  | settled known => exact hosts
  | unreadable unknown read => exact hosts
  | known unknown read found =>
    exact ((hosts_attach n other).1 hosts).resolve_right fun new => another new.2.1
  | unanswered unknown read fresh failed => exact unnoted hosts
  | untracked unknown read fresh answered nameless => exact unnoted hosts
  | joined unknown read fresh answered named found =>
    exact unnoted (((hosts_attach n other).1 hosts).resolve_right fun new => another new.2.1)
  | created unknown read fresh answered named first =>
    exact unnoted (((hosts_create _ _ _ n other).1 hosts).resolve_right fun new => another new.2)

/-- A process is placed by a cgroup that leads to its container from then on, and that container was
in the indices before or is new. -/
theorem Consistent.placed_start (consistent : registry.Consistent)
    (unknown : registry.byPid.get? pid = none)
    (placed : (registry.start sources pid).byPid.get? pid = some (.mapped n)) :
    (∃ cgroup, sources.cgroupOf pid = .ok cgroup ∧
      (registry.start sources pid).byCgroup.get? cgroup.id = some n) ∧
      (registry.Indexed n ∨ n = registry.created.length) := by
  have resolution := start_resolution sources registry pid
  generalize registry.start sources pid = next at resolution placed ⊢
  cases resolution with
  | settled known =>
    rw [unknown] at known
    cases known
  | unreadable _ failed =>
    rw [unknown] at placed
    cases placed
  | known _ read found =>
    rw [byPid_attach, if_pos rfl] at placed
    cases placed
    exact ⟨⟨_, read, found⟩, .inl (consistent.cgroup_indexed found)⟩
  | unanswered _ read fresh failed =>
    rw [byPid_noteLookup, unknown] at placed
    cases placed
  | untracked _ read fresh answered nameless =>
    rw [byPid_ignore, if_pos rfl] at placed
    cases placed
  | joined _ read fresh answered named found =>
    rw [joinBy, byPid_attach, if_pos rfl] at placed
    cases placed
    exact ⟨⟨_, read, Table.get?_insert_self _ _ _⟩, .inl ⟨_, found⟩⟩
  | created _ read fresh answered named first =>
    rw [byPid_create, if_pos rfl] at placed
    cases placed
    refine ⟨⟨_, read, by rw [byCgroup_create, if_pos rfl]⟩, .inr ?_⟩
    rw [created_noteLookup]

theorem hosts_of_exit (hosts : (registry.exit pid now).Hosts n other) : registry.Hosts n other := by
  have departure := exit_departure registry pid now
  generalize registry.exit pid now = next at departure hosts
  cases departure with
  | unknown absent => exact hosts
  | ignored found => exact hosts
  | remains found inhabited => exact ((hosts_leaving n other).1 hosts).1
  | last found deserted => exact ((hosts_leaving n other).1 hosts).1

theorem length_exit (registry : Registry) (pid : Pid) (now : Instant) :
    (registry.exit pid now).created.length = registry.created.length := by
  have departure := exit_departure registry pid now
  generalize registry.exit pid now = next at departure ⊢
  cases departure with
  | unknown absent => rfl
  | ignored found => rfl
  | remains found inhabited => exact List.length_modify _ _ _
  | last found deserted => exact List.length_modify _ _ _

theorem byCgroup_exit (found : registry.byCgroup.get? id = some n) (hosts : registry.Hosts n other)
    (another : other ≠ pid) : (registry.exit pid now).byCgroup.get? id = some n := by
  have departure := exit_departure registry pid now
  generalize registry.exit pid now = next at departure ⊢
  cases departure with
  | unknown absent => exact found
  | ignored known => exact found
  | remains known inhabited => exact found
  | @last left known deserted =>
    rw [byCgroup_retire, Option.filter_eq_some_iff]
    refine ⟨found, ?_⟩
    rw [decide_eq_true_eq]
    rintro rfl
    exact isDeserted_iff.1 deserted other ((hosts_leaving n other).2 ⟨hosts, fun same => another same.2⟩)

theorem Consistent.byIdentity_exit (consistent : registry.Consistent) {identity : Identity}
    (found : registry.byIdentity.get? identity = some n) (hosts : registry.Hosts n other)
    (another : other ≠ pid) : (registry.exit pid now).byIdentity.get? identity = some n := by
  have departure := exit_departure registry pid now
  generalize registry.exit pid now = next at departure ⊢
  cases departure with
  | unknown absent => exact found
  | ignored known => exact found
  | remains known inhabited => exact found
  | @last left known deserted =>
    rw [(consistent.leaving known now).byIdentity_retire, Option.filter_eq_some_iff, decide_eq_true_eq]
    refine ⟨found, ?_⟩
    rintro rfl
    exact isDeserted_iff.1 deserted other ((hosts_leaving n other).2 ⟨hosts, fun same => another same.2⟩)

theorem Consistent.not_indexed_exit (consistent : registry.Consistent)
    (alone : ∀ other, registry.Hosts number other → other = pid) :
    ¬(registry.exit pid now).Indexed number := by
  intro indexed
  have after := consistent.exit pid now
  obtain ⟨other, hosts⟩ := after.inhabited indexed
  have mapped := after.mapped_iff_hosts.2 hosts
  rw [byPid_exit, if_pos (alone other (hosts_of_exit hosts))] at mapped
  cases mapped

/-- A process that comes back by a cgroup of the container that others have kept. -/
theorem exit_start_eq (mapped : registry.byPid.get? pid = some (.mapped number))
    (others : ∃ other, registry.Hosts number other ∧ other ≠ pid) {cgroup : Cgroup}
    (read : sources.cgroupOf pid = .ok cgroup)
    (found : registry.byCgroup.get? cgroup.id = some number) :
    (registry.exit pid now).start sources pid = (registry.leaving pid number now).attach pid number := by
  obtain ⟨other, hosts, another⟩ := others
  have left : registry.exit pid now = registry.leaving pid number now := by
    have departure := exit_departure registry pid now
    generalize registry.exit pid now = next at departure ⊢
    cases departure with
    | unknown absent =>
      rw [mapped] at absent
      cases absent
    | ignored known =>
      rw [mapped] at known
      cases known
    | remains known inhabited =>
      rw [mapped] at known
      cases known
      rfl
    | last known deserted =>
      rw [mapped] at known
      cases known
      apply absurd _ (isDeserted_iff.1 deserted other)
      exact (hosts_leaving number other).2 ⟨hosts, fun same => another same.2⟩
  have unknown : (registry.leaving pid number now).byPid.get? pid = none := by
    rw [byPid_leaving, if_pos rfl]
  have still : (registry.leaving pid number now).byCgroup.get? cgroup.id = some number := found
  rw [left]
  simp only [start, unknown, resolve, read, still]

theorem Consistent.samePlaces_rejoin (consistent : registry.Consistent)
    (mapped : registry.byPid.get? pid = some (.mapped number)) (now : Instant) :
    registry.SamePlaces ((registry.leaving pid number now).attach pid number) where
  byPid other := by
    rw [byPid_attach, byPid_leaving]
    by_cases own : other = pid
    · rw [if_pos own, own, mapped]
    · rw [if_neg own, if_neg own]
  byCgroup _ := rfl
  byIdentity _ := rfl
  hosts n other := by
    have here := consistent.mapped_iff_hosts.1 mapped
    rw [hosts_attach, hosts_leaving]
    constructor
    · rintro (⟨hosts, _⟩ | ⟨rfl, rfl, _⟩)
      · exact hosts
      · exact here
    · intro hosts
      by_cases own : n = number ∧ other = pid
      · obtain ⟨container, found, _⟩ := here
        refine .inr ⟨own.1, own.2, container.leave pid now, ?_⟩
        rw [container?_leaving, if_pos rfl, found]
        rfl
      · exact .inl ⟨hosts, own⟩

end Attribution.Registry
