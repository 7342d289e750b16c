import Attribution.Proofs.Registry.Phases

/-!
The indices of the registry agree with each other.

A process is mapped to the container that lists it, both indices lead to the same containers, and a
container stays in them as long as it has a process.  A process that leaves and the retirement of a
deserted container are two steps; in between a container without processes is still in the indices,
which is why that part of the invariant is kept apart.
-/

namespace Attribution.Registry

open Kernel (Pid)

variable {sources : Sources} {registry : Registry} {pid : Pid} {number : Nat} {event : Event}
  {now : Instant}

def Hosts (registry : Registry) (number : Nat) (pid : Pid) : Prop :=
  ∃ container, registry.container? number = some container ∧ pid ∈ container.pids

def Indexed (registry : Registry) (number : Nat) : Prop :=
  ∃ identity, registry.byIdentity.get? identity = some number

/-- The indices lead to the same containers, and processes are mapped to those that list them. -/
structure Linked (registry : Registry) : Prop where
  mapped_iff_hosts : ∀ {pid number},
    registry.byPid.get? pid = some (.mapped number) ↔ registry.Hosts number pid
  own_identity : ∀ {identity number}, registry.byIdentity.get? identity = some number →
    ∃ container, registry.container? number = some container ∧ container.identity = identity ∧
      registry.byCgroup.get? container.cgroup.id = some number
  cgroup_indexed : ∀ {cgroup number}, registry.byCgroup.get? cgroup = some number →
    registry.Indexed number
  hosts_indexed : ∀ {number pid}, registry.Hosts number pid → registry.Indexed number

/-- The indices are linked and hold no deserted container. -/
structure Consistent (registry : Registry) : Prop extends Linked registry where
  inhabited : ∀ {number}, registry.Indexed number → ∃ pid, registry.Hosts number pid

theorem consistent_empty : empty.Consistent where
  mapped_iff_hosts := by simp [empty, Hosts, container?]
  own_identity found := by cases found
  cgroup_indexed found := by cases found
  hosts_indexed := by
    rintro number pid ⟨container, found, _⟩
    cases found
  inhabited := by
    rintro number ⟨identity, found⟩
    cases found

/-! ### Changes within containers -/

theorem hosts_change {update : Container → Container} (n : Nat) (other : Pid)
    (keeps : ∀ container, (update container).pids = container.pids) :
    (registry.change number update).Hosts n other ↔ registry.Hosts n other := by
  unfold Hosts
  rw [container?_change]
  split
  · simp [keeps]
  · rfl

/-- Processes are where they were, and the indices lead where they led. -/
structure SamePlaces (registry next : Registry) : Prop where
  byPid : ∀ pid, next.byPid.get? pid = registry.byPid.get? pid
  byCgroup : ∀ id, next.byCgroup.get? id = registry.byCgroup.get? id
  byIdentity : ∀ identity, next.byIdentity.get? identity = registry.byIdentity.get? identity
  hosts : ∀ n pid, next.Hosts n pid ↔ registry.Hosts n pid

theorem SamePlaces.refl (registry : Registry) : registry.SamePlaces registry :=
  ⟨fun _ => rfl, fun _ => rfl, fun _ => rfl, fun _ _ => Iff.rfl⟩

theorem SamePlaces.trans {middle last : Registry} (first : registry.SamePlaces middle)
    (second : middle.SamePlaces last) : registry.SamePlaces last where
  byPid pid := (second.byPid pid).trans (first.byPid pid)
  byCgroup id := (second.byCgroup id).trans (first.byCgroup id)
  byIdentity identity := (second.byIdentity identity).trans (first.byIdentity identity)
  hosts n pid := (second.hosts n pid).trans (first.hosts n pid)

theorem samePlaces_track (registry : Registry) (number : Nat) (update : Tracker → Tracker) :
    registry.SamePlaces (registry.track number update) :=
  ⟨fun _ => rfl, fun _ => rfl, fun _ => rfl, fun n pid => hosts_change n pid fun _ => rfl⟩

theorem samePlaces_record (registry : Registry) (event : Event) (now : Instant) :
    registry.SamePlaces (registry.record event now) := by
  refine record_cases registry.SamePlaces event now (.refl registry) fun number update queue => ?_
  have tracked := samePlaces_track registry number update
  exact ⟨tracked.byPid, tracked.byCgroup, tracked.byIdentity, tracked.hosts⟩

theorem samePlaces_handle (sources : Sources) (registry : Registry) (event : Event) (now : Instant) :
    (registry.prepare sources event now).SamePlaces (registry.handle sources event now) := by
  rw [handle_eq]
  exact samePlaces_record _ event now

theorem samePlaces_purge (registry : Registry) (now ttl : Instant) :
    registry.SamePlaces (registry.purge now ttl) :=
  purge_induction registry.SamePlaces now ttl (.refl registry)
    fun next number same => same.trans (samePlaces_track next number _)

theorem samePlaces_applyAnswer (registry : Registry) (request : NatRequest) (answer : Option Address) :
    registry.SamePlaces (registry.applyAnswer request answer).1 :=
  applyAnswer_cases registry.SamePlaces request answer (.refl registry)
    (samePlaces_track registry request.container)

theorem Consistent.change {update : Container → Container} (consistent : registry.Consistent)
    (keeps : ∀ container, (update container).pids = container.pids)
    (same : ∀ container, (update container).identity = container.identity ∧
      (update container).cgroup = container.cgroup) :
    (registry.change number update).Consistent where
  mapped_iff_hosts := by
    intro pid n
    rw [hosts_change n pid keeps]
    exact consistent.mapped_iff_hosts
  own_identity := by
    intro identity n found
    obtain ⟨container, here, own, indexed⟩ := consistent.own_identity found
    rw [container?_change]
    split
    · refine ⟨update container, by rw [here]; rfl, (same container).1.trans own, ?_⟩
      rw [(same container).2]
      exact indexed
    · exact ⟨container, here, own, indexed⟩
  cgroup_indexed found := consistent.cgroup_indexed found
  hosts_indexed := by
    intro n pid hosts
    exact consistent.hosts_indexed ((hosts_change n pid keeps).1 hosts)
  inhabited := by
    intro n indexed
    obtain ⟨pid, hosts⟩ := consistent.inhabited indexed
    exact ⟨pid, (hosts_change n pid keeps).2 hosts⟩

theorem Consistent.track (consistent : registry.Consistent) (number : Nat)
    (update : Tracker → Tracker) : (registry.track number update).Consistent :=
  consistent.change (fun _ => rfl) fun _ => ⟨rfl, rfl⟩

theorem Consistent.withQueue (consistent : registry.Consistent) (queue : List NatRequest) :
    Consistent { registry with queue := queue } where
  mapped_iff_hosts := consistent.mapped_iff_hosts
  own_identity := consistent.own_identity
  cgroup_indexed := consistent.cgroup_indexed
  hosts_indexed := consistent.hosts_indexed
  inhabited := consistent.inhabited

theorem Consistent.noteLookup (consistent : registry.Consistent) (cgroup : Cgroup) :
    (registry.noteLookup cgroup).Consistent := by
  obtain ⟨_, noted⟩ := noteLookup_eq registry cgroup
  rw [noted]
  exact ⟨⟨consistent.mapped_iff_hosts, consistent.own_identity, consistent.cgroup_indexed,
    consistent.hosts_indexed⟩, consistent.inhabited⟩

/-! ### A process is placed -/

theorem Linked.not_hosts_of_unknown (linked : registry.Linked)
    (unknown : registry.byPid.get? pid = none) (n : Nat) : ¬registry.Hosts n pid := by
  intro hosts
  have mapped := linked.mapped_iff_hosts.2 hosts
  rw [unknown] at mapped
  cases mapped

theorem Consistent.ignore (consistent : registry.Consistent)
    (unknown : registry.byPid.get? pid = none) : (registry.ignore pid).Consistent where
  mapped_iff_hosts := by
    intro other n
    rw [byPid_ignore]
    by_cases same : other = pid
    · subst same
      simp only [if_true, Option.some.injEq, reduceCtorEq, false_iff]
      exact consistent.not_hosts_of_unknown unknown n
    · rw [if_neg same]
      exact consistent.mapped_iff_hosts
  own_identity := consistent.own_identity
  cgroup_indexed := consistent.cgroup_indexed
  hosts_indexed := consistent.hosts_indexed
  inhabited := consistent.inhabited

theorem hosts_attach (n : Nat) (other : Pid) :
    (registry.attach pid number).Hosts n other ↔
      registry.Hosts n other ∨
        (n = number ∧ other = pid ∧ ∃ container, registry.container? number = some container) := by
  unfold Hosts
  rw [container?_attach]
  by_cases here : n = number
  · subst here
    cases registry.container? n with
    | none => simp
    | some container => simp [Container.join, or_comm]
  · simp [here]

theorem Linked.container_of_indexed (linked : registry.Linked) (indexed : registry.Indexed number) :
    ∃ container, registry.container? number = some container := by
  obtain ⟨identity, found⟩ := indexed
  obtain ⟨container, here, _⟩ := linked.own_identity found
  exact ⟨container, here⟩

theorem Consistent.attach (consistent : registry.Consistent)
    (unknown : registry.byPid.get? pid = none) (indexed : registry.Indexed number) :
    (registry.attach pid number).Consistent where
  mapped_iff_hosts := by
    intro other n
    obtain ⟨container, here⟩ := consistent.container_of_indexed indexed
    rw [byPid_attach, hosts_attach]
    by_cases same : other = pid
    · subst same
      simp [consistent.not_hosts_of_unknown unknown n, here, eq_comm]
    · simp [same, consistent.mapped_iff_hosts]
  own_identity := by
    intro identity n found
    obtain ⟨container, here, own, cgroup⟩ := consistent.own_identity found
    rw [container?_attach]
    split
    · exact ⟨container.join pid, by rw [here]; rfl, own, cgroup⟩
    · exact ⟨container, here, own, cgroup⟩
  cgroup_indexed found := consistent.cgroup_indexed found
  hosts_indexed := by
    intro n other hosts
    rcases (hosts_attach n other).1 hosts with before | ⟨rfl, _⟩
    · exact consistent.hosts_indexed before
    · exact indexed
  inhabited := by
    intro n found
    obtain ⟨other, hosts⟩ := consistent.inhabited found
    exact ⟨other, (hosts_attach n other).2 (.inl hosts)⟩

theorem Consistent.alias (consistent : registry.Consistent) {cgroup : String}
    (fresh : registry.byCgroup.get? cgroup = none) (indexed : registry.Indexed number) :
    Consistent { registry with byCgroup := registry.byCgroup.insert cgroup number } where
  mapped_iff_hosts := consistent.mapped_iff_hosts
  own_identity := by
    intro identity n found
    obtain ⟨container, here, own, first⟩ := consistent.own_identity found
    refine ⟨container, here, own, ?_⟩
    -- The first cgroup of a container is no new one.
    rw [Table.get?_insert, if_neg]
    · exact first
    · rintro same
      rw [same, fresh] at first
      cases first
  cgroup_indexed := by
    intro other n found
    rw [Table.get?_insert] at found
    split at found
    · cases found
      exact indexed
    · exact consistent.cgroup_indexed found
  hosts_indexed := consistent.hosts_indexed
  inhabited := consistent.inhabited

theorem hosts_create (identity : Identity) (cgroup : Cgroup) (metadata : Option Metadata) (n : Nat)
    (other : Pid) :
    (registry.create pid identity cgroup metadata).Hosts n other ↔
      registry.Hosts n other ∨ (n = registry.created.length ∧ other = pid) := by
  unfold Hosts
  rw [container?_create]
  by_cases new : n = registry.created.length
  · subst new
    simp [container?_length, Container.create, Container.join]
  · simp [new]

theorem indexed_create {identity : Identity} (cgroup : Cgroup) (metadata : Option Metadata)
    (first : registry.byIdentity.get? identity = none) (n : Nat) :
    (registry.create pid identity cgroup metadata).Indexed n ↔
      registry.Indexed n ∨ n = registry.created.length := by
  unfold Indexed
  simp only [byIdentity_create]
  constructor
  · rintro ⟨name, found⟩
    split at found
    · cases found
      exact .inr rfl
    · exact .inl ⟨name, found⟩
  · rintro (⟨name, found⟩ | rfl)
    · refine ⟨name, ?_⟩
      rw [if_neg]
      · exact found
      · rintro rfl
        rw [first] at found
        cases found
    · exact ⟨identity, if_pos rfl⟩

theorem lt_of_hosts (hosts : registry.Hosts number pid) : number < registry.created.length := by
  obtain ⟨container, found, _⟩ := hosts
  exact (List.getElem?_eq_some_iff.1 found).1

theorem Consistent.create (consistent : registry.Consistent) {identity : Identity} {cgroup : Cgroup}
    (metadata : Option Metadata) (unknown : registry.byPid.get? pid = none)
    (fresh : registry.byCgroup.get? cgroup.id = none)
    (first : registry.byIdentity.get? identity = none) :
    (registry.create pid identity cgroup metadata).Consistent where
  mapped_iff_hosts := by
    intro other n
    rw [byPid_create, hosts_create]
    by_cases same : other = pid
    · subst same
      simp [consistent.not_hosts_of_unknown unknown n, eq_comm]
    · simp [same, consistent.mapped_iff_hosts]
  own_identity := by
    intro name n found
    rw [byIdentity_create] at found
    rw [container?_create]
    split at found
    · rename_i same
      cases found
      exact ⟨_, if_pos rfl, same.symm, by rw [byCgroup_create]; exact if_pos rfl⟩
    · obtain ⟨container, here, own, cgroupFound⟩ := consistent.own_identity found
      have old : n ≠ registry.created.length := by
        rintro rfl
        rw [container?_length] at here
        cases here
      refine ⟨container, by rw [if_neg old, here], own, ?_⟩
      rw [byCgroup_create, if_neg]
      · exact cgroupFound
      · intro same
        rw [same, fresh] at cgroupFound
        cases cgroupFound
  cgroup_indexed := by
    intro id n found
    rw [byCgroup_create] at found
    rw [indexed_create cgroup metadata first]
    split at found
    · cases found
      exact .inr rfl
    · exact .inl (consistent.cgroup_indexed found)
  hosts_indexed := by
    intro n other hosts
    rw [indexed_create cgroup metadata first]
    rcases (hosts_create identity cgroup metadata n other).1 hosts with before | ⟨new, _⟩
    · exact .inl (consistent.hosts_indexed before)
    · exact .inr new
  inhabited := by
    intro n indexed
    simp only [hosts_create]
    rcases (indexed_create cgroup metadata first n).1 indexed with before | new
    · obtain ⟨other, hosts⟩ := consistent.inhabited before
      exact ⟨other, .inl hosts⟩
    · exact ⟨pid, .inr ⟨new, rfl⟩⟩

theorem Consistent.start (consistent : registry.Consistent) (sources : Sources) (pid : Pid) :
    (registry.start sources pid).Consistent := by
  have resolution := start_resolution sources registry pid
  generalize registry.start sources pid = next at resolution ⊢
  cases resolution with
  | settled found => exact consistent
  | unreadable unknown read => exact consistent
  | known unknown read found => exact consistent.attach unknown (consistent.cgroup_indexed found)
  | @unanswered cgroup _ unknown read fresh failed => exact consistent.noteLookup cgroup
  | @untracked cgroup _ unknown read fresh answered nameless =>
    exact (consistent.noteLookup cgroup).ignore (by simpa using unknown)
  | @joined cgroup _ _ number unknown read fresh answered named found =>
    have indexed : (registry.noteLookup cgroup).Indexed number := ⟨_, by simpa using found⟩
    have aliased := (consistent.noteLookup cgroup).alias (by simpa using fresh) indexed
    exact aliased.attach (by simpa using unknown) indexed
  | @created cgroup metadata _ unknown read fresh answered named first =>
    exact (consistent.noteLookup cgroup).create metadata (by simpa using unknown)
      (by simpa using fresh) (by simpa using first)

/-! ### A process is removed -/

theorem hosts_leaving (n : Nat) (other : Pid) :
    (registry.leaving pid number now).Hosts n other ↔
      registry.Hosts n other ∧ ¬(n = number ∧ other = pid) := by
  unfold Hosts
  rw [container?_leaving]
  by_cases here : n = number
  · subst here
    cases registry.container? n with
    | none => simp
    | some container => simp [Container.leave, and_comm]
  · simp [here]

theorem Linked.hosts_unique (linked : registry.Linked) {n : Nat} (here : registry.Hosts number pid)
    (there : registry.Hosts n pid) : n = number := by
  have first := linked.mapped_iff_hosts.2 here
  rw [linked.mapped_iff_hosts.2 there] at first
  cases first
  rfl

theorem Linked.leaving (linked : registry.Linked)
    (mapped : registry.byPid.get? pid = some (.mapped number)) (now : Instant) :
    (registry.leaving pid number now).Linked where
  mapped_iff_hosts := by
    intro other n
    rw [byPid_leaving, hosts_leaving, ← linked.mapped_iff_hosts]
    by_cases same : other = pid
    · subst same
      simp [mapped, eq_comm]
    · simp [same]
  own_identity := by
    intro identity n found
    obtain ⟨container, here, own, cgroup⟩ := linked.own_identity found
    rw [container?_leaving]
    split
    · exact ⟨container.leave pid now, by rw [here]; rfl, own, cgroup⟩
    · exact ⟨container, here, own, cgroup⟩
  cgroup_indexed found := linked.cgroup_indexed found
  hosts_indexed hosts := linked.hosts_indexed ((hosts_leaving _ _).1 hosts).1

theorem isDeserted_iff : registry.isDeserted number = true ↔ ∀ pid, ¬registry.Hosts number pid := by
  unfold isDeserted Hosts
  cases registry.container? number with
  | none => simp
  | some container =>
    rw [Option.all_some, decide_eq_true_eq, Roster.size_eq_zero_iff]
    simp only [Option.some.injEq, exists_eq_left']

theorem Linked.byIdentity_retire (linked : registry.Linked) (identity : Identity) :
    (registry.retire number).byIdentity.get? identity =
      (registry.byIdentity.get? identity).filter (· ≠ number) := by
  unfold retire
  rw [Table.get?_filter]
  cases found : registry.byIdentity.get? identity with
  | none => rfl
  | some n =>
    by_cases same : n = number
    · subst same
      obtain ⟨container, here, own, _⟩ := linked.own_identity found
      simp [here, own, Option.filter]
    · simp [same, Option.filter]

theorem byCgroup_retire (id : String) :
    (registry.retire number).byCgroup.get? id = (registry.byCgroup.get? id).filter (· ≠ number) :=
  Table.get?_filter _ _ id

theorem Linked.indexed_retire (linked : registry.Linked) (n : Nat) :
    (registry.retire number).Indexed n ↔ registry.Indexed n ∧ n ≠ number := by
  unfold Indexed
  simp only [linked.byIdentity_retire, Option.filter_eq_some_iff, decide_eq_true_eq,
    exists_and_right]

theorem Linked.retire (linked : registry.Linked) (deserted : ∀ pid, ¬registry.Hosts number pid) :
    (registry.retire number).Linked where
  mapped_iff_hosts := linked.mapped_iff_hosts
  own_identity := by
    intro identity n found
    rw [linked.byIdentity_retire, Option.filter_eq_some_iff] at found
    obtain ⟨container, here, own, cgroup⟩ := linked.own_identity found.1
    refine ⟨container, here, own, ?_⟩
    rw [byCgroup_retire, cgroup, Option.filter_eq_some_iff]
    exact ⟨rfl, found.2⟩
  cgroup_indexed := by
    intro id n found
    rw [byCgroup_retire, Option.filter_eq_some_iff] at found
    exact (linked.indexed_retire n).2 ⟨linked.cgroup_indexed found.1, by simpa using found.2⟩
  hosts_indexed := by
    intro n pid hosts
    refine (linked.indexed_retire n).2 ⟨linked.hosts_indexed hosts, ?_⟩
    rintro rfl
    exact deserted pid hosts

theorem Consistent.exit (consistent : registry.Consistent) (pid : Pid) (now : Instant) :
    (registry.exit pid now).Consistent := by
  have departure := exit_departure registry pid now
  generalize registry.exit pid now = next at departure ⊢
  -- Whoever else is in a container stays there.
  have stays {left n : Nat} (elsewhere : n ≠ left) (indexed : registry.Indexed n) :
      ∃ other, (registry.leaving pid left now).Hosts n other := by
    obtain ⟨other, hosts⟩ := consistent.inhabited indexed
    exact ⟨other, (hosts_leaving n other).2 ⟨hosts, fun same => elsewhere same.1⟩⟩
  cases departure with
  | unknown absent => exact consistent
  | ignored found =>
    refine { consistent with mapped_iff_hosts := ?_ }
    intro other n
    rw [byPid_forget]
    by_cases same : other = pid
    · subst same
      have absent : ¬registry.Hosts n other := by
        rw [← consistent.mapped_iff_hosts, found]
        simp
      simp only [if_true, reduceCtorEq, false_iff]
      exact absent
    · rw [if_neg same]
      exact consistent.mapped_iff_hosts
  | @remains number found inhabited =>
    refine ⟨consistent.leaving found now, ?_⟩
    intro n indexed
    by_cases here : n = number
    · subst here
      have left := mt isDeserted_iff.2 (by rw [inhabited]; exact Bool.false_ne_true)
      simpa using left
    · exact stays here indexed
  | @last number found deserted =>
    have linked := consistent.leaving found now
    refine ⟨linked.retire (isDeserted_iff.1 deserted), ?_⟩
    intro n indexed
    obtain ⟨before, elsewhere⟩ := (linked.indexed_retire n).1 indexed
    exact stays elsewhere before

/-! ### Events, purges and answers -/

theorem Consistent.record (consistent : registry.Consistent) (event : Event) (now : Instant) :
    (registry.record event now).Consistent :=
  record_cases Registry.Consistent event now consistent
    fun number update queue => (consistent.track number update).withQueue queue

theorem Consistent.purge (consistent : registry.Consistent) (now ttl : Instant) :
    (registry.purge now ttl).Consistent :=
  purge_induction Registry.Consistent now ttl consistent fun _ number consistent => consistent.track number _

theorem Consistent.applyAnswer (consistent : registry.Consistent) (request : NatRequest)
    (answer : Option Address) : (registry.applyAnswer request answer).1.Consistent :=
  applyAnswer_cases Registry.Consistent request answer consistent (consistent.track request.container)

end Attribution.Registry
