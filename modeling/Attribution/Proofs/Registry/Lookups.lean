import Attribution.Proofs.Registry.Standing

/-!
Whom the runtime is asked about.

The runtime is asked about a cgroup when a process arrives from it of which nothing is known, unless the
cgroup leads to a container already.  If a name comes of the arrival, the cgroup leads to a container from
then on; if none does, nothing is left by which the next process that arrives from there could be told.
-/

namespace Attribution

open Kernel (Pid)

/-- A process of which nothing is known is found in a cgroup. -/
structure Arrival where
  cgroup : Cgroup
  /-- Whether the cgroup leads to a container by then. -/
  known : Bool
  /-- What the runtime says of the cgroup when it is asked. -/
  answer : Except Engine.Error (Option Metadata)

namespace Arrival

/-- Whether the runtime is asked because of it. -/
def asks (arrival : Arrival) : Bool :=
  Registry.needsMetadata arrival.cgroup && !arrival.known

/-- The name that comes of it. -/
def name? (arrival : Arrival) : Option Identity :=
  match arrival.answer with
  | .ok known => Identity.derive arrival.cgroup.kind arrival.cgroup.containerId known
  | .error _ => none

end Arrival

namespace Registry

variable {sources : Sources} {registry next : Registry} {pid : Pid} {number : Nat} {event : Event}
  {now : Instant} {cgroup : Cgroup} {arrival : Arrival} {id : String}

/-! ### The resolution of a process -/

/-- The arrival that the resolution of a process starts with. -/
def arrival? (sources : Sources) (registry : Registry) (pid : Pid) : Option Arrival :=
  match registry.byPid.get? pid, sources.cgroupOf pid with
  | none, .ok cgroup =>
    some ⟨cgroup, (registry.byCgroup.get? cgroup.id).isSome, metadataFor sources cgroup⟩
  | _, _ => none

theorem arrival?_of_known {state : PidState} (found : registry.byPid.get? pid = some state) :
    registry.arrival? sources pid = none := by
  simp only [arrival?, found]

theorem arrival?_of_unread {failure : Cgroup.Error} (read : sources.cgroupOf pid = .error failure) :
    registry.arrival? sources pid = none := by
  unfold arrival?
  rw [read]
  cases registry.byPid.get? pid <;> rfl

theorem arrival?_of_read (unknown : registry.byPid.get? pid = none) (read : sources.cgroupOf pid = .ok cgroup) :
    registry.arrival? sources pid =
      some ⟨cgroup, (registry.byCgroup.get? cgroup.id).isSome, metadataFor sources cgroup⟩ := by
  simp only [arrival?, unknown, read]

theorem read_of_arrival (arrives : registry.arrival? sources pid = some arrival) :
    sources.cgroupOf pid = .ok arrival.cgroup := by
  unfold arrival? at arrives
  split at arrives
  · rename_i read
    cases arrives
    exact read
  · cases arrives

theorem known_of_arrival (arrives : registry.arrival? sources pid = some arrival) :
    arrival.known = (registry.byCgroup.get? arrival.cgroup.id).isSome := by
  unfold arrival? at arrives
  split at arrives
  · cases arrives
    rfl
  · cases arrives

/-- The ids that the runtime is asked about because of arrivals, in the order of these. -/
def questions (arrivals : List Arrival) : List String :=
  (arrivals.filter (·.asks)).map (·.cgroup.containerId)

theorem questions_append (first second : List Arrival) :
    questions (first ++ second) = questions first ++ questions second := by
  rw [questions, List.filter_append, List.map_append, questions, questions]

theorem lookups_noteLookup (answer : Except Engine.Error (Option Metadata)) :
    (registry.noteLookup cgroup).lookups = questions [⟨cgroup, false, answer⟩] ++ registry.lookups := by
  unfold noteLookup questions
  cases needed : needsMetadata cgroup <;> simp [Arrival.asks, needed]

theorem lookups_start (sources : Sources) (registry : Registry) (pid : Pid) :
    (registry.start sources pid).lookups =
      questions (registry.arrival? sources pid).toList ++ registry.lookups := by
  have resolution := start_resolution sources registry pid
  generalize registry.start sources pid = next at resolution ⊢
  have asked {cgroup : Cgroup} (unknown : registry.byPid.get? pid = none)
      (read : sources.cgroupOf pid = .ok cgroup) (fresh : registry.byCgroup.get? cgroup.id = none) :
      (registry.noteLookup cgroup).lookups =
        questions (registry.arrival? sources pid).toList ++ registry.lookups := by
    rw [arrival?_of_read unknown read, fresh]
    exact lookups_noteLookup _
  cases resolution with
  | settled found =>
    rw [arrival?_of_known found]
    rfl
  | unreadable unknown read =>
    rw [arrival?_of_unread read]
    rfl
  | known unknown read found =>
    rw [arrival?_of_read unknown read, found]
    simp [questions, Arrival.asks, attach, change]
  | unanswered unknown read fresh failed => exact asked unknown read fresh
  | untracked unknown read fresh answered nameless => exact asked unknown read fresh
  | joined unknown read fresh answered named found => exact asked unknown read fresh
  | created unknown read fresh answered named first => exact asked unknown read fresh

theorem isSome_byCgroup_start (sources : Sources) (registry : Registry) (pid : Pid) (id : String) :
    ((registry.start sources pid).byCgroup.get? id).isSome = true ↔
      (registry.byCgroup.get? id).isSome = true ∨
        ∃ arrival ∈ registry.arrival? sources pid, arrival.cgroup.id = id ∧ arrival.name?.isSome = true := by
  have resolution := start_resolution sources registry pid
  generalize registry.start sources pid = next at resolution ⊢
  have inserted {cgroup : Cgroup} {metadata : Option Metadata} {identity : Identity} (n : Nat)
      (unknown : registry.byPid.get? pid = none) (read : sources.cgroupOf pid = .ok cgroup)
      (answered : metadataFor sources cgroup = .ok metadata)
      (named : Identity.derive cgroup.kind cgroup.containerId metadata = some identity) :
      (if id = cgroup.id then some n else registry.byCgroup.get? id).isSome = true ↔
        (registry.byCgroup.get? id).isSome = true ∨
          ∃ arrival ∈ registry.arrival? sources pid, arrival.cgroup.id = id ∧ arrival.name?.isSome = true := by
    rw [arrival?_of_read unknown read]
    by_cases own : id = cgroup.id
    · simp [own, Arrival.name?, answered, named]
    · simp [own, Ne.symm own]
  cases resolution with
  | settled found => simp [arrival?_of_known found]
  | unreadable unknown read => simp [arrival?_of_unread read]
  | @known cgroup number unknown read found =>
    rw [arrival?_of_read unknown read]
    constructor
    · exact .inl
    · rintro (before | ⟨_, ⟨⟩, own, -⟩)
      · exact before
      · rw [← own]
        exact found ▸ rfl
  | unanswered unknown read fresh failed =>
    rw [arrival?_of_read unknown read, byCgroup_noteLookup]
    simp [Arrival.name?, failed]
  | @untracked cgroup metadata unknown read fresh answered nameless =>
    rw [arrival?_of_read unknown read]
    change ((registry.noteLookup cgroup).byCgroup.get? id).isSome = true ↔ _
    rw [byCgroup_noteLookup]
    simp [Arrival.name?, answered, nameless]
  | @joined cgroup metadata identity number unknown read fresh answered named found =>
    rw [← inserted number unknown read answered named, ← byCgroup_noteLookup registry cgroup]
    exact Bool.eq_iff_iff.1 (congrArg Option.isSome (Table.get?_insert _ cgroup.id number id))
  | created unknown read fresh answered named first =>
    rw [byCgroup_create, byCgroup_noteLookup]
    exact inserted _ unknown read answered named

/-! ### Containers that stay -/

/-- Whoever is in the indices stays there. -/
def Keeps (registry next : Registry) : Prop :=
  ∀ number, registry.Indexed number → next.Indexed number

theorem keeps_start (sources : Sources) (registry : Registry) (pid : Pid) :
    registry.Keeps (registry.start sources pid) := by
  rintro number ⟨identity, found⟩
  exact ⟨identity, byIdentity_start found sources pid⟩

theorem SamePlaces.indexed_iff (same : registry.SamePlaces next) :
    next.Indexed number ↔ registry.Indexed number := by
  simp only [Indexed, same.byIdentity]

theorem keeps_prepare (keeps : registry.Keeps (registry.handle sources event now)) :
    registry.Keeps (registry.prepare sources event now) :=
  fun number indexed => (samePlaces_handle sources registry event now).indexed_iff.1 (keeps number indexed)

theorem indexed_of_start (indexed : (registry.start sources pid).Indexed number) :
    registry.Indexed number ∨ number = registry.created.length := by
  obtain ⟨identity, found⟩ := indexed
  have resolution := start_resolution sources registry pid
  generalize registry.start sources pid = next at resolution found
  have noted {cgroup : Cgroup} (found : (registry.noteLookup cgroup).byIdentity.get? identity = some number) :
      registry.Indexed number := by
    rw [byIdentity_noteLookup] at found
    exact ⟨identity, found⟩
  cases resolution with
  | settled | unreadable | known => exact .inl ⟨identity, found⟩
  | unanswered => exact .inl (noted found)
  | @untracked cgroup => exact .inl (@noted cgroup found)
  | @joined cgroup => exact .inl (@noted cgroup found)
  | created unknown read fresh answered named first =>
    rw [byIdentity_create] at found
    split at found
    · rw [created_noteLookup, Option.some.injEq] at found
      exact .inr found.symm
    · exact .inl (noted found)

theorem Consistent.lt_of_indexed (consistent : registry.Consistent) (indexed : registry.Indexed number) :
    number < registry.created.length := by
  obtain ⟨_, hosts⟩ := consistent.inhabited indexed
  exact lt_of_hosts hosts

/-- A process that leaves and is resolved anew does not bring back a container that has gone with it. -/
theorem Consistent.keeps_exit (consistent : registry.Consistent)
    (keeps : registry.Keeps ((registry.exit pid now).start sources pid)) :
    registry.Keeps (registry.exit pid now) := by
  intro number indexed
  refine (indexed_of_start (keeps number indexed)).resolve_right fun new => ?_
  rw [length_exit] at new
  exact absurd new (Nat.ne_of_lt (consistent.lt_of_indexed indexed))

theorem Consistent.byCgroup_exit_of_keeps (consistent : registry.Consistent)
    (keeps : registry.Keeps (registry.exit pid now)) (id : String) :
    (registry.exit pid now).byCgroup.get? id = registry.byCgroup.get? id := by
  have departure := exit_departure registry pid now
  generalize registry.exit pid now = next at departure keeps ⊢
  cases departure with
  | unknown absent => rfl
  | ignored found => rfl
  | remains found inhabited => rfl
  | @last number found deserted =>
    have indexed := consistent.hosts_indexed (consistent.mapped_iff_hosts.1 found)
    have stays := ((consistent.leaving found now).indexed_retire number).1 (keeps number indexed)
    exact absurd rfl stays.2

/-! ### Events -/

/-- The arrival that an event brings: of a process that is seen first, or of one that has moved. -/
def arrivalBy? (sources : Sources) (registry : Registry) (event : Event) (now : Instant) : Option Arrival :=
  if event.resolves now then
    if event.rechecks && registry.isElsewhere sources event.pid then
      (registry.exit event.pid now).arrival? sources.later event.pid
    else registry.arrival? sources event.pid
  else none

/-- What an event can do to the places of processes, with the arrival that it brings. -/
inductive Reception (sources : Sources) (registry : Registry) (event : Event) (now : Instant) :
    Registry → Option Arrival → Prop where
  | idle : Reception sources registry event now registry none
  | exits : Reception sources registry event now (registry.exit event.pid now) none
  | starts : Reception sources registry event now (registry.start sources event.pid)
      (registry.arrival? sources event.pid)
  | moves : Reception sources registry event now ((registry.exit event.pid now).start sources.later event.pid)
      ((registry.exit event.pid now).arrival? sources.later event.pid)

theorem prepare_reception (sources : Sources) (registry : Registry) (event : Event) (now : Instant) :
    Reception sources registry event now (registry.prepare sources event now)
      (registry.arrivalBy? sources event now) := by
  unfold arrivalBy?
  by_cases resolves : event.resolves now = true
  · rw [if_pos resolves, prepare_eq_ensure sources registry resolves, ensure_eq]
    split
    · exact .moves
    · exact .starts
  · rw [if_neg resolves]
    rw [Bool.not_eq_true] at resolves
    by_cases ends : event.kind = .processExit
    · rw [prepare_of_exit ends]
      exact .exits
    · rw [prepare_of_not_resolves resolves ends]
      exact .idle

theorem read_of_arrivalBy (arrives : registry.arrivalBy? sources event now = some arrival) :
    sources.cgroupOf event.pid = .ok arrival.cgroup ∨ sources.cgroupAgain event.pid = .ok arrival.cgroup := by
  unfold arrivalBy? at arrives
  split at arrives
  · split at arrives
    · exact .inr (read_of_arrival arrives)
    · exact .inl (read_of_arrival arrives)
  · cases arrives

theorem lookups_exit (registry : Registry) (pid : Pid) (now : Instant) :
    (registry.exit pid now).lookups = registry.lookups := by
  have departure := exit_departure registry pid now
  generalize registry.exit pid now = next at departure ⊢
  cases departure <;> rfl

theorem lookups_record (registry : Registry) (event : Event) (now : Instant) :
    (registry.record event now).lookups = registry.lookups :=
  record_cases (·.lookups = registry.lookups) event now rfl fun _ _ _ => rfl

theorem lookups_handle (sources : Sources) (registry : Registry) (event : Event) (now : Instant) :
    (registry.handle sources event now).lookups =
      questions (registry.arrivalBy? sources event now).toList ++ registry.lookups := by
  rw [handle_eq, lookups_record]
  have reception := prepare_reception sources registry event now
  generalize registry.prepare sources event now = next, registry.arrivalBy? sources event now = arrival
    at reception ⊢
  cases reception with
  | idle => rfl
  | exits => exact lookups_exit registry event.pid now
  | starts => exact lookups_start sources registry event.pid
  | moves => rw [lookups_start, lookups_exit]

theorem lookups_purge (registry : Registry) (now ttl : Instant) :
    (registry.purge now ttl).lookups = registry.lookups :=
  purge_induction (·.lookups = registry.lookups) now ttl rfl fun _ _ same => same

theorem lookups_applyAnswer (registry : Registry) (request : NatRequest) (answer : Option Address) :
    (registry.applyAnswer request answer).1.lookups = registry.lookups :=
  applyAnswer_cases (·.lookups = registry.lookups) request answer rfl fun _ => rfl

theorem Consistent.known_of_arrivalBy (consistent : registry.Consistent)
    (keeps : registry.Keeps (registry.handle sources event now))
    (arrives : registry.arrivalBy? sources event now = some arrival) :
    arrival.known = (registry.byCgroup.get? arrival.cgroup.id).isSome := by
  replace keeps := keeps_prepare keeps
  have reception := prepare_reception sources registry event now
  rw [arrives] at reception
  generalize registry.prepare sources event now = next, same : some arrival = brought at reception keeps
  cases reception with
  | idle => cases same
  | exits => cases same
  | starts => exact known_of_arrival same.symm
  | moves =>
    rw [known_of_arrival same.symm, consistent.byCgroup_exit_of_keeps (consistent.keeps_exit keeps)]

theorem Consistent.isSome_byCgroup_handle (consistent : registry.Consistent)
    (keeps : registry.Keeps (registry.handle sources event now)) (id : String) :
    ((registry.handle sources event now).byCgroup.get? id).isSome = true ↔
      (registry.byCgroup.get? id).isSome = true ∨ ∃ arrival ∈ registry.arrivalBy? sources event now,
        arrival.cgroup.id = id ∧ arrival.name?.isSome = true := by
  rw [(samePlaces_handle sources registry event now).byCgroup]
  replace keeps := keeps_prepare keeps
  have reception := prepare_reception sources registry event now
  generalize registry.prepare sources event now = next, registry.arrivalBy? sources event now = arrival
    at reception keeps ⊢
  cases reception with
  | idle => simp
  | exits =>
    rw [consistent.byCgroup_exit_of_keeps keeps]
    simp
  | starts => exact isSome_byCgroup_start sources registry event.pid id
  | moves =>
    rw [isSome_byCgroup_start, consistent.byCgroup_exit_of_keeps (consistent.keeps_exit keeps)]

end Registry

end Attribution
