import Attribution.Proofs.Registry.Founding
import Attribution.Proofs.Registry.Places

/-!
What is known of a process is what asking afresh would tell.

A process that is known is not resolved again, a cgroup that has led to a container is not asked about
again, and a container that bears the right name is not made a second time.  While the cgroup files and
the answers of the runtime stay as they are, none of these shortcuts shows: what a cgroup says depends
on nothing but its path, so a path that has led to a container still leads to the name it would lead to
now.
-/

namespace Attribution

open Kernel (Pid)

/-- What becomes of a process: nothing is known of it, it is not tracked, or it belongs to a workload. -/
inductive Standing where
  | unknown
  | ignored
  | of (identity : Identity)
  deriving DecidableEq, Repr

namespace Standing

/-- Workloads without a name are not tracked. -/
def ofName : Option Identity → Standing
  | none => ignored
  | some identity => of identity

@[simp] theorem ofName_ne_unknown (name : Option Identity) : ofName name ≠ unknown := by
  cases name <;> simp [ofName]

@[simp] theorem unknown_ne_ofName (name : Option Identity) : unknown ≠ ofName name :=
  (ofName_ne_unknown name).symm

@[simp] theorem ofName_inj {name other : Option Identity} : ofName name = ofName other ↔ name = other := by
  cases name <;> cases other <;> simp [ofName]

end Standing

namespace Cgroup

/-- The kind and the container id are those that the path tells. -/
def Classified (cgroup : Cgroup) : Prop :=
  classify cgroup.id = .ok (cgroup.kind, cgroup.containerId)

theorem classified_of_content {base content : String} {origin : Path} {cgroup : Cgroup}
    (read : ofContent base origin content = .ok cgroup) : cgroup.Classified := by
  unfold ofContent at read
  split at read
  · cases read
  · split at read
    · cases read
    · split at read
      · cases read
      · rename_i told
        cases read
        exact told

theorem classified_of_pid {files : Files.Tree} {root : Path} {base : String} {pid : Pid}
    {cgroup : Cgroup} (read : ofPid files root base pid = .ok cgroup) : cgroup.Classified := by
  unfold ofPid at read
  dsimp only at read
  split at read
  · nomatch read
  · exact classified_of_content read

section Paths

variable {first second : Cgroup}

theorem Classified.told_eq (one : first.Classified) (two : second.Classified) (same : first.id = second.id) :
    second.kind = first.kind ∧ second.containerId = first.containerId := by
  have told := two.symm.trans (congrArg classify same.symm |>.trans one)
  simpa only [Except.ok.injEq, Prod.mk.injEq] using told

theorem Classified.needsMetadata_eq (one : first.Classified) (two : second.Classified)
    (same : first.id = second.id) : Registry.needsMetadata second = Registry.needsMetadata first := by
  obtain ⟨kind, containerId⟩ := one.told_eq two same
  rw [Registry.needsMetadata, Registry.needsMetadata, kind, containerId]

end Paths

end Cgroup

namespace Sources

variable {sources : Sources} {pid : Pid} {cgroup : Cgroup}

/-- A second reading finds what the first has found, and paths alone tell what a cgroup is. -/
structure Steady (sources : Sources) : Prop where
  later_eq : sources.later = sources
  classified : ∀ {pid cgroup}, sources.cgroupOf pid = .ok cgroup → cgroup.Classified

theorem steady_ofFiles (files : Files.Tree) (root : Path) (base : String)
    (metadataOf : String → Except Engine.Error Metadata) :
    (ofFiles files root base metadataOf).Steady where
  later_eq := rfl
  classified read := Cgroup.classified_of_pid read

/-- What becomes of the processes in a cgroup when the runtime is asked about it. -/
def standingIn (sources : Sources) (cgroup : Cgroup) : Standing :=
  match Registry.metadataFor sources cgroup with
  | .error _ => .unknown
  | .ok metadata => .ofName (Identity.derive cgroup.kind cgroup.containerId metadata)

/-- What becomes of a process that is resolved with nothing known beforehand. -/
def standing (sources : Sources) (pid : Pid) : Standing :=
  match sources.cgroupOf pid with
  | .error _ => .unknown
  | .ok cgroup => sources.standingIn cgroup

theorem standing_of_read (read : sources.cgroupOf pid = .ok cgroup) :
    sources.standing pid = sources.standingIn cgroup := by
  simp only [standing, read]

theorem standingIn_of_answered {metadata : Option Metadata}
    (answered : Registry.metadataFor sources cgroup = .ok metadata) :
    sources.standingIn cgroup = .ofName (Identity.derive cgroup.kind cgroup.containerId metadata) := by
  simp only [standingIn, answered]

theorem standingIn_of_unanswered {failure : Engine.Error}
    (unanswered : Registry.metadataFor sources cgroup = .error failure) :
    sources.standingIn cgroup = .unknown := by
  simp only [standingIn, unanswered]

theorem standingIn_congr {first second : Cgroup} (one : first.Classified) (two : second.Classified)
    (same : first.id = second.id) : sources.standingIn first = sources.standingIn second := by
  obtain ⟨kind, containerId⟩ := one.told_eq two same
  have asked : Registry.metadataFor sources second = Registry.metadataFor sources first := by
    rw [Registry.metadataFor, Registry.metadataFor, one.needsMetadata_eq two same, containerId]
  simp only [standingIn, asked, kind, containerId]

theorem standing_eq_unknown_iff : sources.standing pid = .unknown ↔
    (∃ failure, sources.cgroupOf pid = .error failure) ∨
      ∃ cgroup failure, sources.cgroupOf pid = .ok cgroup ∧
        Registry.metadataFor sources cgroup = .error failure := by
  unfold standing
  cases sources.cgroupOf pid with
  | error failure => simp
  | ok cgroup => cases answered : Registry.metadataFor sources cgroup <;> simp [standingIn, answered]

theorem standing_eq_ofName_iff {name : Option Identity} : sources.standing pid = .ofName name ↔
    ∃ cgroup metadata, sources.cgroupOf pid = .ok cgroup ∧
      Registry.metadataFor sources cgroup = .ok metadata ∧
      Identity.derive cgroup.kind cgroup.containerId metadata = name := by
  unfold standing
  cases sources.cgroupOf pid with
  | error failure => simp
  | ok cgroup => cases answered : Registry.metadataFor sources cgroup <;> simp [standingIn, answered]

end Sources

namespace Event

/-- Whether an event has its process resolved if nothing is known of it. -/
def resolves (event : Event) (now : Instant) : Bool :=
  match event.kind with
  | .processStart => true
  | .processExit | .connectionClose => false
  | _ => (event.act? now).isSome

/-- What becomes of a process by an event, if every event that resolves it asks afresh. -/
def settle (event : Event) (sources : Sources) (now : Instant) (pid : Pid) (before : Standing) :
    Standing :=
  if event.pid ≠ pid then before
  else if event.kind = .processExit then .unknown
  else if event.resolves now then sources.standing pid
  else before

end Event

namespace Registry

variable {sources : Sources} {registry next : Registry} {pid other : Pid} {number : Nat}
  {event : Event} {now : Instant} {state : PidState} {means : Standing} {cgroup : Cgroup}

/-! ### Names -/

def name? (registry : Registry) (number : Nat) : Option Identity :=
  (registry.container? number).map (·.identity)

/-- What the state of a process says about it. -/
def meaning? (registry : Registry) : PidState → Option Standing
  | .mapped number => (registry.name? number).map .of
  | .ignored => some .ignored

/-- What has become of a process. -/
def standing (registry : Registry) (pid : Pid) : Standing :=
  ((registry.byPid.get? pid).bind registry.meaning?).getD .unknown

theorem meaning?_ne_unknown : registry.meaning? state ≠ some .unknown := by
  cases state with
  | ignored => simp [meaning?]
  | mapped number => cases named : registry.name? number <;> simp [meaning?, named]

theorem meaning?_of_name {identity : Identity} (named : registry.name? number = some identity) :
    registry.meaning? (.mapped number) = some (.of identity) := by
  simp only [meaning?, named, Option.map_some]

def NamesStay (registry next : Registry) : Prop :=
  ∀ number identity, registry.name? number = some identity → next.name? number = some identity

theorem name?_eq (registry : Registry) (number : Nat) :
    registry.name? number = registry.foundings[number]?.map (·.identity) := by
  rw [foundings, List.getElem?_map, Option.map_map]
  rfl

theorem NamesStay.of_foundings {more : List Founding} (grown : next.foundings = registry.foundings ++ more) :
    registry.NamesStay next := by
  intro number identity named
  rw [name?_eq] at named ⊢
  obtain ⟨founding, here, own⟩ := Option.map_eq_some_iff.1 named
  have inside := (List.getElem?_eq_some_iff.1 here).1
  rw [grown, List.getElem?_append_left inside, here, Option.map_some, own]

theorem NamesStay.of_same (same : next.foundings = registry.foundings) : registry.NamesStay next := by
  apply NamesStay.of_foundings
  rw [same, List.append_nil]

theorem NamesStay.meaning? (stay : registry.NamesStay next) (said : registry.meaning? state = some means) :
    next.meaning? state = some means := by
  cases state with
  | ignored => exact said
  | mapped number =>
    obtain ⟨identity, named, rfl⟩ := Option.map_eq_some_iff.1 said
    exact meaning?_of_name (stay number identity named)

/-! ### What is known is what the sources say -/

/-- What the registry knows of a process, and what it takes the processes of a cgroup for, is what its
sources say. -/
structure Faithful (registry : Registry) (sources : Sources) : Prop where
  cgroups : ∀ {cgroup number}, cgroup.Classified → registry.byCgroup.get? cgroup.id = some number →
    registry.meaning? (.mapped number) = some (sources.standingIn cgroup)
  pids : ∀ {pid state}, registry.byPid.get? pid = some state →
    registry.meaning? state = some (sources.standing pid)

theorem faithful_empty (sources : Sources) : empty.Faithful sources where
  cgroups _ found := by cases found
  pids found := by cases found

/-- Forgetting does no harm. -/
theorem Faithful.carry (faithful : registry.Faithful sources) (stay : registry.NamesStay next)
    (cgroups : ∀ id n, next.byCgroup.get? id = some n → registry.byCgroup.get? id = some n)
    (pids : ∀ pid state, next.byPid.get? pid = some state → registry.byPid.get? pid = some state) :
    next.Faithful sources where
  cgroups told found := stay.meaning? (faithful.cgroups told (cgroups _ _ found))
  pids found := stay.meaning? (faithful.pids (pids _ _ found))

theorem Faithful.samePlaces (faithful : registry.Faithful sources) (stay : registry.NamesStay next)
    (same : registry.SamePlaces next) : next.Faithful sources :=
  faithful.carry stay (fun id _ found => (same.byCgroup id).symm.trans found)
    fun pid _ found => (same.byPid pid).symm.trans found

theorem Faithful.standing_eq (faithful : registry.Faithful sources) (pid : Pid) :
    registry.standing pid =
      if (registry.byPid.get? pid).isSome then sources.standing pid else .unknown := by
  unfold Registry.standing
  cases found : registry.byPid.get? pid with
  | none => rfl
  | some state =>
    rw [Option.bind_some, faithful.pids found]
    rfl

theorem Faithful.standing_eq_unknown_iff (faithful : registry.Faithful sources) :
    registry.standing pid = .unknown ↔ registry.byPid.get? pid = none := by
  unfold Registry.standing
  cases found : registry.byPid.get? pid with
  | none => simp
  | some state =>
    have said := faithful.pids found
    have known : sources.standing pid ≠ .unknown := by
      intro unknown
      exact meaning?_ne_unknown (unknown ▸ said)
    simp [said, known]

/-! ### Processes are resolved -/

theorem Faithful.noteLookup (faithful : registry.Faithful sources) (cgroup : Cgroup) :
    (registry.noteLookup cgroup).Faithful sources := by
  obtain ⟨_, noted⟩ := noteLookup_eq registry cgroup
  rw [noted]
  exact faithful.carry (.of_same rfl) (fun _ _ => id) fun _ _ => id

theorem Faithful.attach (faithful : registry.Faithful sources)
    (here : registry.meaning? (.mapped number) = some (sources.standing pid)) :
    (registry.attach pid number).Faithful sources := by
  have stay : registry.NamesStay (registry.attach pid number) := .of_same (foundings_attach registry pid number)
  constructor
  · intro cgroup n told found
    exact stay.meaning? (faithful.cgroups told found)
  · intro other state found
    rw [byPid_attach] at found
    split at found
    · rename_i own
      cases found
      rw [own]
      exact stay.meaning? here
    · exact stay.meaning? (faithful.pids found)

theorem Faithful.ignore (faithful : registry.Faithful sources) (untracked : sources.standing pid = .ignored) :
    (registry.ignore pid).Faithful sources where
  cgroups told found := faithful.cgroups told found
  pids := by
    intro other state found
    rw [byPid_ignore] at found
    split at found
    · rename_i own
      cases found
      rw [own, untracked]
      rfl
    · exact faithful.pids found

theorem Faithful.alias (faithful : registry.Faithful sources) (told : cgroup.Classified)
    (here : registry.meaning? (.mapped number) = some (sources.standingIn cgroup)) :
    Faithful { registry with byCgroup := registry.byCgroup.insert cgroup.id number } sources where
  cgroups := by
    intro other n toldOther found
    rw [Table.get?_insert] at found
    split at found
    · rename_i same
      cases found
      rw [Sources.standingIn_congr toldOther told same]
      exact here
    · exact faithful.cgroups toldOther found
  pids found := faithful.pids found

theorem Faithful.create (faithful : registry.Faithful sources) (told : cgroup.Classified)
    {identity : Identity} (metadata : Option Metadata) (named : sources.standingIn cgroup = .of identity)
    (read : sources.cgroupOf pid = .ok cgroup) :
    (registry.create pid identity cgroup metadata).Faithful sources := by
  let opened : Registry := { registry with
    created := registry.created ++ [.create identity cgroup metadata]
    byIdentity := registry.byIdentity.insert identity registry.created.length }
  have stay : registry.NamesStay opened := .of_foundings List.map_append
  have last : opened.name? registry.created.length = some identity := by
    simp [opened, name?, container?, Container.create]
  have carried : opened.Faithful sources := faithful.carry stay (fun _ _ => id) fun _ _ => id
  have here : opened.meaning? (.mapped registry.created.length) = some (sources.standingIn cgroup) := by
    rw [named]
    exact meaning?_of_name last
  refine (carried.alias told here).attach ?_
  rw [Sources.standing_of_read read]
  exact here

theorem Faithful.start (faithful : registry.Faithful sources) (consistent : registry.Consistent)
    (steady : sources.Steady) (pid : Pid) : (registry.start sources pid).Faithful sources := by
  have resolution := start_resolution sources registry pid
  generalize registry.start sources pid = next at resolution ⊢
  cases resolution with
  | settled found => exact faithful
  | unreadable unknown read => exact faithful
  | known unknown read found =>
    apply faithful.attach
    rw [Sources.standing_of_read read]
    exact faithful.cgroups (steady.classified read) found
  | unanswered unknown read fresh failed => exact faithful.noteLookup _
  | untracked unknown read fresh answered nameless =>
    apply (faithful.noteLookup _).ignore
    rw [Sources.standing_of_read read, Sources.standingIn_of_answered answered, nameless]
    rfl
  | @joined cgroup metadata identity number unknown read fresh answered named found =>
    obtain ⟨container, here, own, _⟩ := consistent.own_identity found
    have name : registry.name? number = some identity := by
      rw [name?, here, Option.map_some, own]
    have said : (registry.noteLookup cgroup).meaning? (.mapped number) =
        some (sources.standingIn cgroup) := by
      rw [Sources.standingIn_of_answered answered, named]
      exact NamesStay.meaning? (.of_same (foundings_noteLookup registry cgroup)) (meaning?_of_name name)
    apply ((faithful.noteLookup cgroup).alias (steady.classified read) said).attach
    rw [Sources.standing_of_read read]
    exact said
  | @created cgroup metadata identity unknown read fresh answered named first =>
    apply (faithful.noteLookup cgroup).create (steady.classified read) metadata _ read
    rw [Sources.standingIn_of_answered answered, named]
    rfl

theorem standing_of_unplaced
    (unplaced : (registry.start sources pid).byPid.get? pid = none) : sources.standing pid = .unknown := by
  have resolution := start_resolution sources registry pid
  generalize registry.start sources pid = next at resolution unplaced
  cases resolution with
  | settled found =>
    rw [unplaced] at found
    cases found
  | unreadable unknown read => simp only [Sources.standing, read]
  | unanswered unknown read fresh failed =>
    rw [Sources.standing_of_read read, Sources.standingIn_of_unanswered failed]
  | known unknown read found =>
    rw [byPid_attach, if_pos rfl] at unplaced
    cases unplaced
  | untracked unknown read fresh answered nameless =>
    rw [byPid_ignore, if_pos rfl] at unplaced
    cases unplaced
  | joined unknown read fresh answered named found =>
    rw [joinBy, byPid_attach, if_pos rfl] at unplaced
    cases unplaced
  | created unknown read fresh answered named first =>
    rw [byPid_create, if_pos rfl] at unplaced
    cases unplaced

/-- Whatever is known beforehand, a process that is resolved becomes what the sources say. -/
theorem Faithful.standing_start (faithful : registry.Faithful sources) (consistent : registry.Consistent)
    (steady : sources.Steady) (pid : Pid) :
    (registry.start sources pid).standing pid = sources.standing pid := by
  rw [(faithful.start consistent steady pid).standing_eq]
  split
  · rfl
  · rename_i unplaced
    rw [Option.not_isSome_iff_eq_none] at unplaced
    exact (standing_of_unplaced unplaced).symm

/-! ### Events -/

theorem Faithful.exit (faithful : registry.Faithful sources) (pid : Pid) (now : Instant) :
    (registry.exit pid now).Faithful sources := by
  apply faithful.carry (.of_same (foundings_exit registry pid now))
  · intro id n found
    have departure := exit_departure registry pid now
    generalize registry.exit pid now = next at departure found
    cases departure with
    | unknown absent => exact found
    | ignored known => exact found
    | remains known inhabited => exact found
    | last known deserted =>
      rw [byCgroup_retire, Option.filter_eq_some_iff] at found
      exact found.1
  · intro other state found
    rw [byPid_exit, Option.ite_none_left_eq_some] at found
    exact found.2

theorem prepare_eq_ensure (sources : Sources) (registry : Registry) (resolves : event.resolves now = true) :
    registry.prepare sources event now = registry.ensure sources event.pid event.rechecks now := by
  unfold Event.resolves at resolves
  unfold prepare
  cases kind : event.kind with
  | processStart => simp [ensure_eq, Event.rechecks, kind]
  | processExit => simp [kind] at resolves
  | connectionClose => simp [kind] at resolves
  | _ =>
    simp only [kind] at resolves
    simp only [resolves, if_true]

theorem prepare_of_resolves (sources : Sources) (registry : Registry)
    (resolves : event.resolves now = true) :
    registry.prepare sources event now = registry.start sources event.pid ∨
      registry.prepare sources event now = (registry.exit event.pid now).start sources.later event.pid := by
  rw [prepare_eq_ensure sources registry resolves, ensure_eq]
  split
  · exact .inr rfl
  · exact .inl rfl

theorem prepare_of_not_resolves (silent : event.resolves now = false)
    (remains : event.kind ≠ .processExit) : registry.prepare sources event now = registry := by
  unfold Event.resolves at silent
  unfold prepare
  cases kind : event.kind with
  | processStart => simp [kind] at silent
  | processExit => exact absurd kind remains
  | connectionClose => rfl
  | _ =>
    simp only [kind] at silent
    simp only [silent, Bool.false_eq_true, if_false]

theorem Faithful.prepare (faithful : registry.Faithful sources) (consistent : registry.Consistent)
    (steady : sources.Steady) (event : Event) (now : Instant) :
    (registry.prepare sources event now).Faithful sources := by
  have preparation := prepare_preparation sources registry event now
  generalize registry.prepare sources event now = next at preparation ⊢
  cases preparation with
  | idle => exact faithful
  | starts => exact faithful.start consistent steady event.pid
  | exits kind => exact faithful.exit event.pid now
  | moves asks speaks elsewhere =>
    rw [steady.later_eq]
    exact (faithful.exit event.pid now).start (consistent.exit event.pid now) steady event.pid

theorem Faithful.handle (faithful : registry.Faithful sources) (consistent : registry.Consistent)
    (steady : sources.Steady) (event : Event) (now : Instant) :
    (registry.handle sources event now).Faithful sources := by
  rw [handle_eq]
  exact (faithful.prepare consistent steady event now).samePlaces (.of_same (foundings_record _ event now))
    (samePlaces_record _ event now)

theorem Faithful.standing_congr (faithful : registry.Faithful sources) (after : next.Faithful sources)
    (same : next.byPid.get? pid = registry.byPid.get? pid) :
    next.standing pid = registry.standing pid := by
  rw [faithful.standing_eq, after.standing_eq, same]

theorem byPid_prepare_of_ne (another : pid ≠ event.pid) :
    (registry.prepare sources event now).byPid.get? pid = registry.byPid.get? pid := by
  have preparation := prepare_preparation sources registry event now
  generalize registry.prepare sources event now = next at preparation ⊢
  cases preparation with
  | idle => rfl
  | starts => exact byPid_start_of_ne another
  | exits kind => rw [byPid_exit, if_neg another]
  | moves asks speaks elsewhere => rw [byPid_start_of_ne another, byPid_exit, if_neg another]

/-- Events do to processes what they would do if nothing was remembered but who is known. -/
theorem Faithful.standing_handle (faithful : registry.Faithful sources) (consistent : registry.Consistent)
    (steady : sources.Steady) (event : Event) (now : Instant) (pid : Pid) :
    (registry.handle sources event now).standing pid =
      event.settle sources now pid (registry.standing pid) := by
  have placed := faithful.prepare consistent steady event now
  have recorded : (registry.handle sources event now).standing pid =
      (registry.prepare sources event now).standing pid :=
    placed.standing_congr (faithful.handle consistent steady event now)
      ((samePlaces_handle sources registry event now).byPid pid)
  rw [recorded, Event.settle]
  split
  · rename_i another
    exact faithful.standing_congr placed (byPid_prepare_of_ne (Ne.symm another))
  · rename_i own
    rw [ne_eq, not_not] at own
    subst own
    split
    · rename_i kind
      rw [prepare_of_exit kind, Registry.standing, byPid_exit, if_pos rfl]
      rfl
    · rename_i remains
      split
      · rename_i resolves
        rcases prepare_of_resolves sources registry resolves with same | same
        · rw [same]
          exact faithful.standing_start consistent steady event.pid
        · rw [same, steady.later_eq]
          exact (faithful.exit event.pid now).standing_start (consistent.exit event.pid now) steady event.pid
      · rename_i silent
        rw [prepare_of_not_resolves (by simpa using silent) remains]

end Registry

end Attribution
