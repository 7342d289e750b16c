import Attribution.Registry.Nat
import Attribution.Proofs.Tracker.Acts

/-!
How the registry takes one event in.

An event is taken in by two phases.  First its process is put in its place: it is resolved, it ends,
or it moves.  Then at most one act reaches the tracker of the container that the process is in, and
at most one request is queued.  What each phase can do is said here by cases, and what it leaves in
the indices and in the containers by lookups; no later proof opens an operation of the registry.
-/

namespace Attribution

open Kernel (Pid)

namespace Event

/-- Whether an event has the place of a service's process checked again. -/
def rechecks (event : Event) : Bool :=
  match event.kind with
  | .connectionOpen | .connectionError | .listenOpen => true
  | _ => false

def socket (event : Event) : Socket :=
  ⟨event.pid, event.fd⟩

/-- What an event does to the connections of its container. -/
def act? (event : Event) (now : Instant) : Option Tracker.Act :=
  match event.kind, event.source, event.destination, event.request with
  | .connectionOpen, some source, some destination, _ =>
    some (.opened ⟨source, destination, destination, event.pid, event.fd, event.timestamp⟩ now)
  | .connectionError, some _, some destination, _ => some (.failedOpen destination now)
  | .connectionClose, _, _, _ => some (.close event.socket event.timestamp now)
  | .listenOpen, some address, _, _ => some (.listen address)
  | .listenClose, some address, _, _ => some (.unlisten address)
  | .tcpRetransmit, some _, some destination, _ => some (.retransmitted destination)
  | .l7Request, _, _, some request => some (.requested event.socket event.timestamp request)
  | _, _, _, _ => none

/-- The flow whose destination after NAT is asked for because of an event. -/
def flow? (event : Event) : Option Flow :=
  match event.kind, event.source, event.destination with
  | .connectionOpen, some source, some destination =>
    if destination.isLoopback then none else some ⟨source, destination⟩
  | _, _, _ => none

end Event

namespace Registry

variable {sources : Sources} {registry next : Registry} {pid other : Pid} {number : Nat}
  {event : Event} {now : Instant}

/-- The first phase: the process of an event is put in its place. -/
def prepare (sources : Sources) (registry : Registry) (event : Event) (now : Instant) : Registry :=
  match event.kind with
  | .processStart => registry.start sources event.pid
  | .processExit => registry.exit event.pid now
  | .connectionClose => registry
  | _ =>
    if (event.act? now).isSome then registry.ensure sources event.pid event.rechecks now
    else registry

def askAbout (registry : Registry) (event : Event) (number : Nat) : Registry :=
  match event.flow? with
  | some flow => registry.ask ⟨number, event.socket, event.timestamp, flow⟩
  | none => registry

/-- The second phase: the container of an event's process takes note of it. -/
def record (registry : Registry) (event : Event) (now : Instant) : Registry :=
  match event.act? now, registry.containerOf? event.pid with
  | some act, some number => (registry.track number (·.perform act)).askAbout event number
  | _, _ => registry

/-- What an event that needs its container does, in the words of the two phases. -/
theorem withContainer_eq {again : Bool} (event : Event) {act : Tracker.Act}
    {use : Registry → Nat → Registry} (does : event.act? now = some act)
    (same : ∀ registry number, use registry number =
      (registry.track number (·.perform act)).askAbout event number) :
    registry.withContainer sources event.pid again now use =
      (registry.ensure sources event.pid again now).record event now := by
  simp only [withContainer, record, does]
  cases (registry.ensure sources event.pid again now).containerOf? event.pid with
  | none => rfl
  | some number => exact same _ number

theorem handle_eq (sources : Sources) (registry : Registry) (event : Event) (now : Instant) :
    registry.handle sources event now = (registry.prepare sources event now).record event now := by
  obtain ⟨kind, reason, pid, fd, timestamp, source, destination, request⟩ := event
  let event (kind : EventType) : Event :=
    ⟨kind, reason, pid, fd, timestamp, source, destination, request⟩
  cases kind with
  | processStart => rfl
  | processExit => rfl
  | fileOpen => rfl
  | connectionOpen =>
    cases source with
    | none => rfl
    | some source =>
      cases destination with
      | none => rfl
      | some destination =>
        have same (registry : Registry) (number : Nat) :
            registry.connectionOpened (event .connectionOpen) source destination now number =
              (registry.track number (·.opened ⟨source, destination, destination, pid, fd, timestamp⟩
                now)).askAbout (event .connectionOpen) number := by
          by_cases loopback : destination.isLoopback
          · simp [connectionOpened, askAbout, Event.flow?, event, loopback]
          · simp [connectionOpened, askAbout, Event.flow?, Event.socket, event, loopback]
        exact withContainer_eq (event .connectionOpen) rfl same
  | connectionError =>
    cases source with
    | none => rfl
    | some source =>
      cases destination with
      | none => rfl
      | some destination => exact withContainer_eq (event .connectionError) rfl fun _ _ => rfl
  | connectionClose =>
    simp only [handle, prepare, record, Event.act?]
    cases registry.containerOf? pid <;> rfl
  | listenOpen =>
    cases source with
    | none => rfl
    | some address => exact withContainer_eq (event .listenOpen) rfl fun _ _ => rfl
  | listenClose =>
    cases source with
    | none => rfl
    | some address => exact withContainer_eq (event .listenClose) rfl fun _ _ => rfl
  | tcpRetransmit =>
    cases source with
    | none => rfl
    | some source =>
      cases destination with
      | none => rfl
      | some destination => exact withContainer_eq (event .tcpRetransmit) rfl fun _ _ => rfl
  | l7Request =>
    cases request with
    | none => rfl
    | some request => exact withContainer_eq (event .l7Request) rfl fun _ _ => rfl

/-! ### Lookups -/

theorem containerOf?_eq_some_iff :
    registry.containerOf? pid = some number ↔ registry.byPid.get? pid = some (.mapped number) := by
  unfold containerOf?
  split <;> simp_all

theorem containerOf?_of_unknown (unknown : registry.byPid.get? pid = none) :
    registry.containerOf? pid = none := by
  simp only [containerOf?, unknown]

theorem containerOf?_of_ignored (ignored : registry.byPid.get? pid = some .ignored) :
    registry.containerOf? pid = none := by
  simp only [containerOf?, ignored]

theorem record_of_nowhere (nowhere : registry.containerOf? event.pid = none) :
    registry.record event now = registry := by
  unfold record
  rw [nowhere]
  cases event.act? now <;> rfl

theorem container?_change (update : Container → Container) (n : Nat) :
    (registry.change number update).container? n =
      if n = number then (registry.container? n).map update else registry.container? n := by
  simp only [container?, change, List.getElem?_modify]
  by_cases same : number = n
  · subst same
    simp only [if_true]
    rfl
  · simp [same, Ne.symm same]

theorem container?_attach (n : Nat) :
    (registry.attach pid number).container? n =
      if n = number then (registry.container? n).map (·.join pid) else registry.container? n :=
  container?_change _ n

theorem byPid_attach :
    (registry.attach pid number).byPid.get? other =
      if other = pid then some (.mapped number) else registry.byPid.get? other :=
  Table.get?_insert registry.byPid pid _ other

theorem byPid_ignore :
    (registry.ignore pid).byPid.get? other =
      if other = pid then some .ignored else registry.byPid.get? other :=
  Table.get?_insert registry.byPid pid _ other

theorem byPid_forget :
    (registry.forget pid).byPid.get? other =
      if other = pid then none else registry.byPid.get? other :=
  Table.get?_erase registry.byPid pid other

theorem container?_create (identity : Identity) (cgroup : Cgroup) (metadata : Option Metadata) (n : Nat) :
    (registry.create pid identity cgroup metadata).container? n =
      if n = registry.created.length then some ((Container.create identity cgroup metadata).join pid)
      else registry.container? n := by
  unfold create
  rw [container?_attach]
  by_cases same : n = registry.created.length
  · rw [if_pos same, if_pos same, same]
    simp [container?]
  · rw [if_neg same, if_neg same]
    simp only [container?, List.getElem?_append]
    split
    · rfl
    · rename_i beyond
      rw [List.getElem?_eq_none (by simp; omega), List.getElem?_eq_none (by omega)]

theorem byPid_create (identity : Identity) (cgroup : Cgroup) (metadata : Option Metadata) :
    (registry.create pid identity cgroup metadata).byPid.get? other =
      if other = pid then some (.mapped registry.created.length) else registry.byPid.get? other :=
  Table.get?_insert registry.byPid pid _ other

theorem byIdentity_create (identity : Identity) (cgroup : Cgroup) (metadata : Option Metadata)
    (name : Identity) :
    (registry.create pid identity cgroup metadata).byIdentity.get? name =
      if name = identity then some registry.created.length else registry.byIdentity.get? name :=
  Table.get?_insert registry.byIdentity identity _ name

theorem byCgroup_create (identity : Identity) (cgroup : Cgroup) (metadata : Option Metadata)
    (id : String) :
    (registry.create pid identity cgroup metadata).byCgroup.get? id =
      if id = cgroup.id then some registry.created.length else registry.byCgroup.get? id :=
  Table.get?_insert registry.byCgroup cgroup.id _ id

theorem container?_length : registry.container? registry.created.length = none :=
  List.getElem?_eq_none (Nat.le_refl _)

theorem noteLookup_eq (registry : Registry) (cgroup : Cgroup) :
    ∃ lookups, registry.noteLookup cgroup = { registry with lookups := lookups } := by
  unfold noteLookup
  split
  · exact ⟨_, rfl⟩
  · exact ⟨registry.lookups, rfl⟩

@[simp] theorem byPid_noteLookup (registry : Registry) (cgroup : Cgroup) :
    (registry.noteLookup cgroup).byPid = registry.byPid := by
  obtain ⟨_, noted⟩ := noteLookup_eq registry cgroup
  rw [noted]

@[simp] theorem byIdentity_noteLookup (registry : Registry) (cgroup : Cgroup) :
    (registry.noteLookup cgroup).byIdentity = registry.byIdentity := by
  obtain ⟨_, noted⟩ := noteLookup_eq registry cgroup
  rw [noted]

@[simp] theorem byCgroup_noteLookup (registry : Registry) (cgroup : Cgroup) :
    (registry.noteLookup cgroup).byCgroup = registry.byCgroup := by
  obtain ⟨_, noted⟩ := noteLookup_eq registry cgroup
  rw [noted]

@[simp] theorem created_noteLookup (registry : Registry) (cgroup : Cgroup) :
    (registry.noteLookup cgroup).created = registry.created := by
  obtain ⟨_, noted⟩ := noteLookup_eq registry cgroup
  rw [noted]

@[simp] theorem queue_noteLookup (registry : Registry) (cgroup : Cgroup) :
    (registry.noteLookup cgroup).queue = registry.queue := by
  obtain ⟨_, noted⟩ := noteLookup_eq registry cgroup
  rw [noted]

theorem askAbout_eq (registry : Registry) (event : Event) (number : Nat) :
    ∃ queue, registry.askAbout event number = { registry with queue := queue } := by
  unfold askAbout ask
  split
  · split
    · exact ⟨_, rfl⟩
    · exact ⟨registry.queue, rfl⟩
  · exact ⟨registry.queue, rfl⟩

/-! ### What resolving a process can lead to -/

/-- A process joins a container that another cgroup has led to before. -/
def joinBy (registry : Registry) (pid : Pid) (cgroup : Cgroup) (number : Nat) : Registry :=
  attach { registry with byCgroup := registry.byCgroup.insert cgroup.id number } pid number

inductive Resolution (sources : Sources) (registry : Registry) (pid : Pid) : Registry → Prop where
  | settled {state : PidState} (found : registry.byPid.get? pid = some state) :
      Resolution sources registry pid registry
  | unreadable {failure : Cgroup.Error} (unknown : registry.byPid.get? pid = none)
      (read : sources.cgroupOf pid = .error failure) : Resolution sources registry pid registry
  | known {cgroup : Cgroup} {number : Nat} (unknown : registry.byPid.get? pid = none)
      (read : sources.cgroupOf pid = .ok cgroup)
      (found : registry.byCgroup.get? cgroup.id = some number) :
      Resolution sources registry pid (registry.attach pid number)
  | unanswered {cgroup : Cgroup} {failure : Engine.Error} (unknown : registry.byPid.get? pid = none)
      (read : sources.cgroupOf pid = .ok cgroup) (fresh : registry.byCgroup.get? cgroup.id = none)
      (failed : metadataFor sources cgroup = .error failure) :
      Resolution sources registry pid (registry.noteLookup cgroup)
  | untracked {cgroup : Cgroup} {metadata : Option Metadata}
      (unknown : registry.byPid.get? pid = none) (read : sources.cgroupOf pid = .ok cgroup)
      (fresh : registry.byCgroup.get? cgroup.id = none)
      (answered : metadataFor sources cgroup = .ok metadata)
      (nameless : Identity.derive cgroup.kind cgroup.containerId metadata = none) :
      Resolution sources registry pid ((registry.noteLookup cgroup).ignore pid)
  | joined {cgroup : Cgroup} {metadata : Option Metadata} {identity : Identity} {number : Nat}
      (unknown : registry.byPid.get? pid = none) (read : sources.cgroupOf pid = .ok cgroup)
      (fresh : registry.byCgroup.get? cgroup.id = none)
      (answered : metadataFor sources cgroup = .ok metadata)
      (named : Identity.derive cgroup.kind cgroup.containerId metadata = some identity)
      (found : registry.byIdentity.get? identity = some number) :
      Resolution sources registry pid ((registry.noteLookup cgroup).joinBy pid cgroup number)
  | created {cgroup : Cgroup} {metadata : Option Metadata} {identity : Identity}
      (unknown : registry.byPid.get? pid = none) (read : sources.cgroupOf pid = .ok cgroup)
      (fresh : registry.byCgroup.get? cgroup.id = none)
      (answered : metadataFor sources cgroup = .ok metadata)
      (named : Identity.derive cgroup.kind cgroup.containerId metadata = some identity)
      (first : registry.byIdentity.get? identity = none) :
      Resolution sources registry pid
        ((registry.noteLookup cgroup).create pid identity cgroup metadata)

theorem start_resolution (sources : Sources) (registry : Registry) (pid : Pid) :
    Resolution sources registry pid (registry.start sources pid) := by
  unfold start
  cases unknown : registry.byPid.get? pid with
  | some state => exact .settled unknown
  | none =>
    simp only [resolve]
    cases read : sources.cgroupOf pid with
    | error failure => exact .unreadable unknown read
    | ok cgroup =>
      simp only
      cases found : registry.byCgroup.get? cgroup.id with
      | some number => exact .known unknown read found
      | none =>
        simp only
        cases answered : metadataFor sources cgroup with
        | error failure => exact .unanswered unknown read found answered
        | ok metadata =>
          simp only [enroll]
          cases named : Identity.derive cgroup.kind cgroup.containerId metadata with
          | none => exact .untracked unknown read found answered named
          | some identity =>
            simp only
            have same := byIdentity_noteLookup registry cgroup
            cases first : (registry.noteLookup cgroup).byIdentity.get? identity with
            | some number => exact .joined unknown read found answered named (same ▸ first)
            | none => exact .created unknown read found answered named (same ▸ first)

theorem queue_start (sources : Sources) (registry : Registry) (pid : Pid) :
    (registry.start sources pid).queue = registry.queue := by
  have resolution := start_resolution sources registry pid
  generalize registry.start sources pid = next at resolution ⊢
  cases resolution with
  | unanswered unknown read fresh failed => exact queue_noteLookup registry _
  | untracked unknown read fresh answered nameless => exact queue_noteLookup registry _
  | @joined cgroup _ _ _ unknown read fresh answered named found => exact queue_noteLookup registry cgroup
  | @created cgroup _ _ unknown read fresh answered named first => exact queue_noteLookup registry cgroup
  | _ => rfl

theorem start_eq_of_known {state : PidState} (found : registry.byPid.get? pid = some state) :
    registry.start sources pid = registry := by
  simp only [start, found]

/-! ### What the end of a process can lead to -/

/-- A process leaves its container, whatever is left of that. -/
def leaving (registry : Registry) (pid : Pid) (number : Nat) (now : Instant) : Registry :=
  (registry.forget pid).change number (·.leave pid now)

inductive Departure (registry : Registry) (pid : Pid) (now : Instant) : Registry → Prop where
  | unknown (absent : registry.byPid.get? pid = none) : Departure registry pid now registry
  | ignored (found : registry.byPid.get? pid = some .ignored) :
      Departure registry pid now (registry.forget pid)
  | remains {number : Nat} (found : registry.byPid.get? pid = some (.mapped number))
      (inhabited : (registry.leaving pid number now).isDeserted number = false) :
      Departure registry pid now (registry.leaving pid number now)
  | last {number : Nat} (found : registry.byPid.get? pid = some (.mapped number))
      (deserted : (registry.leaving pid number now).isDeserted number = true) :
      Departure registry pid now ((registry.leaving pid number now).retire number)

theorem exit_departure (registry : Registry) (pid : Pid) (now : Instant) :
    Departure registry pid now (registry.exit pid now) := by
  unfold exit
  split
  · rename_i absent
    exact .unknown absent
  · rename_i found
    exact .ignored found
  · rename_i number found
    change Departure registry pid now
      (if (registry.leaving pid number now).isDeserted number then
        (registry.leaving pid number now).retire number else registry.leaving pid number now)
    split
    · rename_i deserted
      exact .last found deserted
    · rename_i inhabited
      exact .remains found (by simpa using inhabited)

theorem container?_leaving (n : Nat) :
    (registry.leaving pid number now).container? n =
      if n = number then (registry.container? n).map (·.leave pid now) else registry.container? n :=
  container?_change _ n

theorem byPid_leaving :
    (registry.leaving pid number now).byPid.get? other =
      if other = pid then none else registry.byPid.get? other :=
  byPid_forget

theorem byPid_exit :
    (registry.exit pid now).byPid.get? other =
      if other = pid then none else registry.byPid.get? other := by
  have departure := exit_departure registry pid now
  generalize registry.exit pid now = next at departure ⊢
  cases departure with
  | unknown absent =>
    by_cases same : other = pid
    · rw [if_pos same, same, absent]
    · rw [if_neg same]
  | ignored found => exact byPid_forget
  | remains found inhabited => exact byPid_forget
  | last found deserted => exact byPid_forget

theorem byPid_exit_self : (registry.exit pid now).byPid.get? pid = none := by
  rw [byPid_exit, if_pos rfl]

theorem exit_of_unknown (unknown : registry.byPid.get? pid = none) : registry.exit pid now = registry := by
  simp only [exit, unknown]

theorem queue_exit (registry : Registry) (pid : Pid) (now : Instant) :
    (registry.exit pid now).queue = registry.queue := by
  have departure := exit_departure registry pid now
  generalize registry.exit pid now = next at departure ⊢
  cases departure <;> rfl

/-! ### What an event can do to the places of processes -/

/-- Whether a service's process is found in another cgroup than the one its container was first
seen in. -/
def isElsewhere (sources : Sources) (registry : Registry) (pid : Pid) : Bool :=
  match (registry.containerOf? pid).bind registry.container?, sources.cgroupOf pid with
  | some container, .ok cgroup =>
    container.cgroup.kind == .systemd && decide (cgroup.id ≠ container.cgroup.id)
  | _, _ => false

theorem isElsewhere_iff {container : Container} (mapped : registry.byPid.get? pid = some (.mapped number))
    (here : registry.container? number = some container) (service : container.cgroup.kind = .systemd)
    {cgroup : Cgroup} (read : sources.cgroupOf pid = .ok cgroup) :
    registry.isElsewhere sources pid = true ↔ cgroup.id ≠ container.cgroup.id := by
  simp [isElsewhere, containerOf?_eq_some_iff.2 mapped, here, read, service]

theorem isElsewhere_of_nowhere (nowhere : registry.containerOf? pid = none) :
    registry.isElsewhere sources pid = false := by
  simp only [isElsewhere, nowhere, Option.bind_none]

theorem ensure_eq (sources : Sources) (registry : Registry) (pid : Pid) (again : Bool)
    (now : Instant) :
    registry.ensure sources pid again now =
      if again && registry.isElsewhere sources pid then
        (registry.exit pid now).start sources.later pid
      else registry.start sources pid := by
  unfold ensure isElsewhere containerOf?
  cases found : registry.byPid.get? pid with
  | none => simp
  | some state =>
    cases state with
    | ignored => simp [start_eq_of_known found]
    | mapped number =>
      simp only [Option.bind_some, start_eq_of_known found]
      cases registry.container? number with
      | none => simp
      | some container =>
        simp only [recheck]
        cases read : sources.cgroupOf pid with
        | error failure => simp
        | ok cgroup =>
          by_cases same : cgroup.id = container.cgroup.id
          · simp [same]
          · simp [same]

inductive Preparation (sources : Sources) (registry : Registry) (event : Event) (now : Instant) :
    Registry → Prop where
  | idle : Preparation sources registry event now registry
  | starts : Preparation sources registry event now (registry.start sources event.pid)
  | exits (kind : event.kind = .processExit) :
      Preparation sources registry event now (registry.exit event.pid now)
  | moves (asks : event.rechecks = true) (speaks : (event.act? now).isSome = true)
      (elsewhere : registry.isElsewhere sources event.pid = true) :
      Preparation sources registry event now
        ((registry.exit event.pid now).start sources.later event.pid)

theorem prepare_preparation (sources : Sources) (registry : Registry) (event : Event) (now : Instant) :
    Preparation sources registry event now (registry.prepare sources event now) := by
  have ensured (speaks : (event.act? now).isSome = true) : Preparation sources registry event now
      (registry.ensure sources event.pid event.rechecks now) := by
    rw [ensure_eq]
    split
    · rename_i both
      rw [Bool.and_eq_true] at both
      exact .moves both.1 speaks both.2
    · exact .starts
  unfold prepare
  split
  · exact .starts
  · rename_i kind
    exact .exits kind
  · exact .idle
  · split
    · rename_i speaks
      exact ensured speaks
    · exact .idle

theorem prepare_of_exit (kind : event.kind = .processExit) :
    registry.prepare sources event now = registry.exit event.pid now := by
  simp only [prepare, kind]

theorem prepare_of_close (kind : event.kind = .connectionClose) :
    registry.prepare sources event now = registry := by
  simp only [prepare, kind]

theorem prepare_of_rechecks (asks : event.rechecks = true) (speaks : (event.act? now).isSome = true) :
    registry.prepare sources event now =
      if registry.isElsewhere sources event.pid then
        (registry.exit event.pid now).start sources.later event.pid
      else registry.start sources event.pid := by
  have ensured : registry.prepare sources event now = registry.ensure sources event.pid true now := by
    unfold prepare
    cases kind : event.kind <;> simp only [Event.rechecks, kind, Bool.false_eq_true] at asks
    all_goals simp only [speaks, if_true, Event.rechecks, kind]
  rw [ensured, ensure_eq, Bool.true_and]

theorem queue_prepare (sources : Sources) (registry : Registry) (event : Event) (now : Instant) :
    (registry.prepare sources event now).queue = registry.queue := by
  have preparation := prepare_preparation sources registry event now
  generalize registry.prepare sources event now = next at preparation ⊢
  cases preparation with
  | idle => rfl
  | starts => exact queue_start sources registry event.pid
  | exits kind => exact queue_exit registry event.pid now
  | moves asks speaks elsewhere =>
    rw [queue_start]
    exact queue_exit registry event.pid now

/-! ### What reaches trackers only -/

/-- The second phase changes one tracker and the queue, if anything. -/
theorem record_cases (property : Registry → Prop) (event : Event) (now : Instant) (silent : property registry)
    (spoken : ∀ number update queue, property { registry.track number update with queue := queue }) :
    property (registry.record event now) := by
  unfold record
  split
  · rename_i act number _ _
    obtain ⟨queue, asked⟩ := askAbout_eq (registry.track number (·.perform act)) event number
    rw [asked]
    exact spoken number (·.perform act) queue
  · exact silent

theorem purge_induction (property : Registry → Prop) (now ttl : Instant) (start : property registry)
    (step : ∀ registry number, property registry →
      property (registry.track number fun tracker => (tracker.purge now ttl).2)) :
    property (registry.purge now ttl) := by
  unfold purge
  generalize registry.byIdentity.values = numbers
  induction numbers generalizing registry with
  | nil => exact start
  | cons number rest ih => exact ih (step registry number start)

theorem applyAnswer_cases (property : Registry → Prop) (request : NatRequest) (answer : Option Address)
    (unchanged : property registry) (changed : ∀ update, property (registry.track request.container update)) :
    property (registry.applyAnswer request answer).1 := by
  unfold applyAnswer
  split
  · exact unchanged
  · split
    · exact unchanged
    · exact changed _

/-! ### The queue -/

theorem mem_queue_record {request : NatRequest}
    (member : request ∈ (registry.record event now).queue) :
    request ∈ registry.queue ∨ (event.flow? = some request.flow ∧ request.socket = event.socket ∧
      request.timestamp = event.timestamp ∧ registry.containerOf? event.pid = some request.container) := by
  unfold record at member
  split at member
  · rename_i act number does mapped
    unfold askAbout ask at member
    split at member
    · rename_i flow opens
      split at member
      · rcases List.mem_append.1 member with before | new
        · exact .inl before
        · rw [List.mem_singleton] at new
          rw [new]
          exact .inr ⟨opens, rfl, rfl, mapped⟩
      · exact .inl member
    · exact .inl member
  · exact .inl member

end Registry

end Attribution
