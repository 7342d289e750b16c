import Attribution.Proofs.System.Interruption
import Mathlib.Data.List.Nodup

/-!
Answers about destinations reach the connections they were asked for.

A request under way names a container, a socket and a time.  The socket may be used again and its
process may go elsewhere before the answer comes; as long as the uses of one socket are told apart by
their times, an answer moves the connection it is about or nothing at all.  So it is even where answers
come in the middle of an event, and runs of whole events are a case of that.
-/

namespace Attribution

/-- The opening of a connection: a use of a socket, and the flow as the process sees it. -/
structure Origin where
  socket : Socket
  timestamp : UInt64
  flow : Flow
  deriving DecidableEq, Repr

/-- One use of a socket, told apart from others by its time. -/
def Origin.use (origin : Origin) : Socket × UInt64 :=
  (origin.socket, origin.timestamp)

def Connection.flow (connection : Connection) : Flow :=
  ⟨connection.source, connection.destination⟩

def Connection.origin (connection : Connection) : Origin :=
  ⟨connection.socket, connection.timestamp, connection.flow⟩

def NatRequest.origin (request : NatRequest) : Origin :=
  ⟨request.socket, request.timestamp, request.flow⟩

/-- The opening that an event tells of, loopback aside. -/
def Event.origin? (event : Event) : Option Origin :=
  event.flow?.map (⟨event.socket, event.timestamp, ·⟩)

namespace Tracker

/-- Every connection known goes back to one of the openings, and has the destination that its process
sees or one that was told for its flow. -/
structure Traced (origins : List Origin) (told : List (Flow × Option Address)) (tracker : Tracker) :
    Prop extends WellKept tracker where
  known : ∀ {connection}, tracker.Knows connection → connection.origin ∈ origins
  truthful : ∀ {connection}, tracker.Knows connection →
    connection.actual = connection.destination ∨ (connection.flow, some connection.actual) ∈ told

variable {origins more : List Origin} {told answers : List (Flow × Option Address)}
  {tracker : Tracker}

theorem traced_empty (origins : List Origin) (told : List (Flow × Option Address)) :
    empty.Traced origins told where
  toWellKept := wellKept_empty
  known knows := absurd knows (not_knows_empty _)
  truthful knows := absurd knows (not_knows_empty _)

theorem Traced.mono (traced : tracker.Traced origins told) (wider : origins ⊆ more)
    (longer : told ⊆ answers) : tracker.Traced more answers where
  toWellKept := traced.toWellKept
  known knows := wider (traced.known knows)
  truthful knows := (traced.truthful knows).imp_right fun member => longer member

theorem Traced.perform (traced : tracker.Traced origins told) {act : Act}
    (placed : ∀ connection, tracker.placed? act = some connection → connection.origin ∈ origins ∧
      (connection.actual = connection.destination ∨
        (connection.flow, some connection.actual) ∈ told)) :
    (tracker.perform act).Traced origins told where
  toWellKept := wellKept_perform traced.toWellKept act
  known knows := by
    rcases knows_perform traced.toWellKept knows with new | ⟨before, known, same⟩
    · exact (placed _ new).1
    · have origin := traced.known known
      rw [same]
      exact origin
  truthful knows := by
    rcases knows_perform traced.toWellKept knows with new | ⟨before, known, same⟩
    · exact (placed _ new).2
    · have honest := traced.truthful known
      rw [same]
      exact honest

end Tracker

namespace System

def Step.origin? : Step → Option Origin
  | .event _ seen _ => seen.origin?
  | _ => none

def openings (steps : List Step) : List Origin :=
  steps.filterMap Step.origin?

theorem openings_append (steps more : List Step) :
    openings (steps ++ more) = openings steps ++ openings more :=
  List.filterMap_append

/-- No two openings are the same use of a socket. -/
def Distinct (origins : List Origin) : Prop :=
  (origins.map Origin.use).Nodup

instance (origins : List Origin) : Decidable (Distinct origins) :=
  inferInstanceAs (Decidable (List.Nodup _))

/-- Connections, requests and answers all go back to openings, and no connection has a destination
that was told for another flow. -/
structure Traced (origins : List Origin) (system : System) : Prop where
  trackers : system.registry.Everywhere (Tracker.Traced origins system.told)
  queued : ∀ {request}, request ∈ system.registry.queue → request.origin ∈ origins
  pending : ∀ {request answer}, (request, answer) ∈ system.answers →
    request.origin ∈ origins ∧ (request.flow, answer) ∈ system.told

theorem traced_empty (origins : List Origin) : empty.Traced origins where
  trackers _ _ found := by cases found
  queued member := by cases member
  pending member := by cases member

variable {origins more : List Origin} {system : System}

theorem Traced.mono (traced : system.Traced origins) (wider : origins ⊆ more) :
    system.Traced more where
  trackers n tracker found := (traced.trackers n tracker found).mono wider (List.Subset.refl _)
  queued member := wider (traced.queued member)
  pending member := ⟨wider (traced.pending member).1, (traced.pending member).2⟩

theorem Traced.deliver (traced : system.Traced origins) (distinct : Distinct origins) :
    (system.perform .deliver).Traced origins := by
  obtain ⟨registry, answers, told⟩ := system
  cases answers with
  | nil => exact traced
  | cons first rest =>
    obtain ⟨request, answer⟩ := first
    obtain ⟨requested, given⟩ := traced.pending List.mem_cons_self
    refine ⟨?_, ?_, fun member => traced.pending (List.mem_cons_of_mem _ member)⟩
    · refine Registry.everywhere_applyAnswer ?_ traced.trackers
      intro tracker actual same _ known
      apply known.perform
      intro connection placed
      simp only [Tracker.placed?, Tracker.movable?, Option.map_eq_some_iff,
        Option.filter_eq_some_iff, decide_eq_true_eq] at placed
      obtain ⟨before, ⟨holds, timely, _⟩, rfl⟩ := placed
      -- The time singles out one opening of the socket, so it is this connection that was asked for.
      have origin := known.known (.inl ⟨_, holds⟩)
      have same_use : before.origin.use = request.origin.use := by
        simp only [Origin.use, Connection.origin, NatRequest.origin, known.own holds, timely]
      have asked : before.origin = request.origin :=
        List.inj_on_of_nodup_map distinct origin requested same_use
      have flow : before.flow = request.flow := congrArg Origin.flow asked
      refine ⟨origin, .inr ?_⟩
      rw [same, ← flow] at given
      exact given
    · intro other member
      rw [perform, Registry.queue_applyAnswer] at member
      exact traced.queued member

theorem Traced.purge (traced : system.Traced origins) (now ttl : Instant) :
    (system.perform (.purge now ttl)).Traced origins where
  trackers := Registry.everywhere_purge (fun tracker known => known.perform fun _ placed => by cases placed)
    traced.trackers
  queued member := by
    rw [perform, Registry.queue_purge] at member
    exact traced.queued member
  pending := traced.pending

theorem Traced.take (traced : system.Traced origins) (count : Nat) (conntrack : Conntrack) :
    (system.perform (.take count conntrack)).Traced origins := by
  simp only [perform]
  split
  · refine ⟨?_, fun member => traced.queued (List.mem_of_mem_drop member), ?_⟩
    · intro n tracker found
      exact (traced.trackers n tracker found).mono (List.Subset.refl _) (List.subset_append_left _ _)
    · intro request answer member
      have taken := List.mem_of_mem_take (List.of_mem_zip member).1
      refine ⟨traced.queued taken, List.mem_append_right _ ?_⟩
      rw [List.zip_map_left]
      exact List.mem_map.2 ⟨(request, answer), member, rfl⟩
  · exact traced

theorem Traced.placed (traced : system.Traced origins) {next : Registry}
    (trackers : next.Everywhere (Tracker.Traced origins system.told)) (queue : next.queue = system.registry.queue) :
    Traced origins { system with registry := next } where
  trackers := trackers
  queued member := traced.queued (queue ▸ member)
  pending := traced.pending

theorem Traced.noted (traced : system.Traced origins) {event : Event}
    (opens : ∀ origin, event.origin? = some origin → origin ∈ origins) (now : Instant) :
    Traced origins { system with registry := system.registry.record event now } where
  trackers := by
    refine Registry.everywhere_record ?_ traced.trackers
    intro tracker act does known
    apply known.perform
    intro connection placed
    obtain ⟨flow, flowing, rfl⟩ := Event.placed_by_act does placed
    exact ⟨opens _ (by rw [Event.origin?, flowing]; rfl), .inl rfl⟩
  queued := by
    intro request member
    rcases Registry.mem_queue_record member with before | ⟨flowing, socket, timestamp, _⟩
    · exact traced.queued before
    · apply opens
      rw [Event.origin?, flowing, NatRequest.origin, socket, timestamp]
      rfl
  pending := traced.pending

/-! ### Answers that come too late -/

/-- A request that waits for its answer, in the queue or at the resolver. -/
def Waits (system : System) (request : NatRequest) : Prop :=
  request ∈ system.registry.queue ∨ ∃ answer, (request, answer) ∈ system.answers

theorem Traced.of_waits (traced : system.Traced origins) {request : NatRequest}
    (waits : system.Waits request) : request.origin ∈ origins := by
  rcases waits with queued | ⟨answer, pending⟩
  · exact traced.queued queued
  · exact (traced.pending pending).1

end System

namespace Registry

/-- The socket that a request is about still holds a connection of the same time. -/
def Holds (registry : Registry) (request : NatRequest) : Prop :=
  ∃ connection, registry.held? request.container request.socket = some connection ∧
    connection.timestamp = request.timestamp

variable {registry : Registry} {request : NatRequest} {event : Event} {now : Instant}

theorem change_eq_self {number : Nat} {update : Container → Container}
    (same : ∀ container, registry.container? number = some container → update container = container) :
    registry.change number update = registry := by
  have created : registry.created.modify number update = registry.created := by
    apply List.ext_getElem?
    intro n
    have changed : (registry.change number update).container? n = registry.container? n := by
      rw [container?_change]
      split
      · rename_i here
        subst here
        cases found : registry.container? n with
        | none => rfl
        | some container => rw [Option.map_some, same container found]
      · rfl
    exact changed
  unfold change
  rw [created]

theorem redirect_eq_self {tracker : Tracker} {socket : Socket} {timestamp : UInt64} (actual : Address)
    (gone : ∀ connection, tracker.held.get? socket = some connection → connection.timestamp ≠ timestamp) :
    tracker.redirect socket timestamp actual = (false, tracker) := by
  unfold Tracker.redirect
  split
  · rfl
  · rename_i connection found
    rw [if_pos (.inl (gone connection found))]

theorem applyAnswer_eq_self (gone : ¬registry.Holds request) (answer : Option Address) :
    registry.applyAnswer request answer = (registry, false) := by
  have still {container : Container} (actual : Address)
      (found : registry.container? request.container = some container) :
      container.tracker.redirect request.socket request.timestamp actual =
        (false, container.tracker) := by
    apply redirect_eq_self
    intro connection holds timely
    exact gone ⟨connection, by rw [held?, tracker?, found]; exact holds, timely⟩
  unfold applyAnswer
  split
  · rfl
  · rename_i actual
    split
    · rfl
    · have unmoved : registry.track request.container (fun tracker =>
          (tracker.redirect request.socket request.timestamp actual).2) = registry := by
        apply change_eq_self
        intro container found
        simp only [Container.track, still actual found]
      rw [unmoved]
      cases found : registry.container? request.container with
      | none => rfl
      | some container => simp only [Option.any_some, still actual found]

theorem Orderly.not_holds_exit (orderly : registry.Orderly) (now : Instant) :
    ¬(registry.exit request.socket.pid now).Holds request := by
  rintro ⟨connection, holds, _⟩
  rw [held?_exit] at holds
  split at holds
  · cases holds
  · rename_i stays
    exact stays ⟨orderly.mapped_iff_hosts.2 (orderly.owned holds), rfl⟩

theorem holds_exit {pid : Kernel.Pid} (holds : (registry.exit pid now).Holds request) :
    registry.Holds request := by
  obtain ⟨connection, found, timely⟩ := holds
  rw [held?_exit] at found
  split at found
  · cases found
  · exact ⟨connection, found, timely⟩

theorem holds_prepare {sources : Sources} (holds : (registry.prepare sources event now).Holds request) :
    registry.Holds request := by
  have preparation := prepare_preparation sources registry event now
  generalize registry.prepare sources event now = next at preparation holds
  cases preparation with
  | idle => exact holds
  | starts =>
    simp only [Holds, held?_start] at holds
    exact holds
  | exits kind => exact holds_exit holds
  | moves asks speaks elsewhere =>
    simp only [Holds, held?_start] at holds
    exact holds_exit holds

/-- An event does not open the use of a socket that a request is about. -/
def Spares (event : Event) (request : NatRequest) : Prop :=
  ∀ origin, event.origin? = some origin → origin.use ≠ request.origin.use

theorem Orderly.holds_record (orderly : registry.Orderly) (spares : Spares event request)
    (holds : (registry.record event now).Holds request) : registry.Holds request := by
  obtain ⟨connection, found, timely⟩ := holds
  rcases orderly.held?_record found with before | ⟨flow, opens, socket, _, rfl⟩
  · exact ⟨connection, before, timely⟩
  · apply absurd _ (spares ⟨event.socket, event.timestamp, flow⟩ (by rw [Event.origin?, opens]; rfl))
    simp only [Origin.use, NatRequest.origin, Prod.mk.injEq]
    exact ⟨socket.symm, timely⟩

theorem Orderly.act_of_holds_record (orderly : registry.Orderly) {act : Tracker.Act}
    (does : event.act? now = some act) (own : request.socket.pid = event.pid)
    (holds : (registry.record event now).Holds request) :
    ∃ tracker connection, registry.tracker? request.container = some tracker ∧
      (tracker.perform act).held.get? request.socket = some connection ∧
      connection.timestamp = request.timestamp := by
  obtain ⟨connection, found, timely⟩ := holds
  -- A socket is held where its process is, so the act has gone to this container.
  have hosts := (orderly.record event now).owned found
  rw [(samePlaces_record registry event now).hosts, own] at hosts
  have mapped := orderly.mapped_iff_hosts.2 hosts
  have acted : (registry.record event now).tracker? request.container =
      (registry.tracker? request.container).map (·.perform act) := by
    rw [tracker?_record_of_mapped does mapped, if_pos rfl]
  rw [held?, acted] at found
  cases present : registry.tracker? request.container with
  | none =>
    rw [present] at found
    cases found
  | some tracker =>
    rw [present] at found
    exact ⟨tracker, connection, rfl, found, timely⟩

end Registry

namespace Tasks

variable {tasks : Tasks} {move : Move} {moves : List Move} {origins : List Origin} {request : NatRequest}

/-! ### Openings, move by move -/

/-- The opening of which a container takes note by a move. -/
def opening? (tasks : Tasks) : Move → Option Origin
  | .proceed =>
    match tasks.rest with
    | .note event _ => event.origin?
    | _ => none
  | _ => none

/-- The openings in the course of a run from some state on. -/
def openingsFrom (tasks : Tasks) : List Move → List Origin
  | [] => []
  | move :: rest => (tasks.opening? move).toList ++ openingsFrom (tasks.perform move) rest

def openings (moves : List Move) : List Origin :=
  openingsFrom empty moves

theorem openingsFrom_append (tasks : Tasks) (moves more : List Move) :
    openingsFrom tasks (moves ++ more) =
      openingsFrom tasks moves ++ openingsFrom (moves.foldl perform tasks) more := by
  induction moves generalizing tasks with
  | nil => rfl
  | cons move rest ih => rw [List.cons_append, openingsFrom, ih, openingsFrom, List.append_assoc, List.foldl_cons]

theorem openings_append (moves more : List Move) :
    openings (moves ++ more) = openings moves ++ openingsFrom (after moves) more :=
  openingsFrom_append empty moves more

theorem traced_perform (traced : tasks.system.Traced origins) (distinct : System.Distinct origins) (move : Move)
    (opens : ∀ origin, tasks.opening? move = some origin → origin ∈ origins) :
    (tasks.perform move).system.Traced origins := by
  have fresh := Tracker.traced_empty origins tasks.system.told
  have exits (pid : Kernel.Pid) (now : Instant) (tracker : Tracker) (known : tracker.Traced origins tasks.system.told) :
      (tracker.perform (.exit pid now)).Traced origins tasks.system.told :=
    known.perform fun _ placed => by cases placed
  cases move with
  | begin sources event now =>
    simp only [perform, begin]
    split
    · split
      · exact traced.placed (Registry.everywhere_exit traced.trackers (exits _ now)) (Registry.queue_exit _ _ now)
      · exact traced.placed (Registry.everywhere_prepare fresh (exits _ now) traced.trackers sources)
          (Registry.queue_prepare sources _ event now)
    · exact traced
  | proceed =>
    simp only [perform, proceed]
    split
    · exact traced
    · exact traced.placed (Registry.everywhere_start fresh traced.trackers _ _) (Registry.queue_start _ _ _)
    · rename_i event now hand
      simp only [opening?, hand] at opens
      exact traced.noted opens now
  | purge now ttl =>
    simp only [perform]
    split
    · exact traced.purge now ttl
    · exact traced
  | take count conntrack => exact traced.take count conntrack
  | deliver => exact traced.deliver distinct

theorem traced_after (distinct : System.Distinct (openings moves)) :
    (after moves).system.Traced (openings moves) := by
  induction moves using List.reverseRecOn with
  | nil => exact System.traced_empty _
  | append_singleton moves move ih =>
    rw [openings_append] at distinct ⊢
    have before : System.Distinct (openings moves) := by
      rw [System.Distinct, List.map_append] at distinct
      exact distinct.of_append_left
    rw [after_snoc]
    apply traced_perform ((ih before).mono (List.subset_append_left _ _)) distinct
    intro origin opens
    exact List.mem_append_right _ (by simp [openingsFrom, opens])

/-! ### Ends of connections, move by move -/

/-- What ends the connection that a request is about. -/
inductive Ending (tasks : Tasks) (request : NatRequest) : Move → Prop where
  /-- Its socket is closed, and the time does not contradict. -/
  | closed {event : Event} {now : Instant} (hand : tasks.rest = .note event now) (kind : event.kind = .connectionClose)
      (here : event.socket = request.socket)
      (timely : event.timestamp = 0 ∨ event.timestamp = request.timestamp) : Ending tasks request .proceed
  /-- Its socket is used again. -/
  | replaced {event : Event} {now : Instant} {flow : Flow} (hand : tasks.rest = .note event now)
      (opens : event.flow? = some flow) (here : event.socket = request.socket) : Ending tasks request .proceed
  | exited {sources : Sources} {event : Event} {now : Instant} (free : tasks.rest = .nothing)
      (kind : event.kind = .processExit) (here : event.pid = request.socket.pid) :
      Ending tasks request (.begin sources event now)
  /-- Its process is found in another cgroup. -/
  | left {sources : Sources} {event : Event} {now : Instant} (free : tasks.rest = .nothing)
      (leaves : tasks.registry.leaves sources event now = true) (here : event.pid = request.socket.pid) :
      Ending tasks request (.begin sources event now)

theorem Ending.not_holds (ending : Ending tasks request move) (orderly : tasks.registry.Orderly)
    (spares : ∀ origin, tasks.opening? move = some origin → origin.use ≠ request.origin.use) :
    ¬(tasks.perform move).registry.Holds request := by
  intro holds
  cases ending with
  | @closed event now hand kind here timely =>
    simp only [perform, proceed, hand] at holds
    have does : event.act? now = some (.close event.socket event.timestamp now) := by
      simp only [Event.act?, kind]
    obtain ⟨tracker, connection, _, remains, same⟩ :=
      orderly.act_of_holds_record does (congrArg Socket.pid here.symm) holds
    rw [Tracker.perform, Tracker.held_close] at remains
    split at remains
    · cases remains
    · rename_i remaining
      apply remaining
      have current : tracker.current? event.socket event.timestamp = some connection :=
        Tracker.current?_eq_some_iff.2 ⟨here ▸ remains, timely.imp_right fun own => same.trans own.symm⟩
      exact ⟨here.symm, by rw [current]; rfl⟩
  | @replaced event now flow hand opens here =>
    simp only [perform, proceed, hand] at holds
    simp only [opening?, hand] at spares
    obtain ⟨loud, does⟩ := Event.act?_of_flow? opens now
    obtain ⟨tracker, connection, _, remains, same⟩ :=
      orderly.act_of_holds_record does (congrArg Socket.pid here.symm) holds
    rw [Tracker.perform, Tracker.held_opened, if_pos ⟨loud, here.symm⟩] at remains
    cases remains
    refine spares ⟨event.socket, event.timestamp, flow⟩ ?_ (Prod.ext here same)
    simp only [Event.origin?, opens]
    rfl
  | @exited sources event now free kind here =>
    have stays : tasks.registry.leaves sources event now = false := by
      simp [Registry.leaves, Event.rechecks, kind]
    simp only [perform, free, begin, stays, Bool.false_eq_true, if_false] at holds
    rw [advance, registry, Registry.prepare_of_exit kind, here] at holds
    exact orderly.not_holds_exit now holds
  | @left sources event now free leaves here =>
    simp only [perform, free, begin, leaves, if_true] at holds
    rw [advance, registry, here] at holds
    exact orderly.not_holds_exit now holds

/-- What a socket no longer holds comes back only by an opening at the same time. -/
theorem holds_perform (orderly : tasks.registry.Orderly)
    (spares : ∀ origin, tasks.opening? move = some origin → origin.use ≠ request.origin.use)
    (holds : (tasks.perform move).registry.Holds request) : tasks.registry.Holds request := by
  cases move with
  | begin sources event now =>
    simp only [perform, begin] at holds
    split at holds
    · split at holds
      · exact Registry.holds_exit holds
      · exact Registry.holds_prepare holds
    · exact holds
  | proceed =>
    simp only [perform, proceed] at holds
    split at holds
    · exact holds
    · obtain ⟨connection, found, timely⟩ := holds
      rw [advance, registry, Registry.held?_start] at found
      exact ⟨connection, found, timely⟩
    · rename_i event now hand
      simp only [opening?, hand] at spares
      exact orderly.holds_record spares holds
  | purge now ttl =>
    simp only [perform] at holds
    split at holds
    · obtain ⟨connection, found, timely⟩ := holds
      rw [registry, System.perform, Registry.held?_purge] at found
      exact ⟨connection, found, timely⟩
    · exact holds
  | take count conntrack =>
    simp only [perform, System.perform] at holds
    split at holds <;> exact holds
  | deliver =>
    simp only [perform, System.perform] at holds
    split at holds
    · exact holds
    · obtain ⟨connection, found, timely⟩ := holds
      obtain ⟨before, held, same⟩ := orderly.held?_applyAnswer found
      exact ⟨before, held, same.trans timely⟩

theorem not_holds_after (gone : ¬(after moves).registry.Holds request) (later : List Move)
    (spares : ∀ origin ∈ openingsFrom (after moves) later, origin.use ≠ request.origin.use) :
    ¬(after (moves ++ later)).registry.Holds request := by
  induction later using List.reverseRecOn with
  | nil => simpa using gone
  | append_singleton later move ih =>
    rw [openingsFrom_append] at spares
    intro holds
    rw [← List.append_assoc, after_snoc] at holds
    refine ih (fun origin member => spares origin (List.mem_append_left _ member)) ?_
    apply holds_perform (orderly_after _) _ holds
    intro origin opens
    apply spares origin (List.mem_append_right _ _)
    rw [after, List.foldl_append] at opens
    simp only [openingsFrom, List.append_nil, Option.mem_toList]
    exact opens

/-- In whatever order things happen, also in the middle of an event, as long as the uses of a socket differ in their
times: a known connection has the destination that its process sees or one that was told for its own flow, and an
answer whose connection has ended since changes nothing. -/
theorem answers_find_own_connections (moves : List Move) (distinct : System.Distinct (openings moves)) :
    (∀ number tracker connection, (after moves).registry.tracker? number = some tracker →
      tracker.Knows connection → connection.actual = connection.destination ∨
        (connection.flow, some connection.actual) ∈ (after moves).system.told) ∧
      ∀ before ending later request, moves = before ++ ending :: later →
        (after before).system.Waits request → Ending (after before) request ending →
        ∀ answer, (after moves).registry.applyAnswer request answer = ((after moves).registry, false) := by
  constructor
  · intro number tracker connection found knows
    exact ((traced_after distinct).trackers number tracker found).truthful knows
  · rintro before ending later request rfl waits ends answer
    have whole : before ++ ending :: later = before ++ [ending] ++ later := by simp
    rw [whole] at distinct ⊢
    rw [List.append_assoc, openings_append, System.Distinct, List.map_append, List.nodup_append] at distinct
    obtain ⟨early, _, apart⟩ := distinct
    -- The request's own opening lies before the ending, so none that follows uses the socket alike.
    have asked := List.mem_map_of_mem (f := Origin.use) ((traced_after early).of_waits waits)
    have spared {origin : Origin} (member : origin ∈ openingsFrom (after before) ([ending] ++ later)) :
        origin.use ≠ request.origin.use :=
      fun same => apart _ asked _ (List.mem_map_of_mem member) same.symm
    apply Registry.applyAnswer_eq_self
    apply not_holds_after
    · rw [after_snoc]
      apply ends.not_holds (orderly_after before)
      intro origin opens
      exact spared (by simp [openingsFrom, opens])
    · intro origin member
      rw [openingsFrom_append] at spared
      rw [after_snoc] at member
      exact spared (List.mem_append_right _ member)

end Tasks

namespace System

/-! ### Runs of whole events -/

/-- What ends the connection that a request is about. -/
inductive Ending (registry : Registry) (request : NatRequest) : Step → Prop where
  /-- Its socket is closed, and the time does not contradict. -/
  | closed {sources : Sources} {event : Event} {now : Instant} (kind : event.kind = .connectionClose)
      (here : event.socket = request.socket)
      (timely : event.timestamp = 0 ∨ event.timestamp = request.timestamp) :
      Ending registry request (.event sources event now)
  /-- Its socket is used again. -/
  | replaced {sources : Sources} {event : Event} {now : Instant} {flow : Flow}
      (opens : event.flow? = some flow) (here : event.socket = request.socket) :
      Ending registry request (.event sources event now)
  | exited {sources : Sources} {event : Event} {now : Instant} (kind : event.kind = .processExit)
      (here : event.pid = request.socket.pid) : Ending registry request (.event sources event now)
  /-- Its process is found in another cgroup. -/
  | moved {sources : Sources} {event : Event} {now : Instant} (asks : event.rechecks = true)
      (speaks : (event.act? now).isSome = true)
      (elsewhere : registry.isElsewhere sources event.pid = true)
      (here : event.pid = request.socket.pid) : Ending registry request (.event sources event now)

theorem openingsFrom_moves (system : System) (step : Step) :
    Tasks.openingsFrom ⟨system, .nothing⟩ step.moves = step.origin?.toList := by
  cases step with
  | event sources event now =>
    cases left : system.registry.leaves sources event now <;>
      simp [Step.moves, Step.origin?, Tasks.openingsFrom, Tasks.opening?, Tasks.perform, Tasks.begin, Tasks.proceed,
        Tasks.registry, Tasks.advance, left]
  | purge | take | deliver => rfl

theorem openings_moves (steps : List Step) : Tasks.openings (steps.flatMap Step.moves) = openings steps := by
  induction steps using List.reverseRecOn with
  | nil => rfl
  | append_singleton steps step ih =>
    rw [List.flatMap_append, List.flatMap_singleton, Tasks.openings_append, ih, Tasks.after_moves, openingsFrom_moves,
      openings_append]
    cases told : step.origin? <;> simp [openings, told]

variable {system : System} {request : NatRequest} {step : Step}

/-- Before a container takes note of an event, no request goes and the event is in hand. -/
theorem exists_note (waits : system.Waits request) (sources : Sources) (event : Event) (now : Instant) :
    ∃ first last, Step.moves (.event sources event now) = first ++ .proceed :: last ∧
      (first.foldl Tasks.perform ⟨system, .nothing⟩).rest = .note event now ∧
      (first.foldl Tasks.perform ⟨system, .nothing⟩).system.Waits request := by
  cases left : system.registry.leaves sources event now with
  | false =>
    refine ⟨[.begin sources event now], [.proceed], rfl, ?_⟩
    simpa [Tasks.perform, Tasks.begin, Tasks.registry, Tasks.advance, left, Waits, Registry.queue_prepare] using waits
  | true =>
    refine ⟨[.begin sources event now, .proceed], [], rfl, ?_⟩
    simpa [Tasks.perform, Tasks.begin, Tasks.proceed, Tasks.registry, Tasks.advance, left, Waits, Registry.queue_start,
      Registry.queue_exit] using waits

/-- A connection that an event ends is ended by one of the event's moves. -/
theorem Ending.exists_move (ends : Ending system.registry request step) (waits : system.Waits request) :
    ∃ first move last, step.moves = first ++ move :: last ∧
      (first.foldl Tasks.perform ⟨system, .nothing⟩).system.Waits request ∧
      Tasks.Ending (first.foldl Tasks.perform ⟨system, .nothing⟩) request move := by
  cases ends with
  | @closed sources event now kind here timely =>
    obtain ⟨first, last, splits, hand, still⟩ := exists_note waits sources event now
    exact ⟨first, .proceed, last, splits, still, .closed hand kind here timely⟩
  | @replaced sources event now flow opens here =>
    obtain ⟨first, last, splits, hand, still⟩ := exists_note waits sources event now
    exact ⟨first, .proceed, last, splits, still, .replaced hand opens here⟩
  | @exited sources event now kind here =>
    exact ⟨[], .begin sources event now, [.proceed, .proceed], rfl, waits, .exited rfl kind here⟩
  | @moved sources event now asks speaks elsewhere here =>
    have leaves : system.registry.leaves sources event now = true := by
      simp [Registry.leaves, asks, speaks, elsewhere]
    exact ⟨[], .begin sources event now, [.proceed, .proceed], rfl, waits, .left rfl leaves here⟩

/-- In whatever order things happen, as long as the uses of a socket differ in their times: a known
connection has the destination that its process sees or one that was told for its own flow, and an
answer whose connection has ended since changes nothing. -/
theorem answers_reach_own_connections (steps : List Step) (distinct : Distinct (openings steps)) :
    (∀ number tracker connection, (after steps).registry.tracker? number = some tracker →
      tracker.Knows connection → connection.actual = connection.destination ∨
        (connection.flow, some connection.actual) ∈ (after steps).told) ∧
      ∀ before ending later request, steps = before ++ ending :: later →
        (after before).Waits request → Ending (after before).registry request ending →
        ∀ answer, (after steps).registry.applyAnswer request answer =
          ((after steps).registry, false) := by
  rw [← openings_moves] at distinct
  obtain ⟨truthful, unmoved⟩ := Tasks.answers_find_own_connections _ distinct
  rw [Tasks.after_moves] at truthful unmoved
  refine ⟨truthful, ?_⟩
  rintro before ending later request rfl waits ends answer
  obtain ⟨first, move, last, splits, still, ended⟩ := ends.exists_move waits
  have here : Tasks.after (before.flatMap Step.moves ++ first) = first.foldl Tasks.perform ⟨after before, .nothing⟩ := by
    rw [← Tasks.after_moves, Tasks.after, Tasks.after, List.foldl_append]
  refine unmoved (before.flatMap Step.moves ++ first) move (last ++ later.flatMap Step.moves) request ?_ ?_ ?_ answer
  · simp [List.flatMap_append, splits]
  · rwa [here]
  · rwa [here]

/-! ### An answer after a close -/

def lateSources : Sources where
  cgroupOf _ := .ok ⟨"/system.slice/nginx.service", .v2, .systemd, "/system.slice/nginx.service", .empty⟩
  metadataOf _ := .ok .empty

/-- What process 7 does with descriptor 3. -/
def onDescriptor (kind : EventType) (timestamp : UInt64) : Event :=
  ⟨kind, .none, 7, 3, timestamp, some (.v4 0x0A000002 40000), some (.v4 0x0A600001 80), none⟩

/-- The resolver has an answer in hand, and applies it later. -/
def answered : List Step :=
  [.event lateSources (.start 7) 0, .event lateSources (onDescriptor .connectionOpen 100) 0,
    .take 1 fun flows => flows.map fun _ => some (.v4 0x0A000009 8080)]

def answeredRequest : NatRequest :=
  ⟨0, ⟨7, 3⟩, 100, ⟨.v4 0x0A000002 40000, .v4 0x0A600001 80⟩⟩

def closing : Step :=
  .event lateSources (onDescriptor .connectionClose 100) 1

/-- The descriptor is used again. -/
def reopenedLater : List Step :=
  [.event lateSources (onDescriptor .connectionOpen 200) 2]

theorem late_answer_moves_nothing :
    (after (answered ++ closing :: reopenedLater)).registry.applyAnswer answeredRequest
      (some (.v4 0x0A000009 8080)) = ((after (answered ++ closing :: reopenedLater)).registry, false) := by
  have waits : (after answered).Waits answeredRequest :=
    .inr ⟨some (.v4 0x0A000009 8080), by decide⟩
  exact (answers_reach_own_connections _ (by decide)).2 answered closing reopenedLater answeredRequest
    rfl waits (.closed rfl rfl (.inr rfl)) _

end System

end Attribution
