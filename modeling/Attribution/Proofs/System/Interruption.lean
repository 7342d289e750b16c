import Attribution.Proofs.System.Basic

/-!
The registry interrupted in the middle of an event.

A process that has moved first leaves its container, is then placed anew, and only then its new
container takes note of the event.  The resolver works on a thread of its own, so it can apply answers
in between; each of the three phases changes at most one tracker, and that all at once.  Main statement:
in whatever way the two interleave, a container holds sockets of its own processes alone, so a close
finds the container that holds its socket.
-/

namespace Attribution

/-- What is still to be done of the event in hand. -/
inductive Rest where
  | nothing
  /-- Its process has left its container and is to be placed anew. -/
  | place (sources : Sources) (event : Event) (now : Instant)
  /-- Its process is in its place, and the container has to take note. -/
  | note (event : Event) (now : Instant)

/-- The registry at work on an event, and the resolver beside it. -/
structure Tasks where
  system : System
  rest : Rest

namespace Registry

/-- Whether a process leaves its container because an event finds it elsewhere. -/
def leaves (sources : Sources) (registry : Registry) (event : Event) (now : Instant) : Bool :=
  event.rechecks && (event.act? now).isSome && registry.isElsewhere sources event.pid

theorem prepare_of_leaves {sources : Sources} {registry : Registry} {event : Event} {now : Instant}
    (left : registry.leaves sources event now = true) :
    registry.prepare sources event now =
      (registry.exit event.pid now).start sources.later event.pid := by
  simp only [leaves, Bool.and_eq_true] at left
  rw [prepare_of_rechecks left.1.1 left.1.2, if_pos left.2]

end Registry

namespace Tasks

/-- What either of the two does next. -/
inductive Move where
  /-- The registry turns to an event. -/
  | begin (sources : Sources) (event : Event) (now : Instant)
  /-- The registry goes on with the event in hand. -/
  | proceed
  | purge (now ttl : Instant)
  | take (count : Nat) (conntrack : Conntrack)
  | deliver

def registry (tasks : Tasks) : Registry :=
  tasks.system.registry

/-- The registry's own part has come one phase further. -/
def advance (tasks : Tasks) (registry : Registry) (rest : Rest) : Tasks :=
  ⟨{ tasks.system with registry := registry }, rest⟩

def begin (tasks : Tasks) (sources : Sources) (event : Event) (now : Instant) : Tasks :=
  if tasks.registry.leaves sources event now then
    tasks.advance (tasks.registry.exit event.pid now) (.place sources event now)
  else tasks.advance (tasks.registry.prepare sources event now) (.note event now)

def proceed (tasks : Tasks) : Tasks :=
  match tasks.rest with
  | .nothing => tasks
  | .place sources event now =>
    tasks.advance (tasks.registry.start sources.later event.pid) (.note event now)
  | .note event now => tasks.advance (tasks.registry.record event now) .nothing

def perform (tasks : Tasks) : Move → Tasks
  | .begin sources event now =>
    match tasks.rest with
    | .nothing => tasks.begin sources event now
    | _ => tasks
  | .proceed => tasks.proceed
  | .purge now ttl =>
    match tasks.rest with
    | .nothing => { tasks with system := tasks.system.perform (.purge now ttl) }
    | _ => tasks
  | .take count conntrack => { tasks with system := tasks.system.perform (.take count conntrack) }
  | .deliver => { tasks with system := tasks.system.perform .deliver }

def empty : Tasks :=
  ⟨.empty, .nothing⟩

def after (moves : List Move) : Tasks :=
  moves.foldl perform empty

theorem after_snoc (moves : List Move) (move : Move) :
    after (moves ++ [move]) = (after moves).perform move := by
  simp [after]

end Tasks

/-! ### Events without interruption -/

/-- The moves of a step with nothing in between.  A process that has stayed where it was needs no second phase, and
then the last move finds nothing to do. -/
def System.Step.moves : System.Step → List Tasks.Move
  | .event sources seen now => [.begin sources seen now, .proceed, .proceed]
  | .purge now ttl => [.purge now ttl]
  | .take count conntrack => [.take count conntrack]
  | .deliver => [.deliver]

namespace Tasks

theorem foldl_moves (system : System) (step : System.Step) :
    step.moves.foldl perform ⟨system, .nothing⟩ = ⟨system.perform step, .nothing⟩ := by
  cases step with
  | event sources event now =>
    simp only [System.Step.moves, System.perform, Registry.handle_eq]
    cases left : system.registry.leaves sources event now with
    | false => simp [perform, begin, registry, left, proceed, advance]
    | true =>
      rw [Registry.prepare_of_leaves left]
      simp [perform, begin, registry, left, proceed, advance]
  | purge | take | deliver => rfl

/-- A run in which events are not interrupted is one of the runs. -/
theorem after_moves (steps : List System.Step) :
    after (steps.flatMap System.Step.moves) = ⟨System.after steps, .nothing⟩ := by
  induction steps using List.reverseRecOn with
  | nil => rfl
  | append_singleton steps step ih =>
    rw [List.flatMap_append, List.flatMap_singleton, after, List.foldl_append, System.after_snoc, ← foldl_moves, ← ih]
    rfl

/-! ### Order at every moment -/

theorem orderly_step {system : System} (orderly : system.registry.Orderly) (step : System.Step) :
    (system.perform step).registry.Orderly := by
  cases step with
  | event sources event now => exact orderly.handle sources event now
  | purge now ttl => exact orderly.purge now ttl
  | take count conntrack =>
    simp only [System.perform]
    split
    · exact orderly.withQueue _
    · exact orderly
  | deliver =>
    simp only [System.perform]
    split
    · exact orderly
    · exact orderly.applyAnswer _ _

theorem orderly_perform {tasks : Tasks} (orderly : tasks.registry.Orderly) (move : Move) :
    (tasks.perform move).registry.Orderly := by
  cases move with
  | begin sources event now =>
    simp only [perform, begin]
    split
    · split
      · exact orderly.exit event.pid now
      · exact orderly.prepare sources event now
    · exact orderly
  | proceed =>
    simp only [perform, proceed]
    split
    · exact orderly
    · exact orderly.start _ _
    · exact orderly.record _ _
  | purge now ttl =>
    simp only [perform]
    split
    · exact orderly_step orderly (.purge now ttl)
    · exact orderly
  | take count conntrack => exact orderly_step orderly (.take count conntrack)
  | deliver => exact orderly_step orderly .deliver

theorem orderly_after (moves : List Move) : (after moves).registry.Orderly := by
  induction moves using List.reverseRecOn with
  | nil => exact Registry.orderly_empty
  | append_singleton moves move ih =>
    rw [after_snoc]
    exact orderly_perform ih move

end Tasks

namespace Registry

theorem Orderly.close_reaches {registry : Registry} (orderly : registry.Orderly) {number : Nat}
    {socket : Socket} {connection : Connection} (holds : registry.held? number socket = some connection)
    {event : Event} (kind : event.kind = .connectionClose) (here : event.socket = socket)
    (timely : event.timestamp = 0 ∨ event.timestamp = connection.timestamp) (sources : Sources)
    (now : Instant) :
    (registry.handle sources event now).held? number socket = none ∧
      ∀ n, (registry.handle sources event now).tracker? n =
        if n = number then
          (registry.tracker? n).map fun tracker => (tracker.close socket event.timestamp now).2
        else registry.tracker? n := by
  subst here
  have does : event.act? now = some (.close event.socket event.timestamp now) := by
    simp only [Event.act?, kind]
  have mapped := orderly.mapped_iff_hosts.2 (orderly.owned holds)
  have reaches (n : Nat) := tracker?_record_of_mapped does mapped n
  rw [handle_eq, prepare_of_close kind]
  refine ⟨?_, reaches⟩
  rw [held?, reaches, if_pos rfl]
  cases found : registry.tracker? number with
  | none => rfl
  | some tracker =>
    have held : tracker.held.get? event.socket = some connection := by simpa [held?, found] using holds
    have current : tracker.current? event.socket event.timestamp = some connection :=
      Tracker.current?_eq_some_iff.2 ⟨held, timely.imp_right Eq.symm⟩
    simp [Tracker.perform, Tracker.held_close, current]

end Registry

namespace Tasks

/-- At every moment, however the two interleave: a socket is held only where its process is, by one
container at most, and not at all by a container that is out of the indices; and a close that does not
contradict reaches the container that holds its socket, which lets go of it, and no other. -/
theorem sockets_owned (moves : List Move) :
    let registry := (after moves).registry
    (∀ number socket connection, registry.held? number socket = some connection →
        registry.Hosts number socket.pid) ∧
      (∀ number, ¬registry.Indexed number → ∀ socket, registry.held? number socket = none) ∧
      (∀ first second socket a b, registry.held? first socket = some a →
        registry.held? second socket = some b → first = second) ∧
      ∀ number socket connection, registry.held? number socket = some connection →
        ∀ sources event now, event.kind = .connectionClose → event.socket = socket →
          (event.timestamp = 0 ∨ event.timestamp = connection.timestamp) →
          (registry.handle sources event now).held? number socket = none ∧
            ∀ n, (registry.handle sources event now).tracker? n =
              if n = number then
                (registry.tracker? n).map fun tracker => (tracker.close socket event.timestamp now).2
              else registry.tracker? n := by
  intro registry
  have orderly : registry.Orderly := orderly_after moves
  refine ⟨fun _ _ _ => orderly.owned, ?_, ?_, ?_⟩
  · intro number retired socket
    cases holds : registry.held? number socket with
    | none => rfl
    | some connection => exact absurd (orderly.hosts_indexed (orderly.owned holds)) retired
  · intro first second socket a b here there
    exact orderly.hosts_unique (orderly.owned there) (orderly.owned here)
  · intro number socket connection holds sources event now kind here timely
    exact orderly.close_reaches holds kind here timely sources now

end Tasks

end Attribution
