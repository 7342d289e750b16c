import Attribution.Proofs.Tracker.Acts
import Mathlib.Algebra.GroupWithZero.Nat

/-!
Which connection a request counts for.

A socket's connection follows from what happened to that socket alone, and a request counts for the
destination that the connection of its socket has at that moment.  Main statement: after any run each
socket holds the connection of its own history, and the usage of a destination is that of the
requests accepted for it, no more and no less.
-/

namespace Attribution

/-- What a list of requests adds up to. -/
def Usage.ofRequests (requests : List Request) : Usage where
  requests := requests.length
  failed := requests.countP Request.isFailed
  duration := (requests.map (·.duration.toNat)).sum

theorem Usage.ofRequests_snoc (requests : List Request) (request : Request) :
    Usage.ofRequests (requests ++ [request]) = (Usage.ofRequests requests).add request := by
  cases failed : request.isFailed <;> simp [ofRequests, add, failed]

namespace Tracker

/-! ### The history of a socket -/

/-- Whether an act is about a socket; the end of a process is about all of its sockets. -/
def Act.concerns (socket : Socket) : Act → Bool
  | .opened opening _ => opening.connection.socket = socket
  | .close other _ _ | .redirect other _ _ | .requested other _ _ => other = socket
  | .exit pid _ => socket.pid = pid
  | _ => false

/-- What an act about a socket makes of the connection there. -/
def follow (current : Option Connection) : Act → Option Connection
  | .opened opening _ =>
    if opening.destination.isLoopback then current else some opening.connection
  | .close _ timestamp _ =>
    current.filter fun connection => !(timestamp = 0 || connection.timestamp = timestamp)
  | .exit _ _ => none
  | .redirect _ timestamp actual =>
    current.map fun connection =>
      if connection.timestamp = timestamp then { connection with actual := actual } else connection
  | _ => current

/-- The connection that a socket has after a run, by its own history. -/
def currentOf (socket : Socket) (acts : List Act) : Option Connection :=
  (acts.filter (·.concerns socket)).foldl follow none

/-- The destination and the request of an act that follows a run, if it is a request that is
accepted. -/
def accepted? (acts : List Act) : Act → Option (Address × Request)
  | .requested socket timestamp request =>
    ((currentOf socket acts).filter fun connection =>
      timestamp = 0 || connection.timestamp = timestamp).map fun connection =>
        (connection.actual, request)
  | _ => none

/-- The requests accepted while acts follow a run, each with the destination it counts for. -/
def acceptedFrom (past : List Act) : List Act → List (Address × Request)
  | [] => []
  | act :: rest => (accepted? past act).toList ++ acceptedFrom (past ++ [act]) rest

/-- The requests accepted in the course of a run that count for a protocol and a destination. -/
def requestsTo (protocol : Protocol) (destination : Address) (acts : List Act) : List Request :=
  ((acceptedFrom [] acts).filter fun entry =>
    entry.1 = destination && entry.2.protocol = protocol).map Prod.snd

theorem currentOf_snoc (socket : Socket) (acts : List Act) (act : Act) :
    currentOf socket (acts ++ [act]) =
      if act.concerns socket then follow (currentOf socket acts) act else currentOf socket acts := by
  unfold currentOf
  cases concerned : act.concerns socket <;> simp [List.filter_append, concerned]

theorem acceptedFrom_snoc (past acts : List Act) (act : Act) :
    acceptedFrom past (acts ++ [act]) =
      acceptedFrom past acts ++ (accepted? (past ++ acts) act).toList := by
  induction acts generalizing past with
  | nil => simp [acceptedFrom]
  | cons first rest ih => simp [acceptedFrom, ih]

theorem requestsTo_snoc (protocol : Protocol) (destination : Address) (acts : List Act) (act : Act) :
    requestsTo protocol destination (acts ++ [act]) =
      requestsTo protocol destination acts ++
        (((accepted? acts act).filter fun entry =>
          entry.1 = destination && entry.2.protocol = protocol).map Prod.snd).toList := by
  unfold requestsTo
  rw [acceptedFrom_snoc, List.filter_append, List.map_append, List.nil_append]
  congr 1
  cases accepted? acts act with
  | none => rfl
  | some entry => cases here : (entry.1 = destination && entry.2.protocol = protocol : Bool) <;>
      simp_all [Option.filter]

/-! ### What an act does to one socket -/

variable {tracker : Tracker} {act : Act}

theorem follow_close (tracker : Tracker) (socket : Socket) (timestamp : UInt64) (now : Instant) :
    (tracker.close socket timestamp now).2.held.get? socket =
      follow (tracker.held.get? socket) (.close socket timestamp now) := by
  rw [held_close, current?]
  cases held : tracker.held.get? socket with
  | none => simp [follow]
  | some connection =>
    simp only [follow, Option.filter_some, Bool.decide_or]
    cases (decide (timestamp = 0) || decide (connection.timestamp = timestamp)) <;> rfl

theorem follow_redirect (tracker : Tracker) (socket : Socket) (timestamp : UInt64)
    (actual : Address) :
    (tracker.redirect socket timestamp actual).2.held.get? socket =
      follow (tracker.held.get? socket) (.redirect socket timestamp actual) := by
  rcases redirect_cases tracker socket timestamp actual with
    ⟨connection, found, timely, elsewhere⟩ | ⟨nothing, still⟩
  · rw [redirect_eq_of_moves found timely elsewhere, Table.get?_insert_self, found]
    simp [follow, timely]
  · rw [still]
    cases held : tracker.held.get? socket with
    | none => rfl
    | some connection =>
      -- Nothing moves if the times differ or the destination is the one it has already.
      have there : connection.timestamp = timestamp → connection.actual = actual := by
        simpa [movable?, held, Option.filter_eq_none_iff] using nothing
      by_cases timely : connection.timestamp = timestamp
      · simp only [follow, Option.map_some, if_pos timely, ← there timely]
      · simp only [follow, Option.map_some, if_neg timely]

theorem held_redirect_of_ne {socket other : Socket} (another : socket ≠ other) (timestamp : UInt64)
    (actual : Address) :
    (tracker.redirect other timestamp actual).2.held.get? socket = tracker.held.get? socket := by
  rcases redirect_cases tracker other timestamp actual with
    ⟨connection, found, timely, elsewhere⟩ | ⟨_, still⟩
  · rw [redirect_eq_of_moves found timely elsewhere, Table.get?_insert, if_neg another]
  · rw [still]

/-- An act changes the sockets that it concerns, and nothing else about them matters but what they
held. -/
theorem held_perform (tracker : Tracker) (act : Act) (socket : Socket) :
    (tracker.perform act).held.get? socket =
      if act.concerns socket then follow (tracker.held.get? socket) act
      else tracker.held.get? socket := by
  cases act with
  | opened opening now =>
    rw [perform, held_opened]
    cases loopback : opening.destination.isLoopback <;>
      simp [Act.concerns, follow, loopback, eq_comm]
  | close other timestamp now =>
    by_cases same : other = socket
    · subst same
      rw [perform, follow_close]
      simp [Act.concerns]
    · rw [perform, held_close]
      simp [Act.concerns, same, Ne.symm same]
  | exit pid now =>
    rw [perform, held_exit]
    simp [Act.concerns, follow]
  | redirect other timestamp actual =>
    by_cases same : other = socket
    · subst same
      rw [perform, follow_redirect]
      simp [Act.concerns]
    · rw [perform, held_redirect_of_ne (Ne.symm same)]
      simp [Act.concerns, same]
  | failedOpen destination now => exact congrArg (·.get? socket) (held_failedOpen tracker destination now)
  | requested other timestamp request =>
    rw [perform, held_requested]
    simp [follow]
  | purge now ttl => rfl
  | retransmitted destination => rfl
  | listen address => rfl
  | unlisten address => rfl

theorem held_after (acts : List Act) (socket : Socket) :
    (after acts).held.get? socket = currentOf socket acts := by
  induction acts using List.reverseRecOn with
  | nil => rfl
  | append_singleton acts act ih => rw [after_snoc, held_perform, currentOf_snoc, ih]

/-! ### What an act does to the usage -/

theorem usage_perform (tracker : Tracker) (act : Act)
    (noRequest : ∀ socket timestamp request, act ≠ .requested socket timestamp request) :
    (tracker.perform act).usage = tracker.usage := by
  cases act with
  | opened opening now =>
    change (tracker.opened opening now).usage = tracker.usage
    unfold opened attempt
    split <;> rfl
  | failedOpen destination now =>
    change (tracker.failedOpen destination now).usage = tracker.usage
    unfold failedOpen attempt
    split <;> rfl
  | close socket timestamp now =>
    change (tracker.close socket timestamp now).2.usage = tracker.usage
    unfold close
    split <;> rfl
  | redirect socket timestamp actual =>
    rcases redirect_cases tracker socket timestamp actual with
      ⟨connection, found, timely, elsewhere⟩ | ⟨_, still⟩
    · rw [perform, redirect_eq_of_moves found timely elsewhere]
    · rw [perform, still]
  | requested socket timestamp request => exact absurd rfl (noRequest socket timestamp request)
  | exit pid now => rfl
  | retransmitted destination => rfl
  | listen address => rfl
  | unlisten address => rfl
  | purge now ttl => rfl

theorem requested_fst_iff {socket : Socket} {timestamp : UInt64} {request : Request} :
    (tracker.requested socket timestamp request).1 = true ↔
      ∃ connection, tracker.current? socket timestamp = some connection := by
  unfold requested
  cases tracker.current? socket timestamp <;> simp

theorem usage_requested (tracker : Tracker) (socket : Socket) (timestamp : UInt64)
    (request : Request) (protocol : Protocol) (destination : Address) :
    (tracker.requested socket timestamp request).2.usage.get? (protocol, destination) =
      if (tracker.current? socket timestamp).any fun connection =>
        connection.actual = destination && request.protocol = protocol
      then some ((tracker.usage.getD (protocol, destination) .none).add request)
      else tracker.usage.get? (protocol, destination) := by
  unfold requested
  cases tracker.current? socket timestamp with
  | none => simp
  | some connection =>
    simp only [Table.get?_insert, Option.any_some, Prod.mk.injEq]
    by_cases here : connection.actual = destination ∧ request.protocol = protocol
    · obtain ⟨rfl, rfl⟩ := here
      simp
    · rw [if_neg fun same => here ⟨same.2.symm, same.1.symm⟩, if_neg (by simpa using here)]

theorem accepted?_requested (acts : List Act) (socket : Socket) (timestamp : UInt64)
    (request : Request) :
    accepted? acts (.requested socket timestamp request) =
      ((after acts).current? socket timestamp).map fun connection => (connection.actual, request) := by
  rw [current?, held_after]
  simp [accepted?]

theorem usage_after (acts : List Act) (protocol : Protocol) (destination : Address) :
    (after acts).usage.get? (protocol, destination) =
      if requestsTo protocol destination acts = [] then none
      else some (.ofRequests (requestsTo protocol destination acts)) := by
  induction acts using List.reverseRecOn with
  | nil => rfl
  | append_singleton acts act ih =>
    rw [after_snoc, requestsTo_snoc]
    by_cases asks : ∃ socket timestamp request, act = .requested socket timestamp request
    · obtain ⟨socket, timestamp, request, rfl⟩ := asks
      rw [perform, usage_requested, accepted?_requested]
      cases (after acts).current? socket timestamp with
      | none => simpa using ih
      | some connection =>
        by_cases here : connection.actual = destination ∧ request.protocol = protocol
        · have before : (after acts).usage.getD (protocol, destination) .none =
              .ofRequests (requestsTo protocol destination acts) := by
            rw [Table.getD, ih]
            split
            · rename_i first
              rw [first]
              rfl
            · rfl
          simp [here, Option.filter, before, Usage.ofRequests_snoc]
        · have elsewhere : (decide (connection.actual = destination) &&
              decide (request.protocol = protocol)) = false := by
            simpa using here
          simpa [elsewhere, Option.filter] using ih
    · have quiet (socket : Socket) (timestamp : UInt64) (request : Request) :
          act ≠ .requested socket timestamp request :=
        fun same => asks ⟨socket, timestamp, request, same⟩
      have none : accepted? acts act = none := by
        cases act with
        | requested socket timestamp request => exact absurd rfl (quiet socket timestamp request)
        | _ => rfl
      rw [usage_perform _ _ quiet, none]
      simpa using ih

/-- After any run each socket holds the connection of its own history, a request is accepted exactly
when that connection is there and the time does not contradict, and the usage of a protocol and a
destination is that of the requests accepted for them.  What is no request leaves the usage as it is,
and what does not concern a socket leaves its connection. -/
theorem usage_follows_history (acts : List Act) :
    (∀ socket, (after acts).held.get? socket = currentOf socket acts) ∧
      (∀ socket timestamp request, ((after acts).requested socket timestamp request).1 = true ↔
        ∃ connection, currentOf socket acts = some connection ∧
          (timestamp = 0 ∨ connection.timestamp = timestamp)) ∧
      (∀ protocol destination, (after acts).usage.get? (protocol, destination) =
        if requestsTo protocol destination acts = [] then none
        else some (.ofRequests (requestsTo protocol destination acts))) ∧
      (∀ act, (∀ socket timestamp request, act ≠ .requested socket timestamp request) →
        (after (acts ++ [act])).usage = (after acts).usage) ∧
      ∀ act socket, act.concerns socket = false →
        (after (acts ++ [act])).held.get? socket = (after acts).held.get? socket := by
  refine ⟨held_after acts, ?_, usage_after acts, ?_, ?_⟩
  · intro socket timestamp request
    rw [requested_fst_iff]
    simp only [current?_eq_some_iff, held_after]
  · intro act noRequest
    rw [after_snoc, usage_perform _ _ noRequest]
  · intro act socket unconcerned
    rw [after_snoc, held_perform, unconcerned, if_neg Bool.false_ne_true]

end Tracker

end Attribution
