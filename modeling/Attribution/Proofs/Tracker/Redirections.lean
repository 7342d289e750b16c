import Attribution.Proofs.Tracker.Requests
import Attribution.Proofs.Tracker.Counters
import Attribution.Proofs.Tracker.Summaries

/-!
Redirections of different sockets, in any order.

A redirection takes one opening from the counter of the pair that its connection is on, which can be
a pair that others share, have just left or are about to reach.  What a list of redirections leads to is
therefore described by what each of them finds at the start, which no other redirection changes.
Main statement: as long as nothing was purged, the order of redirections is of no account for the
sockets, the counters and the summary.
-/

namespace Attribution.Tracker

/-- The destination that the connection opened on a socket at some time has after NAT. -/
structure Redirection where
  socket : Socket
  timestamp : UInt64
  actual : Address
  deriving DecidableEq, Repr

namespace Redirection

def act (redirection : Redirection) : Act :=
  .redirect redirection.socket redirection.timestamp redirection.actual

/-- The connection that a redirection would move, as it is before the move. -/
def mover? (redirection : Redirection) (tracker : Tracker) : Option Connection :=
  tracker.movable? redirection.socket redirection.timestamp redirection.actual

/-- A redirection would take a connection away from a pair. -/
def leaves (redirection : Redirection) (tracker : Tracker) (pair : Pair) : Bool :=
  (redirection.mover? tracker).any fun connection => connection.pair = pair

/-- A redirection would bring a connection to a pair. -/
def reaches (redirection : Redirection) (tracker : Tracker) (pair : Pair) : Bool :=
  (redirection.mover? tracker).any fun connection => (⟨connection.source, redirection.actual⟩ : Pair) = pair

end Redirection

/-- Redirections one after the other; told are those that have moved a connection. -/
def redirectAll (tracker : Tracker) : List Redirection → List Redirection × Tracker
  | [] => ([], tracker)
  | first :: rest =>
    let (moved, next) := tracker.redirect first.socket first.timestamp first.actual
    let (others, last) := next.redirectAll rest
    (if moved then first :: others else others, last)

variable {tracker next : Tracker} {redirection other : Redirection} {redirections : List Redirection}

/-! ### One redirection -/

theorem redirectAll_cons (tracker : Tracker) (first : Redirection) (rest : List Redirection) :
    tracker.redirectAll (first :: rest) =
      (if (first.mover? tracker).isSome then first :: ((tracker.perform first.act).redirectAll rest).1
        else ((tracker.perform first.act).redirectAll rest).1,
        ((tracker.perform first.act).redirectAll rest).2) := by
  have moved : (tracker.redirect first.socket first.timestamp first.actual).1 = (first.mover? tracker).isSome := by
    rcases redirect_cases tracker first.socket first.timestamp first.actual with
      ⟨connection, found, timely, elsewhere⟩ | ⟨nothing, still⟩
    · rw [redirect_eq_of_moves found timely elsewhere]
      simp [Redirection.mover?, movable?, found, Option.filter, timely, elsewhere]
    · rw [still, Redirection.mover?, nothing]
      rfl
  rw [← moved]
  rfl

theorem mover?_eq_some_iff {connection : Connection} :
    redirection.mover? tracker = some connection ↔
      tracker.held.get? redirection.socket = some connection ∧
        connection.timestamp = redirection.timestamp ∧ connection.actual ≠ redirection.actual := by
  simp [Redirection.mover?, movable?, Option.filter_eq_some_iff]

theorem mover?_perform (apart : other.socket ≠ redirection.socket) :
    other.mover? (tracker.perform redirection.act) = other.mover? tracker := by
  unfold Redirection.mover? movable?
  rw [Redirection.act, perform, held_redirect_of_ne apart]

theorem leaves_perform (apart : other.socket ≠ redirection.socket) :
    other.leaves (tracker.perform redirection.act) = other.leaves tracker := by
  funext pair
  rw [Redirection.leaves, Redirection.leaves, mover?_perform apart]

theorem reaches_perform (apart : other.socket ≠ redirection.socket) :
    other.reaches (tracker.perform redirection.act) = other.reaches tracker := by
  funext pair
  rw [Redirection.reaches, Redirection.reaches, mover?_perform apart]

theorem held_of_mover? {connection : Connection} (moves : redirection.mover? tracker = some connection) :
    (tracker.perform redirection.act).held.get? redirection.socket =
      some { connection with actual := redirection.actual } := by
  obtain ⟨found, timely, elsewhere⟩ := mover?_eq_some_iff.1 moves
  rw [Redirection.act, perform, redirect_eq_of_moves found timely elsewhere, Table.get?_insert_self]

theorem perform_of_mover?_eq_none (stays : redirection.mover? tracker = none) :
    tracker.perform redirection.act = tracker := by
  rcases redirect_cases tracker redirection.socket redirection.timestamp redirection.actual with
    ⟨connection, found, timely, elsewhere⟩ | ⟨-, still⟩
  · rw [mover?_eq_some_iff.2 ⟨found, timely, elsewhere⟩] at stays
    cases stays
  · rw [Redirection.act, perform, still]

/-- A redirection moves one opening from the counter of a pair to that of another. -/
theorem successful_redirected (covers : ∀ pair, tracker.Covers pair) (redirection : Redirection) (pair : Pair) :
    (tracker.perform redirection.act).successful.getD pair 0 + (redirection.leaves tracker pair).toNat =
      tracker.successful.getD pair 0 + (redirection.reaches tracker pair).toNat := by
  cases moves : redirection.mover? tracker with
  | none => simp [perform_of_mover?_eq_none moves, Redirection.leaves, Redirection.reaches, moves]
  | some connection =>
    obtain ⟨found, timely, elsewhere⟩ := mover?_eq_some_iff.1 moves
    have counted := counted_of_held (covers connection.pair) found
    simp only [Redirection.leaves, Redirection.reaches, moves, Option.any_some]
    rw [Redirection.act, perform, redirect_eq_of_moves found timely elsewhere, getD_countUp, getD_countDown]
    simp only [eq_comm (a := pair)]
    by_cases left : connection.pair = pair
    · subst left
      by_cases reached : (⟨connection.source, redirection.actual⟩ : Pair) = connection.pair
      · simp [reached]
        omega
      · simp [reached]
        omega
    · by_cases reached : (⟨connection.source, redirection.actual⟩ : Pair) = pair
      · simp [left, reached]
      · simp [left, reached]

/-! ### Redirections of different sockets -/

/-- What redirections of different sockets lead to, by what each of them finds at the start. -/
structure Settled (tracker : Tracker) (redirections : List Redirection) (next : Tracker) : Prop where
  moved : ∀ {redirection connection}, redirection ∈ redirections → redirection.mover? tracker = some connection →
    next.held.get? redirection.socket = some { connection with actual := redirection.actual }
  unmoved : ∀ {socket}, (∀ redirection ∈ redirections, redirection.socket = socket →
    redirection.mover? tracker = none) → next.held.get? socket = tracker.held.get? socket
  counted : ∀ pair, next.successful.getD pair 0 + redirections.countP (·.leaves tracker pair) =
    tracker.successful.getD pair 0 + redirections.countP (·.reaches tracker pair)

theorem Settled.of_perm {others : List Redirection} (settled : tracker.Settled redirections next)
    (reordered : redirections.Perm others) : tracker.Settled others next where
  moved member moves := settled.moved (reordered.mem_iff.2 member) moves
  unmoved none := settled.unmoved fun redirection member => none redirection (reordered.mem_iff.1 member)
  counted pair := by
    rw [← reordered.countP_eq, ← reordered.countP_eq]
    exact settled.counted pair

theorem Settled.held_unique {last : Tracker} (settled : tracker.Settled redirections next)
    (again : tracker.Settled redirections last) (socket : Socket) :
    next.held.get? socket = last.held.get? socket := by
  by_cases moves : ∃ redirection ∈ redirections, redirection.socket = socket ∧
      ∃ connection, redirection.mover? tracker = some connection
  · obtain ⟨redirection, member, rfl, connection, moves⟩ := moves
    rw [settled.moved member moves, again.moved member moves]
  · have stays : ∀ redirection ∈ redirections, redirection.socket = socket →
        redirection.mover? tracker = none := by
      intro redirection member here
      rw [Option.eq_none_iff_forall_ne_some]
      intro connection found
      exact moves ⟨redirection, member, here, connection, found⟩
    rw [settled.unmoved stays, again.unmoved stays]

theorem Settled.counted_unique {last : Tracker} (settled : tracker.Settled redirections next)
    (again : tracker.Settled redirections last) (pair : Pair) :
    next.successful.getD pair 0 = last.successful.getD pair 0 := by
  have first := settled.counted pair
  have second := again.counted pair
  omega

theorem ne_of_apart {first : Redirection} {rest : List Redirection}
    (fresh : first.socket ∉ rest.map (·.socket)) : ∀ other ∈ rest, other.socket ≠ first.socket :=
  fun other member same => fresh (List.mem_map.2 ⟨other, member, same⟩)

theorem settled_redirectAll (kept : tracker.WellKept) (covers : ∀ pair, tracker.Covers pair)
    (apart : (redirections.map (·.socket)).Nodup) :
    tracker.Settled redirections (tracker.redirectAll redirections).2 := by
  induction redirections generalizing tracker with
  | nil => exact ⟨fun member => absurd member List.not_mem_nil, fun _ => rfl, fun _ => rfl⟩
  | cons first rest ih =>
    rw [List.map_cons, List.nodup_cons] at apart
    have others := ne_of_apart apart.1
    have later := ih (wellKept_perform kept first.act)
      (fun pair => covers_perform kept (covers pair) fun _ _ purges => Act.noConfusion purges) apart.2
    rw [redirectAll_cons]
    constructor
    · intro redirection connection member moves
      rcases List.mem_cons.1 member with rfl | member
      · rw [later.unmoved fun other listed same => absurd same (others other listed)]
        exact held_of_mover? moves
      · exact later.moved member ((mover?_perform (others redirection member)).trans moves)
    · intro socket none
      rw [later.unmoved fun other listed here =>
        (mover?_perform (others other listed)).trans (none other (List.mem_cons_of_mem first listed) here)]
      by_cases own : first.socket = socket
      · rw [perform_of_mover?_eq_none (none first List.mem_cons_self own)]
      · exact held_redirect_of_ne (Ne.symm own) _ _
    · intro pair
      have step := successful_redirected covers first pair
      have rest_counted := later.counted pair
      have leaving : rest.countP (·.leaves (tracker.perform first.act) pair) = rest.countP (·.leaves tracker pair) :=
        List.countP_congr fun other listed => by rw [leaves_perform (others other listed)]
      have reaching : rest.countP (·.reaches (tracker.perform first.act) pair) =
          rest.countP (·.reaches tracker pair) :=
        List.countP_congr fun other listed => by rw [reaches_perform (others other listed)]
      rw [leaving, reaching] at rest_counted
      rw [List.countP_cons, List.countP_cons]
      have once (moves : Bool) : moves.toNat = if moves then 1 else 0 := by cases moves <;> rfl
      simp only [once] at step ⊢
      omega

theorem fst_redirectAll (apart : (redirections.map (·.socket)).Nodup) :
    (tracker.redirectAll redirections).1 =
      redirections.filter fun redirection => (redirection.mover? tracker).isSome := by
  induction redirections generalizing tracker with
  | nil => rfl
  | cons first rest ih =>
    rw [List.map_cons, List.nodup_cons] at apart
    have others := ne_of_apart apart.1
    have same : rest.filter (fun other => (other.mover? (tracker.perform first.act)).isSome) =
        rest.filter fun other => (other.mover? tracker).isSome :=
      List.filter_congr fun other listed => by rw [mover?_perform (others other listed)]
    rw [redirectAll_cons, ih apart.2, same, List.filter_cons]

/-! ### What redirections leave alone -/

theorem redirectAll_eq (tracker : Tracker) (redirections : List Redirection) :
    ∃ held active successful, (tracker.redirectAll redirections).2 =
      { tracker with held := held, active := active, successful := successful } := by
  induction redirections generalizing tracker with
  | nil => exact ⟨_, _, _, rfl⟩
  | cons first rest ih =>
    obtain ⟨held, active, successful, same⟩ := ih (tracker.perform first.act)
    refine ⟨held, active, successful, ?_⟩
    rw [redirectAll_cons, same]
    rcases redirect_cases tracker first.socket first.timestamp first.actual with
      ⟨connection, found, timely, elsewhere⟩ | ⟨-, still⟩
    · rw [Redirection.act, perform, redirect_eq_of_moves found timely elsewhere]
    · rw [Redirection.act, perform, still]

theorem after_redirectAll (acts : List Act) (redirections : List Redirection) :
    ((after acts).redirectAll redirections).2 = after (acts ++ redirections.map (·.act)) := by
  induction redirections generalizing acts with
  | nil => rw [List.map_nil, List.append_nil]; rfl
  | cons first rest ih =>
    rw [redirectAll_cons, ← after_snoc, ih, List.map_cons, List.append_assoc, List.singleton_append]

/-- In whatever order redirections of different sockets come, as long as nothing was purged before, the
sockets hold the same connections, the same openings are counted, the same redirections move a connection,
and the same is shown. -/
theorem redirections_commute (acts : List Act) (unpurged : ∀ now ttl, .purge now ttl ∉ acts)
    {redirections others : List Redirection} (reordered : redirections.Perm others)
    (apart : (redirections.map (·.socket)).Nodup) :
    let one := (after acts).redirectAll redirections
    let other := (after acts).redirectAll others
    (∀ socket, one.2.held.get? socket = other.2.held.get? socket) ∧
      (∀ pair, one.2.successful.get? pair = other.2.successful.get? pair) ∧
      one.1.Perm other.1 ∧ Summary.ofTracker one.2 = Summary.ofTracker other.2 := by
  intro one other
  have kept := wellKept_after acts
  have covers := covers_after unpurged
  have apart_others : (others.map (·.socket)).Nodup := (reordered.map _).nodup_iff.1 apart
  have first := (settled_redirectAll kept covers apart).of_perm reordered
  have second := settled_redirectAll kept covers apart_others
  have held : ∀ socket, one.2.held.get? socket = other.2.held.get? socket := first.held_unique second
  have successful : ∀ pair, one.2.successful.get? pair = other.2.successful.get? pair := by
    intro pair
    have positive (redirections : List Redirection) :
        Positive ((after acts).redirectAll redirections).2.successful := by
      rw [after_redirectAll]
      exact positive_after _
    exact get?_eq_of_positive (positive redirections) (positive others) (first.counted_unique second pair)
  refine ⟨held, successful, ?_, ?_⟩
  · simp only [one, other]
    rw [fst_redirectAll apart, fst_redirectAll apart_others]
    exact reordered.filter _
  · obtain ⟨_, _, _, shown⟩ := redirectAll_eq (after acts) redirections
    obtain ⟨_, _, _, shown_others⟩ := redirectAll_eq (after acts) others
    apply Summary.ofTracker_congr (Table.entries_perm held) (Table.entries_perm successful) <;>
      simp only [one, other] <;> rw [shown, shown_others]

/-- Three connections from one source, two of them to the same service. -/
def toTwoServices : List Act :=
  [.opened ⟨.v4 0x0A000002 40000, .v4 0x0A600001 80, .v4 0x0A600001 80, 7, 3, 100⟩ 1000,
    .opened ⟨.v4 0x0A000002 40000, .v4 0x0A600001 80, .v4 0x0A600001 80, 7, 4, 200⟩ 1000,
    .opened ⟨.v4 0x0A000002 40000, .v4 0x0A600002 80, .v4 0x0A600002 80, 7, 5, 300⟩ 1000]

/-- The first goes to where the third is, and the other two go to one place. -/
def chained : List Redirection :=
  [⟨⟨7, 3⟩, 100, .v4 0x0A600002 80⟩, ⟨⟨7, 4⟩, 200, .v4 0x0A000009 8080⟩, ⟨⟨7, 5⟩, 300, .v4 0x0A000009 8080⟩]

theorem chained_redirections :
    let one := (after toTwoServices).redirectAll chained
    let other := (after toTwoServices).redirectAll chained.reverse
    one.1 = chained ∧ one.2.held.get? ⟨7, 3⟩ = other.2.held.get? ⟨7, 3⟩ ∧
      (∀ pair, one.2.successful.get? pair = other.2.successful.get? pair) ∧ one.1.Perm other.1 ∧
      Summary.ofTracker one.2 = Summary.ofTracker other.2 := by
  have commute := redirections_commute toTwoServices (by simp [toTwoServices])
    (List.reverse_perm chained).symm (by decide)
  exact ⟨by decide, commute.1 _, commute.2.1, commute.2.2.1, commute.2.2.2⟩

end Attribution.Tracker
