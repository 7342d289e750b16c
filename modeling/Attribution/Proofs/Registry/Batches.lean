import Attribution.Proofs.Conntrack.Lookup
import Attribution.Registry.Nat

/-!
Where one batch of requests ends and the next begins.

A batch asks for all destinations before any connection moves, and then the requests act one after the
other on the trackers.  Main statement: if every question gets the answer that it gets alone, a queue can
be cut into batches anywhere, with the same trackers and the same number of moves in the end.
-/

namespace Attribution

/-- Questions asked together are each answered as some function of the flow says. -/
def Conntrack.AnswersEach (conntrack : Conntrack) (answer : Flow → Option Address) : Prop :=
  ∀ flows, conntrack flows = flows.map answer

namespace Conntrack

theorem ofTable_answersEach {tree : Files.Tree} {path : Path} {content : Bytes} {texts : List String}
    (readable : tree.read path = .ok content) (whole : (tableLines content).mapM Text.ofUtf8? = some texts) :
    (ofTable tree path).AnswersEach (answer? · texts) := by
  obtain ⟨unbroken, rfl⟩ := legible_of_texts whole
  intro flows
  rw [ofTable_eq_answersIn readable, answersIn_eq_answers fun spoiled => unbroken spoiled.1]

end Conntrack

namespace Registry

variable {conntrack : Conntrack} {answer : Flow → Option Address}

/-- Answers batch after batch, and adds up how many connections move. -/
def resolveBatches (conntrack : Conntrack) (registry : Registry) : List (List NatRequest) → Registry × Nat
  | [] => (registry, 0)
  | batch :: rest =>
    let (registry, moved) := registry.resolveBatch conntrack batch
    let (registry, more) := registry.resolveBatches conntrack rest
    (registry, moved + more)

/-! ### One batch and another -/

theorem applyAnswers_cons (registry : Registry) (request : NatRequest) (given : Option Address)
    (rest : List (NatRequest × Option Address)) :
    registry.applyAnswers ((request, given) :: rest) =
      (((registry.applyAnswer request given).1.applyAnswers rest).1,
        (registry.applyAnswer request given).2.toNat +
          ((registry.applyAnswer request given).1.applyAnswers rest).2) := by
  cases applied : registry.applyAnswer request given with
  | mk next moved => cases moved <;> simp [applyAnswers, applied, Nat.add_comm]

theorem applyAnswers_append (registry : Registry) (first second : List (NatRequest × Option Address)) :
    registry.applyAnswers (first ++ second) =
      (((registry.applyAnswers first).1.applyAnswers second).1,
        (registry.applyAnswers first).2 + ((registry.applyAnswers first).1.applyAnswers second).2) := by
  induction first generalizing registry with
  | nil => simp [applyAnswers]
  | cons entry rest ih =>
    obtain ⟨request, given⟩ := entry
    rw [List.cons_append, applyAnswers_cons, applyAnswers_cons, ih, Nat.add_assoc]

theorem resolveBatch_eq (each : conntrack.AnswersEach answer) (registry : Registry) (requests : List NatRequest) :
    registry.resolveBatch conntrack requests =
      registry.applyAnswers (requests.map fun request => (request, answer request.flow)) := by
  have answered : requests.zip ((requests.map (·.flow)).map answer) =
      requests.map fun request => (request, answer request.flow) := by
    rw [List.map_map, List.map_prod_left_eq_zip]
    rfl
  rw [resolveBatch, each, answered]

theorem resolveBatch_append (each : conntrack.AnswersEach answer) (registry : Registry)
    (first second : List NatRequest) :
    registry.resolveBatch conntrack (first ++ second) =
      (((registry.resolveBatch conntrack first).1.resolveBatch conntrack second).1,
        (registry.resolveBatch conntrack first).2 +
          ((registry.resolveBatch conntrack first).1.resolveBatch conntrack second).2) := by
  simp only [resolveBatch_eq each, List.map_append, applyAnswers_append]

/-! ### Any number of batches -/

theorem resolveBatches_cons (conntrack : Conntrack) (registry : Registry) (batch : List NatRequest)
    (rest : List (List NatRequest)) :
    registry.resolveBatches conntrack (batch :: rest) =
      (((registry.resolveBatch conntrack batch).1.resolveBatches conntrack rest).1,
        (registry.resolveBatch conntrack batch).2 +
          ((registry.resolveBatch conntrack batch).1.resolveBatches conntrack rest).2) :=
  rfl

theorem resolveBatches_eq (each : conntrack.AnswersEach answer) (registry : Registry)
    (batches : List (List NatRequest)) :
    registry.resolveBatches conntrack batches = registry.resolveBatch conntrack batches.flatten := by
  induction batches generalizing registry with
  | nil =>
    rw [List.flatten_nil, resolveBatch_eq each]
    rfl
  | cons batch rest ih => rw [resolveBatches_cons, ih, List.flatten_cons, resolveBatch_append each]

theorem flatten_batches {α : Type} {limit fuel : Nat} {items : List α} (some : 0 < limit)
    (enough : items.length ≤ fuel) : (batches limit fuel items).flatten = items := by
  induction fuel generalizing items with
  | zero =>
    rw [List.length_eq_zero_iff.1 (Nat.le_zero.1 enough)]
    rfl
  | succ fuel ih =>
    cases items with
    | nil => rfl
    | cons item rest =>
      have shorter : ((item :: rest).drop limit).length ≤ fuel := by
        rw [List.length_drop]
        rw [List.length_cons] at enough ⊢
        omega
      rw [batches, List.flatten_cons, ih shorter, List.take_append_drop]

theorem fst_resolveBatches (conntrack : Conntrack) (registry : Registry) (batches : List (List NatRequest)) :
    (registry.resolveBatches conntrack batches).1 =
      batches.foldl (fun registry requests => (registry.resolveBatch conntrack requests).1) registry := by
  induction batches generalizing registry with
  | nil => rfl
  | cons batch rest ih => exact ih _

/-- If every question is answered by itself, the end of a batch does not show: what is left of two batches
is what is left of both as one, and the moves add up.  So all ways to cut a queue into batches agree, with
each other and with the one in which the queue is drained. -/
theorem batch_ends_vanish (each : conntrack.AnswersEach answer) (registry : Registry) :
    (∀ first second,
        (registry.resolveBatch conntrack (first ++ second)).1 =
            ((registry.resolveBatch conntrack first).1.resolveBatch conntrack second).1 ∧
          (registry.resolveBatch conntrack (first ++ second)).2 =
            (registry.resolveBatch conntrack first).2 +
              ((registry.resolveBatch conntrack first).1.resolveBatch conntrack second).2) ∧
      (∀ batches, registry.resolveBatches conntrack batches = registry.resolveBatch conntrack batches.flatten) ∧
      registry.drain conntrack = (resolveBatch conntrack { registry with queue := [] } registry.queue).1 := by
  refine ⟨?_, resolveBatches_eq each registry, ?_⟩
  · intro first second
    rw [resolveBatch_append each]
    exact ⟨rfl, rfl⟩
  · have whole : (batches batchLimit registry.queue.length registry.queue).flatten = registry.queue :=
      flatten_batches (by decide) (Nat.le_refl _)
    rw [drain, ← fst_resolveBatches, resolveBatches_eq each, whole]

/-! ### A queue with a request that comes twice -/

/-- The kernel's table with the lines about a service. -/
def serviceTable : Conntrack :=
  .ofTable (Conntrack.tableFile (Conntrack.contentOfLines Conntrack.serviceLines)) "/table"

/-- Process 7 has connected to the service through two descriptors. -/
def connectedTwice : Registry :=
  (Registry.empty.create 7 ⟨"/system.slice/nginx.service"⟩
    ⟨"/system.slice/nginx.service", .v2, .systemd, "/system.slice/nginx.service", .empty⟩ none).track 0
      fun tracker => (tracker.opened ⟨.v4 0x0A000002 4000, .v4 0x0A600001 80, .v4 0x0A600001 80, 7, 3, 100⟩ 0).opened
        ⟨.v4 0x0A000002 4000, .v4 0x0A600001 80, .v4 0x0A600001 80, 7, 4, 200⟩ 0

def aboutService (fd timestamp : UInt64) : NatRequest :=
  ⟨0, ⟨7, fd⟩, timestamp, Conntrack.serviceFlow⟩

theorem service_requests_cut :
    serviceTable.AnswersEach (Conntrack.answer? · Conntrack.serviceLines) ∧
      connectedTwice.resolveBatches serviceTable
          [[aboutService 3 100], [aboutService 3 100, aboutService 4 200], [aboutService 5 300]] =
        connectedTwice.resolveBatch serviceTable
          [aboutService 3 100, aboutService 3 100, aboutService 4 200, aboutService 5 300] ∧
      (connectedTwice.resolveBatch serviceTable
          [aboutService 3 100, aboutService 3 100, aboutService 4 200, aboutService 5 300]).2 = 2 := by
  have whole : (Conntrack.tableLines (Conntrack.contentOfLines Conntrack.serviceLines)).mapM Text.ofUtf8? =
      some Conntrack.serviceLines := by
    decide +kernel
  have each : serviceTable.AnswersEach (Conntrack.answer? · Conntrack.serviceLines) :=
    Conntrack.ofTable_answersEach (Conntrack.read_tableFile _) whole
  refine ⟨each, (batch_ends_vanish each connectedTwice).2.1 _, ?_⟩
  rw [resolveBatch_eq each]
  decide +kernel

end Registry

end Attribution
