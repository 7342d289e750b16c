import Attribution.Proofs.Conntrack.Line
import Attribution.Proofs.Files.Finding

/-!
How the table of connections answers questions.

All questions share one pass over the lines, which forgets a flow once it is answered, stops when none
is left, and fails at a line that is no text.  Main statement: over lines that are all texts each
question gets its answer from the first line that tells of its flow, whatever else is asked.
-/

namespace Attribution.Conntrack

/-! ### Answers -/

/-- No text tells of a flow. -/
def Unheard (texts : List String) (flow : Flow) : Prop :=
  ∀ text ∈ texts, ∀ tracked, Tells text.toList tracked → tracked.forward ≠ flow

/-- The answer about a flow is the replying source on the first line that tells of it, if there is one. -/
inductive Answers (texts : List String) (flow : Flow) : Option Address → Prop
  | unheard (silent : Unheard texts flow) : Answers texts flow none
  | first {before after : List String} {text : String} {tracked : Tracked}
      (place : texts = before ++ text :: after) (silent : Unheard before flow)
      (tells : Tells text.toList tracked) (same : tracked.forward = flow) :
      Answers texts flow (some tracked.reply.source)

/-- The answer about a flow on one line. -/
def answerOn? (flow : Flow) (text : String) : Option Address :=
  (tracked? text.toList).bind fun tracked =>
    if tracked.forward = flow then some tracked.reply.source else none

/-- The answer about a flow on the first line that has one. -/
def answer? (flow : Flow) (texts : List String) : Option Address :=
  texts.findSome? (answerOn? flow)

theorem answerOn?_eq_some_iff {flow : Flow} {text : String} {address : Address} :
    answerOn? flow text = some address ↔
      ∃ tracked, Tells text.toList tracked ∧ tracked.forward = flow ∧ tracked.reply.source = address := by
  simp [answerOn?, Option.bind_eq_some_iff, tracked?_eq_some_iff]

theorem unheard_iff {texts : List String} {flow : Flow} :
    Unheard texts flow ↔ ∀ text ∈ texts, answerOn? flow text = none := by
  simp only [Unheard, Option.eq_none_iff_forall_ne_some, Ne, answerOn?_eq_some_iff]
  constructor
  · rintro silent text listed address ⟨tracked, tells, same, -⟩
    exact silent text listed tracked tells same
  · intro silent text listed tracked tells same
    exact silent text listed _ ⟨tracked, tells, same, rfl⟩

theorem answers_iff {texts : List String} {flow : Flow} {answer : Option Address} :
    Answers texts flow answer ↔ answer? flow texts = answer := by
  constructor
  · intro answers
    cases answers with
    | unheard silent => exact List.findSome?_eq_none_iff.2 (unheard_iff.1 silent)
    | first place silent tells same =>
      exact List.findSome?_eq_some_iff.2
        ⟨_, _, _, place, answerOn?_eq_some_iff.2 ⟨_, tells, same, rfl⟩, unheard_iff.1 silent⟩
  · intro found
    cases answer with
    | none => exact .unheard (unheard_iff.2 (List.findSome?_eq_none_iff.1 found))
    | some address =>
      obtain ⟨before, text, after, place, own, silent⟩ := List.findSome?_eq_some_iff.1 found
      obtain ⟨tracked, tells, same, rfl⟩ := answerOn?_eq_some_iff.1 own
      exact .first place (unheard_iff.2 silent) tells same

theorem answer?_cons_silent {text : String} (silent : tracked? text.toList = none) (flow : Flow)
    (texts : List String) : answer? flow (text :: texts) = answer? flow texts := by
  simp [answer?, answerOn?, silent]

theorem answer?_cons_telling {text : String} {tracked : Tracked} (told : tracked? text.toList = some tracked)
    (flow : Flow) (texts : List String) :
    answer? flow (text :: texts) =
      if tracked.forward = flow then some tracked.reply.source else answer? flow texts := by
  by_cases same : tracked.forward = flow <;> simp [answer?, answerOn?, told, same]

theorem unanswered_cons {text : String} {tracked : Tracked} (told : tracked? text.toList = some tracked)
    {flow : Flow} {texts : List String} :
    answer? flow (text :: texts) = none ↔ flow ≠ tracked.forward ∧ answer? flow texts = none := by
  rw [answer?_cons_telling told]
  by_cases same : tracked.forward = flow
  · simp [same]
  · simp [same, Ne.symm same]

/-! ### One pass over the lines -/

def Broken (lines : List Bytes) : Prop :=
  ∃ line ∈ lines, Text.ofUtf8? line = none

/-- The texts of the lines before the first that is no text. -/
def legible : List Bytes → List String
  | [] => []
  | line :: rest =>
    match Text.ofUtf8? line with
    | none => []
    | some text => text :: legible rest

theorem not_broken_nil : ¬ Broken [] := by
  simp [Broken]

theorem broken_cons {line : Bytes} {text : String} (reads : Text.ofUtf8? line = some text)
    (rest : List Bytes) : Broken (line :: rest) ↔ Broken rest := by
  simp [Broken, reads]

theorem legible_cons {line : Bytes} {text : String} (reads : Text.ofUtf8? line = some text)
    (rest : List Bytes) : legible (line :: rest) = text :: legible rest := by
  simp [legible, reads]

theorem legible_append {before : List Bytes} {texts : List String}
    (readable : before.mapM Text.ofUtf8? = some texts) (rest : List Bytes) :
    (Broken (before ++ rest) ↔ Broken rest) ∧ legible (before ++ rest) = texts ++ legible rest := by
  induction before generalizing texts with
  | nil => cases readable; exact ⟨.rfl, rfl⟩
  | cons line before ih =>
    simp only [List.mapM_cons, Option.bind_eq_bind, Option.bind_eq_some_iff] at readable
    obtain ⟨text, reads, others, later, same⟩ := readable
    cases same
    obtain ⟨broken, legible⟩ := ih later
    rw [List.cons_append, broken_cons reads, legible_cons reads, legible]
    exact ⟨broken, rfl⟩

theorem legible_of_texts {lines : List Bytes} {texts : List String}
    (whole : lines.mapM Text.ofUtf8? = some texts) : ¬ Broken lines ∧ legible lines = texts := by
  have front := legible_append whole []
  simpa [not_broken_nil, legible] using front

/-- A pass fails at a line that is no text, unless all questions are answered before it. -/
theorem scan_eq_none_iff {lines : List Bytes} {wanted : List Flow} {found : Table Flow Address} :
    scan lines wanted found = none ↔
      Broken lines ∧ ∃ flow ∈ wanted, answer? flow (legible lines) = none := by
  fun_induction scan lines wanted found with
  | case1 => simp
  | case2 => simp [not_broken_nil]
  | case3 line rest wanted found unanswered damaged =>
    obtain ⟨flow, wanted, rfl⟩ := List.exists_cons_of_ne_nil unanswered
    simp [Broken, legible, damaged, answer?]
  | case4 line rest wanted found unanswered text reads silent ih =>
    simp only [ih, broken_cons reads, legible_cons reads, answer?_cons_silent silent]
  | case5 line rest wanted found unanswered text reads tracked told asked ih =>
    -- the flow that is answered here is no longer among those that can be left over
    rw [ih, broken_cons reads, legible_cons reads]
    simp only [List.mem_filter, decide_eq_true_eq, unanswered_cons told, and_assoc]
  | case6 line rest wanted found unanswered text reads tracked told unasked ih =>
    rw [ih, broken_cons reads, legible_cons reads]
    refine and_congr_right' (exists_congr fun flow => and_congr_right fun listed => ?_)
    have other : flow ≠ tracked.forward := by
      rintro rfl
      exact unasked listed
    rw [unanswered_cons told, and_iff_right other]

theorem get?_of_scan {lines : List Bytes} {wanted : List Flow} {found answers : Table Flow Address}
    (done : scan lines wanted found = some answers) (flow : Flow) :
    answers.get? flow =
      if flow ∈ wanted then (answer? flow (legible lines)).or (found.get? flow) else found.get? flow := by
  fun_induction scan lines wanted found with
  | case1 => cases done; simp
  | case2 => cases done; simp [legible, answer?]
  | case3 => cases done
  | case4 line rest wanted found unanswered text reads silent ih =>
    rw [ih done, legible_cons reads, answer?_cons_silent silent]
  | case5 line rest wanted found unanswered text reads tracked told asked ih =>
    rw [ih done, legible_cons reads, answer?_cons_telling told, Table.get?_insert]
    by_cases same : flow = tracked.forward
    · subst same
      simp [asked]
    · simp [same, Ne.symm same]
  | case6 line rest wanted found unanswered text reads tracked told unasked ih =>
    rw [ih done, legible_cons reads, answer?_cons_telling told]
    by_cases same : flow = tracked.forward
    · subst same
      simp [unasked]
    · simp [Ne.symm same]

/-! ### Answers to questions asked together -/

variable {tree : Files.Tree} {path : Path} {content : Bytes} {texts : List String}

theorem answersIn_eq_answers {flows : List Flow}
    (through : ¬ (Broken (tableLines content) ∧
      ∃ flow ∈ flows, answer? flow (legible (tableLines content)) = none)) :
    answersIn content flows = flows.map fun flow => answer? flow (legible (tableLines content)) := by
  unfold answersIn
  cases done : scan (tableLines content) flows .empty with
  | none => exact absurd (scan_eq_none_iff.1 done) through
  | some answers =>
    refine List.map_congr_left fun flow asked => ?_
    rw [get?_of_scan done, if_pos asked, Table.get?_empty, Option.or_none]

theorem answersIn_eq_none {flows : List Flow}
    (spoiled : Broken (tableLines content) ∧
      ∃ flow ∈ flows, answer? flow (legible (tableLines content)) = none) :
    answersIn content flows = flows.map fun _ => none := by
  rw [answersIn, scan_eq_none_iff.2 spoiled]

theorem ofTable_eq_answersIn (readable : tree.read path = .ok content) (flows : List Flow) :
    ofTable tree path flows = answersIn content flows := by
  rw [ofTable, readable]

/-- On a table of texts the answers stand in the places of their questions, and each is the replying
source on the first line that tells of the flow. -/
theorem ofTable_answers (readable : tree.read path = .ok content)
    (whole : (tableLines content).mapM Text.ofUtf8? = some texts) (flows : List Flow) :
    (ofTable tree path flows).length = flows.length ∧
      ∀ (index : Nat) (flow : Flow), flows[index]? = some flow → ∀ answer : Option Address,
        (ofTable tree path flows)[index]? = some answer ↔ Answers texts flow answer := by
  obtain ⟨unbroken, rfl⟩ := legible_of_texts whole
  have answers : ofTable tree path flows =
      flows.map fun flow => answer? flow (legible (tableLines content)) := by
    rw [ofTable_eq_answersIn readable, answersIn_eq_answers fun spoiled => unbroken spoiled.1]
  rw [answers]
  refine ⟨List.length_map _, fun index flow asked answer => ?_⟩
  rw [List.getElem?_map, asked, Option.map_some, Option.some.injEq, answers_iff]

/-! ### A small table -/

def tableFile (content : Bytes) : Files.Tree :=
  ⟨.ofList [(["table"], .file content)]⟩

theorem read_tableFile (content : Bytes) : (tableFile content).read "/table" = .ok content := by
  have found : (tableFile content).find true "/table" = .ok (["table"], .file content) :=
    Files.Tree.find_names (by decide +kernel) (by simp) rfl (by simp)
  rw [Files.Tree.read, Files.Tree.openEntry, Files.Tree.stat, found]
  rfl

def contentOfLines (texts : List String) : Bytes :=
  texts.flatMap fun text => Text.utf8 text ++ [0x0A]

/-- A connection to a service that another address answers. -/
def serviceFlow : Flow :=
  ⟨.v4 0x0A000002 4000, .v4 0x0A600001 80⟩

def serviceLine : String :=
  "tcp src=10.0.0.2 dst=10.96.0.1 sport=4000 dport=80 src=10.0.0.9 dst=10.0.0.2 sport=8080 dport=4000"

/-- A line without ports and a line that comes too late stand around the line that counts. -/
def serviceLines : List String :=
  ["src=10.0.0.2 dst=10.96.0.1 src=10.0.0.7 dst=10.0.0.2", serviceLine,
    "src=10.0.0.2 dst=10.96.0.1 sport=4000 dport=80 src=10.0.0.8 dst=10.0.0.2 sport=8080 dport=4000"]

theorem service_answers :
    Answers serviceLines serviceFlow (some (.v4 0x0A000009 8080)) ∧
      Answers serviceLines ⟨serviceFlow.destination, serviceFlow.source⟩ none := by
  have whole : (tableLines (contentOfLines serviceLines)).mapM Text.ofUtf8? = some serviceLines := by
    decide +kernel
  have evaluated : ofTable (tableFile (contentOfLines serviceLines)) "/table"
      [⟨serviceFlow.destination, serviceFlow.source⟩, serviceFlow] =
      [none, some (.v4 0x0A000009 8080)] := by
    rw [ofTable_eq_answersIn (read_tableFile _)]
    decide +kernel
  obtain ⟨-, answers⟩ := ofTable_answers (read_tableFile _) whole
    [⟨serviceFlow.destination, serviceFlow.source⟩, serviceFlow]
  rw [evaluated] at answers
  exact ⟨(answers 1 _ rfl _).1 rfl, (answers 0 _ rfl _).1 rfl⟩

end Attribution.Conntrack
