import Attribution.Proofs.Conntrack.Lookup

/-!
Questions asked together and questions asked alone.

A question asked alone is answered from the lines before the first that is no text.  Main statement:
asked together, the questions get these same answers, except where such a line comes after the answer
about one flow and before any about another; then none of them is answered.
-/

namespace Attribution.Conntrack

variable {tree : Files.Tree} {path : Path} {content : Bytes}

/-- The texts are those of the lines before the first that is no text. -/
def BreaksAfter (lines : List Bytes) (texts : List String) : Prop :=
  ∃ before line after, lines = before ++ line :: after ∧ before.mapM Text.ofUtf8? = some texts ∧
    Text.ofUtf8? line = none

/-- The lines before the first that is no text tell of some of the flows, but not of all. -/
def Divides (lines : List Bytes) (flows : List Flow) : Prop :=
  ∃ texts, BreaksAfter lines texts ∧ (∃ flow ∈ flows, ∃ address, Answers texts flow (some address)) ∧
    ∃ flow ∈ flows, Answers texts flow none

theorem breaksAfter_legible {lines : List Bytes} (broken : Broken lines) :
    BreaksAfter lines (legible lines) := by
  induction lines with
  | nil => exact absurd broken not_broken_nil
  | cons line rest ih =>
    cases reads : Text.ofUtf8? line with
    | none => exact ⟨[], line, rest, rfl, by simp [legible, reads], reads⟩
    | some text =>
      obtain ⟨before, damaged, after, place, readable, unreadable⟩ := ih ((broken_cons reads rest).1 broken)
      rw [legible_cons reads, place]
      exact ⟨line :: before, damaged, after, rfl, by simp [reads, readable, place], unreadable⟩

theorem breaksAfter_iff {lines : List Bytes} {texts : List String} :
    BreaksAfter lines texts ↔ Broken lines ∧ texts = legible lines := by
  constructor
  · rintro ⟨before, line, after, rfl, readable, damaged⟩
    obtain ⟨broken, front⟩ := legible_append readable (line :: after)
    exact ⟨broken.2 ⟨line, List.mem_cons_self, damaged⟩, by simp [front, legible, damaged]⟩
  · rintro ⟨broken, rfl⟩
    exact breaksAfter_legible broken

theorem divides_iff {lines : List Bytes} {flows : List Flow} :
    Divides lines flows ↔
      Broken lines ∧ (∃ flow ∈ flows, answer? flow (legible lines) ≠ none) ∧
        ∃ flow ∈ flows, answer? flow (legible lines) = none := by
  simp only [Divides, breaksAfter_iff, answers_iff, Option.ne_none_iff_exists']
  constructor
  · rintro ⟨texts, ⟨broken, rfl⟩, divided⟩
    exact ⟨broken, divided⟩
  · rintro ⟨broken, divided⟩
    exact ⟨_, ⟨broken, rfl⟩, divided⟩

theorem single_eq_answer (readable : tree.read path = .ok content) (flow : Flow) :
    single (ofTable tree path) flow = answer? flow (legible (tableLines content)) := by
  rw [single, ofTable_eq_answersIn readable]
  by_cases spoiled : Broken (tableLines content) ∧
      ∃ asked ∈ [flow], answer? asked (legible (tableLines content)) = none
  · rw [answersIn_eq_none spoiled]
    obtain ⟨-, asked, same, unanswered⟩ := spoiled
    rw [List.mem_singleton.1 same] at unanswered
    rw [unanswered]; rfl
  · rw [answersIn_eq_answers spoiled]; rfl

theorem oneByOne_eq_answers (readable : tree.read path = .ok content) (flows : List Flow) :
    oneByOne (ofTable tree path) flows =
      flows.map fun flow => answer? flow (legible (tableLines content)) :=
  List.map_congr_left fun flow _ => single_eq_answer readable flow

/-- Questions asked together get the answers they get alone, except where a line that is no text divides
them; then they are all left without an answer. -/
theorem together_eq_alone_iff (readable : tree.read path = .ok content) (flows : List Flow) :
    (ofTable tree path flows = oneByOne (ofTable tree path) flows ↔ ¬ Divides (tableLines content) flows) ∧
      (Divides (tableLines content) flows → ofTable tree path flows = flows.map fun _ => none) := by
  rw [oneByOne_eq_answers readable, ofTable_eq_answersIn readable, divides_iff]
  by_cases spoiled : Broken (tableLines content) ∧
      ∃ flow ∈ flows, answer? flow (legible (tableLines content)) = none
  · rw [answersIn_eq_none spoiled, List.map_inj_left]
    obtain ⟨broken, unanswered⟩ := spoiled
    have none_answered : (∀ flow ∈ flows, none = answer? flow (legible (tableLines content))) ↔
        ¬ ∃ flow ∈ flows, answer? flow (legible (tableLines content)) ≠ none := by
      simp [eq_comm]
    rw [none_answered]
    exact ⟨⟨fun none_answered divided => none_answered divided.2.1,
      fun undivided answered => undivided ⟨broken, answered, unanswered⟩⟩, fun _ => rfl⟩
  · rw [answersIn_eq_answers spoiled]
    exact ⟨⟨fun _ divided => spoiled ⟨divided.1, divided.2.2⟩, fun _ => rfl⟩,
      fun divided => absurd ⟨divided.1, divided.2.2⟩ spoiled⟩

/-- A line about the service, and then a line that is no text. -/
def damagedTable : Bytes :=
  contentOfLines [serviceLine] ++ [0xFF, 0x0A]

def mixedFlows : List Flow :=
  [serviceFlow, ⟨serviceFlow.destination, serviceFlow.source⟩]

theorem damaged_together :
    ofTable (tableFile damagedTable) "/table" mixedFlows = [none, none] := by
  rw [ofTable_eq_answersIn (read_tableFile _)]
  decide +kernel

theorem damaged_alone :
    oneByOne (ofTable (tableFile damagedTable) "/table") mixedFlows = [some (.v4 0x0A000009 8080), none] := by
  simp only [oneByOne, mixedFlows, List.map_cons, List.map_nil, single, ofTable_eq_answersIn (read_tableFile _)]
  decide +kernel

theorem unknown_flow_divides : Divides (tableLines damagedTable) mixedFlows := by
  have agree := (together_eq_alone_iff (read_tableFile damagedTable) mixedFlows).1
  rw [damaged_together, damaged_alone] at agree
  by_contra undivided
  exact absurd (agree.2 undivided) (by decide)

theorem not_always_agreeing :
    ¬ ∀ (tree : Files.Tree) (path : Path) (content : Bytes), tree.read path = .ok content →
      ∀ flows, ofTable tree path flows = oneByOne (ofTable tree path) flows := by
  intro agree
  have agree := agree _ _ _ (read_tableFile damagedTable) mixedFlows
  rw [damaged_together, damaged_alone] at agree
  exact absurd agree (by decide)

end Attribution.Conntrack
