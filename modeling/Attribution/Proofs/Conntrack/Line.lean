import Attribution.Conntrack
import Attribution.Proofs.Text.Pieces

/-!
What a line of the table of connections tells.

A line is read word by word, and the values of four fields are collected in passing.  Main statement: a
line tells of a connection exactly if every value of the four fields on it can be read and each field
is there twice; then the first values are the one direction and the second values the other, whatever
stands between them.
-/

namespace Attribution

namespace Conntrack

def fieldNames : List String :=
  ["src", "dst", "sport", "dport"]

def valuesIn (name : String) (words : List (List Char)) : List (List Char) :=
  words.filterMap (Text.strip (name.toList ++ ['=']))

/-- The values that a line gives to a field, in their order. -/
def valuesOf (name : String) (line : List Char) : List (List Char) :=
  valuesIn name (Text.wordsWhen Text.isBlank line)

/-- All values of a field on a line can be read, and these are the first two of them. -/
def Gives {α : Type} (read : List Char → Option α) (name : String) (line : List Char)
    (first second : α) : Prop :=
  ∃ others, (valuesOf name line).mapM read = some (first :: second :: others)

/-- A line tells of a connection by the first two values of each field. -/
def Tells (line : List Char) (tracked : Tracked) : Prop :=
  ∃ source replySource destination replyDestination port replyPort toPort replyToPort,
    Gives Ip.parse? "src" line source replySource ∧
    Gives Ip.parse? "dst" line destination replyDestination ∧
    Gives Text.readUInt16? "sport" line port replyPort ∧
    Gives Text.readUInt16? "dport" line toPort replyToPort ∧
    tracked = ⟨⟨source.address port, destination.address toPort⟩,
      ⟨replySource.address replyPort, replyDestination.address replyToPort⟩⟩

/-! ### One field -/

section Collects

variable {α : Type} {read : List Char → Option α} {name : String} {word : List Char} {words : List (List Char)}
  {before after : List α}

/-- Words add their values of a field to those that were there. -/
def Collects (read : List Char → Option α) (name : String) (words : List (List Char))
    (before after : List α) : Prop :=
  ∃ values, (valuesIn name words).mapM read = some values ∧ after = before ++ values

theorem collects_nil : Collects read name [] before after ↔ after = before := by
  simp [Collects, valuesIn]

theorem collects_start : Collects read name words [] after ↔ (valuesIn name words).mapM read = some after := by
  simp [Collects]

theorem collects_silent (silent : Text.strip (name.toList ++ ['=']) word = none) :
    Collects read name (word :: words) before after ↔ Collects read name words before after := by
  simp [Collects, valuesIn, silent]

theorem collects_own (value : List Char) :
    Collects read name ((name.toList ++ '=' :: value) :: words) before after ↔
      ∃ a, read value = some a ∧ Collects read name words (before ++ [a]) after := by
  have own : Text.strip (name.toList ++ ['=']) (name.toList ++ '=' :: value) = some value :=
    Text.strip_eq_some_iff.2 (by simp)
  have values : valuesIn name ((name.toList ++ '=' :: value) :: words) = value :: valuesIn name words := by
    simp [valuesIn, own]
  simp only [Collects, values, List.mapM_cons]
  cases parsed : read value <;> cases rest : (valuesIn name words).mapM read <;> simp

theorem not_mem_fieldName : ∀ name ∈ fieldNames, '=' ∉ name.toList := by
  decide

theorem collects_other {other : String} (asked : name ∈ fieldNames) (named : other ∈ fieldNames)
    (different : name ≠ other) (value : List Char) :
    Collects read name ((other.toList ++ '=' :: value) :: words) before after ↔
      Collects read name words before after := by
  refine collects_silent (Option.eq_none_iff_forall_ne_some.2 fun found own => different ?_)
  have spelled : name.toList ++ '=' :: found = other.toList ++ '=' :: value := by
    simpa using (Text.strip_eq_some_iff.1 own).symm
  have parts := Text.cut_append (not_mem_fieldName name asked) found
  rw [spelled, Text.cut_append (not_mem_fieldName other named)] at parts
  simp only [Option.some.injEq, Prod.mk.injEq, String.toList_inj] at parts
  exact parts.1.symm

end Collects

/-! ### All fields -/

/-- What words add to the fields. -/
def Adds (words : List (List Char)) (fields next : Fields) : Prop :=
  Collects Ip.parse? "src" words fields.sources next.sources ∧
    Collects Ip.parse? "dst" words fields.destinations next.destinations ∧
    Collects Text.readUInt16? "sport" words fields.sourcePorts next.sourcePorts ∧
    Collects Text.readUInt16? "dport" words fields.destinationPorts next.destinationPorts

/-- A word without a value of a field. -/
def Silent (word : List Char) : Prop :=
  ∀ name ∈ fieldNames, Text.strip (name.toList ++ ['=']) word = none

theorem word_cases (word : List Char) :
    Silent word ∨ ∃ name ∈ fieldNames, ∃ value, word = name.toList ++ '=' :: value := by
  by_cases silent : Silent word
  · exact .inl silent
  · simp only [Silent, not_forall] at silent
    obtain ⟨name, listed, own⟩ := silent
    obtain ⟨value, found⟩ := Option.ne_none_iff_exists'.1 own
    exact .inr ⟨name, listed, value, by simpa using Text.strip_eq_some_iff.1 found⟩

theorem add_of_silent {word : List Char} (silent : Silent word) (fields : Fields) :
    fields.add word = some fields := by
  unfold Fields.add
  cases parts : Text.cut '=' word with
  | none => rfl
  | some pair =>
    obtain ⟨found, value⟩ := pair
    have unnamed : ∀ name ∈ fieldNames, found ≠ name.toList := by
      rintro name listed rfl
      have own : Text.strip (name.toList ++ ['=']) word = some value :=
        Text.strip_eq_some_iff.2 (by simp [Text.eq_of_cut parts])
      rw [silent name listed] at own
      cases own
    simp only [fieldNames, List.forall_mem_cons] at unnamed
    obtain ⟨src, dst, sport, dport, -⟩ := unnamed
    simp only [if_neg src, if_neg dst, if_neg sport, if_neg dport]

/-- Reading the words one after the other collects the values of each field by itself. -/
theorem foldlM_add_iff {words : List (List Char)} {fields next : Fields} :
    words.foldlM Fields.add fields = some next ↔ Adds words fields next := by
  induction words generalizing fields with
  | nil =>
    obtain ⟨sources, destinations, sourcePorts, destinationPorts⟩ := next
    simp only [List.foldlM_nil, Adds, collects_nil]
    cases fields
    simp [eq_comm]
  | cons word words ih =>
    rw [List.foldlM_cons]
    rcases word_cases word with silent | ⟨name, listed, value, rfl⟩
    · rw [add_of_silent silent]
      simp only [Silent, fieldNames, List.forall_mem_cons] at silent
      obtain ⟨src, dst, sport, dport, -⟩ := silent
      simp only [Option.bind_eq_bind, Option.bind_some, ih, Adds, collects_silent src, collects_silent dst,
        collects_silent sport, collects_silent dport]
    · -- a word of one field adds its value there, and the other three fields pass it over
      have parts := Text.cut_append (not_mem_fieldName name listed) value
      simp only [fieldNames, List.mem_cons, List.not_mem_nil, or_false] at listed
      rcases listed with rfl | rfl | rfl | rfl <;> rw [Fields.add, parts] <;>
        simp (disch := decide) only [Adds, collects_own, collects_other]
      case inl | inr.inl => cases read : Ip.parse? value <;> simp [ih, Adds]
      case inr.inr.inl | inr.inr.inr => cases read : Text.readUInt16? value <;> simp [ih, Adds]

theorem tracked?_eq_some_iff {line : List Char} {tracked : Tracked} :
    tracked? line = some tracked ↔ Tells line tracked := by
  simp only [tracked?, Option.bind_eq_bind, Option.bind_eq_some_iff, foldlM_add_iff, Adds, collects_start]
  constructor
  · rintro ⟨fields, ⟨src, dst, sport, dport⟩, whole⟩
    unfold Fields.tracked? at whole
    split at whole
    next => cases whole; exact ⟨_, _, _, _, _, _, _, _, ⟨_, src⟩, ⟨_, dst⟩, ⟨_, sport⟩, ⟨_, dport⟩, rfl⟩
    next => cases whole
  · rintro ⟨_, _, _, _, _, _, _, _, ⟨_, src⟩, ⟨_, dst⟩, ⟨_, sport⟩, ⟨_, dport⟩, rfl⟩
    exact ⟨⟨_, _, _, _⟩, ⟨src, dst, sport, dport⟩, rfl⟩

end Conntrack

end Attribution
