import Attribution.Cgroup.Line
import Attribution.Proofs.Text.Pieces

/-!
A cgroup file that is written line by line is read back line by line.

Entries whose names and paths hold none of the marks that end a field come back as they were written,
colons in paths included, and blank lines between them say nothing.
-/

namespace Attribution.Cgroup

/-- The lines that are not blank can all be read. -/
def Legible (content : String) : Prop :=
  ∀ text ∈ writtenLines content, ∃ line, Line.parse text = .ok line

theorem legible_iff {content : String} :
    Legible content ↔ ∀ text ∈ writtenLines content, (Line.parse text).toOption.isSome = true := by
  apply forall₂_congr
  intro text _
  cases Line.parse text <;> simp [Except.toOption]

instance (content : String) : Decidable (Legible content) :=
  decidable_of_iff' _ legible_iff

/-- What texts say as far as they can be read. -/
def readAll (texts : List String) : List Line :=
  texts.filterMap fun text => (Line.parse text).toOption

def entriesOf (content : String) : List Line :=
  readAll (writtenLines content)

theorem readAll_cons {text : String} {line : Line} (read : Line.parse text = .ok line) (rest : List String) :
    readAll (text :: rest) = line :: readAll rest :=
  List.filterMap_cons_some (by rw [read]; rfl)

/-! ### One line -/

/-- Nothing in a line is taken for the end of a name, of a field, or of the line. -/
structure Line.Plain (line : Line) : Prop where
  named : ∀ name ∈ line.controllers, name ≠ ""
  unmarked : ∀ name ∈ line.controllers, ∀ mark ∈ [',', ':', '\n'], mark ∉ name.toList
  single : '\n' ∉ line.path.toList
  first : ∀ c ∈ line.path.toList.head?, Text.isBlank c = false
  last : ∀ c ∈ line.path.toList.getLast?, Text.isBlank c = false

namespace Line

variable {line : Line}

theorem plain_iff : line.Plain ↔
    (line.controllers.all (fun name => decide (name ≠ "") &&
        [',', ':', '\n'].all fun mark => !name.toList.contains mark) &&
      !line.path.toList.contains '\n' && line.path.toList.head?.all (!Text.isBlank ·) &&
      line.path.toList.getLast?.all (!Text.isBlank ·)) = true := by
  simp only [Bool.and_eq_true, List.all_eq_true, decide_eq_true_eq, Bool.not_eq_true', List.contains_eq_mem,
    decide_eq_false_iff_not, Option.all_eq_true]
  constructor
  · rintro ⟨named, unmarked, single, first, last⟩
    exact ⟨⟨⟨fun name listed => ⟨named name listed, unmarked name listed⟩, single⟩, first⟩, last⟩
  · rintro ⟨⟨⟨names, single⟩, first⟩, last⟩
    exact ⟨fun name listed => (names name listed).1, fun name listed => (names name listed).2,
      single, first, last⟩

instance (line : Line) : Decidable line.Plain :=
  decidable_of_iff' _ plain_iff

def list (line : Line) : List Char :=
  Text.joinWith ',' (line.controllers.map String.toList)

theorem render_eq (line : Line) : line.render.toList =
    Text.decimal line.hierarchy.toNat ++ ':' :: (line.list ++ ':' :: line.path.toList) :=
  String.toList_ofList

theorem not_mem_decimal {c : Char} (other : Text.isDigit c = false) (value : Nat) : c ∉ Text.decimal value := by
  intro member
  rw [Text.isDigit_of_mem_decimal member] at other
  cases other

theorem Plain.not_mem_list (plain : line.Plain) {mark : Char} (ends : mark ∈ [':', '\n']) : mark ∉ line.list := by
  intro member
  rcases Text.mem_joinWith member with rfl | ⟨piece, written, inside⟩
  · exact absurd ends (by decide)
  · obtain ⟨name, listed, rfl⟩ := List.mem_map.1 written
    exact plain.unmarked name listed mark (List.mem_cons_of_mem _ ends) inside

theorem Plain.controllersOf_list (plain : line.Plain) : controllersOf line.list = line.controllers := by
  unfold controllersOf list
  by_cases none : line.controllers = []
  · simp [none, Text.joinWith]
  · have pieces : line.controllers.map String.toList ≠ [] := by simpa using none
    have clean : ∀ piece ∈ line.controllers.map String.toList, ',' ∉ piece := by
      intro piece written
      obtain ⟨name, listed, rfl⟩ := List.mem_map.1 written
      exact plain.unmarked name listed ',' List.mem_cons_self
    have split := Text.splitOn_joinWith pieces clean
    have written : (Text.joinWith ',' (line.controllers.map String.toList)).isEmpty = false := by
      rw [List.isEmpty_eq_false_iff]
      intro void
      rw [void] at split
      -- A list without text would be one name without text.
      obtain ⟨name, rest, same⟩ := List.exists_cons_of_ne_nil none
      have nameless : name = "" := by
        simp only [same, List.map_cons, Text.splitOn, Text.splitWhen, List.cons.injEq] at split
        exact String.toList_eq_nil_iff.1 split.1.symm
      exact plain.named name (same ▸ List.mem_cons_self) nameless
    rw [written, split, List.map_map]
    simp [Function.comp_def]

theorem Plain.parse_render (plain : line.Plain) : parse line.render = .ok line := by
  have hierarchy : Text.cut ':' line.render.toList =
      some (Text.decimal line.hierarchy.toNat, line.list ++ ':' :: line.path.toList) := by
    rw [render_eq]
    exact Text.cut_append (not_mem_decimal (by decide) _) _
  have controllers : Text.cut ':' (line.list ++ ':' :: line.path.toList) = some (line.list, line.path.toList) :=
    Text.cut_append (plain.not_mem_list (by decide)) _
  have path : Text.trim line.path.toList = line.path.toList := Text.trim_eq_self plain.first plain.last
  simp only [parse, hierarchy, Text.readUInt32?_decimal, Option.bind_some, controllers, path,
    plain.controllersOf_list, String.ofList_toList]

theorem Plain.single_render (plain : line.Plain) : '\n' ∉ line.render.toList := by
  rw [render_eq]
  simp only [List.mem_append, List.mem_cons, not_or]
  exact ⟨not_mem_decimal (by decide) _, by decide, plain.not_mem_list (by decide), by decide, plain.single⟩

theorem Plain.getLast?_render (plain : line.Plain) : line.render.toList.getLast? ≠ some '\r' := by
  rw [render_eq]
  intro final
  rw [← List.cons_append, ← List.append_assoc, List.getLast?_append, List.getLast?_cons] at final
  cases ends : line.path.toList.getLast? with
  | none => simp [ends] at final
  | some c =>
    have blank := plain.last c ends
    simp only [ends, Option.getD_some, Option.some_or, Option.some.injEq] at final
    rw [final] at blank
    exact absurd blank (by decide)

theorem not_allBlank_render (line : Line) : Text.allBlank line.render.toList = false := by
  obtain ⟨c, rest, digits⟩ := List.exists_cons_of_ne_nil (Text.decimal_ne_nil line.hierarchy.toNat)
  have digit : Text.isDigit c = true := Text.isDigit_of_mem_decimal (digits ▸ List.mem_cons_self)
  have shown : Text.isBlank c = false := Text.not_isBlank_of_isDigit digit
  rw [render_eq, digits, List.cons_append, Text.allBlank, List.all_cons, shown, Bool.false_and]

end Line

/-! ### Whole files -/

/-- A row of a file: an entry, or blanks. -/
inductive Row where
  | entry (line : Line)
  | blank (text : List Char)

namespace Row

def text : Row → List Char
  | entry line => line.render.toList
  | blank text => text

def entry? : Row → Option Line
  | entry line => some line
  | blank _ => none

/-- Entries are plain, and what stands for a blank row is one. -/
def Plain : Row → Prop
  | entry line => line.Plain
  | blank text => Text.allBlank text = true ∧ '\n' ∉ text

instance : (row : Row) → Decidable row.Plain
  | entry line => inferInstanceAs (Decidable line.Plain)
  | blank text => inferInstanceAs (Decidable (Text.allBlank text = true ∧ '\n' ∉ text))

variable {row : Row}

theorem Plain.single_text (plain : row.Plain) : '\n' ∉ row.text := by
  cases row with
  | entry line => exact Line.Plain.single_render plain
  | blank text => exact plain.2

theorem Plain.ending (plain : row.Plain) : Text.allBlank row.text = true ∨ row.text.getLast? ≠ some '\r' := by
  cases row with
  | entry line => exact .inr (Line.Plain.getLast?_render plain)
  | blank text => exact .inl plain.1

theorem plain_of_entry? {line : Line} (plain : row.Plain) (own : row.entry? = some line) : line.Plain := by
  cases row with
  | entry other => cases own; exact plain
  | blank text => cases own

end Row

variable {rows : List Row}

/-- Rows written one under the other; a void one at the end makes the file end with a line break. -/
def contentOf (rows : List Row) : String :=
  String.ofList (Text.joinWith '\n' (rows.map Row.text))

theorem filter_texts (plain : ∀ row ∈ rows, row.Plain) :
    ((rows.map Row.text).filter fun text => !Text.allBlank text).map String.ofList =
      (rows.filterMap Row.entry?).map Line.render := by
  induction rows with
  | nil => rfl
  | cons row rest ih =>
    rw [List.forall_mem_cons] at plain
    obtain ⟨here, later⟩ := plain
    have others := ih later
    cases row with
    | entry line =>
      rw [List.map_cons, List.filter_cons_of_pos (by simp [Row.text, Line.not_allBlank_render]), List.map_cons,
        others, Row.text, String.ofList_toList]
      rfl
    | blank text =>
      rw [List.map_cons, List.filter_cons_of_neg (by simp [Row.text, here.1]), others]
      rfl

theorem writtenLines_contentOf (plain : ∀ row ∈ rows, row.Plain) :
    writtenLines (contentOf rows) = (rows.filterMap Row.entry?).map Line.render := by
  have single : ∀ text ∈ rows.map Row.text, '\n' ∉ text :=
    List.forall_mem_map.2 fun row listed => (plain row listed).single_text
  have ending : ∀ text ∈ rows.map Row.text, Text.allBlank text = true ∨ text.getLast? ≠ some '\r' :=
    List.forall_mem_map.2 fun row listed => (plain row listed).ending
  rw [writtenLines, contentOf, String.toList_ofList, Text.filter_lines_joinWith single ending, filter_texts plain]

theorem parse_render_of_entry (plain : ∀ row ∈ rows, row.Plain) {line : Line}
    (entered : line ∈ rows.filterMap Row.entry?) : Line.parse line.render = .ok line := by
  obtain ⟨row, listed, own⟩ := List.mem_filterMap.1 entered
  exact (Row.plain_of_entry? (plain row listed) own).parse_render

theorem legible_contentOf (plain : ∀ row ∈ rows, row.Plain) : Legible (contentOf rows) := by
  rw [Legible, writtenLines_contentOf plain, List.forall_mem_map]
  intro line entered
  exact ⟨line, parse_render_of_entry plain entered⟩

theorem entriesOf_contentOf (plain : ∀ row ∈ rows, row.Plain) :
    entriesOf (contentOf rows) = rows.filterMap Row.entry? :=
  calc entriesOf (contentOf rows)
    _ = (rows.filterMap Row.entry?).filterMap fun line => (Line.parse line.render).toOption := by
      rw [entriesOf, writtenLines_contentOf plain, readAll, List.filterMap_map]
      rfl
    _ = (rows.filterMap Row.entry?).filterMap some := by
      apply List.filterMap_congr
      intro line entered
      rw [parse_render_of_entry plain entered]
      rfl
    _ = rows.filterMap Row.entry? := List.filterMap_some

end Attribution.Cgroup
