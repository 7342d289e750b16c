import Attribution.Json.Fields
import Mathlib.Data.List.Forall2

/-!
What a document has to be like to be read as a record.

Main statement: a document gives values to the fields of a record exactly if it is an object that names no field
twice, where each field has the value of its only member, or an array of values for the first fields in their order.
-/

namespace Attribution.Json

variable {fields : List FieldNames} {names : FieldNames} {name : String} {value : Json}
  {members rest : List (Spelling × Json)} {slots result : List (Option Json)}

/-- What the members hold that carry one of a field's names. -/
def valuesAt (names : FieldNames) (members : List (Spelling × Json)) : List Json :=
  (members.filter fun member => member.1.any names.contains).map Prod.snd

theorem valuesAt_cons_of_mem (own : name ∈ names) :
    valuesAt names ((some name, value) :: rest) = value :: valuesAt names rest := by
  simp [valuesAt, own]

theorem valuesAt_cons_of_not_mem (foreign : name ∉ names) :
    valuesAt names ((some name, value) :: rest) = valuesAt names rest := by
  simp [valuesAt, foreign]

/-- The values that a document gives to the fields of a record. -/
inductive Gives (fields : List FieldNames) : Json → List (Option Json) → Prop
  | object {members : List (Spelling × Json)} (spelled : ∀ member ∈ members, member.1 ≠ none)
      (once : ∀ names ∈ fields, (valuesAt names members).length ≤ 1) :
      Gives fields (.object members) (fields.map fun names => (valuesAt names members).head?)
  | array {items : List Json} (fits : items.length ≤ fields.length) :
      Gives fields (.array items) (items.map some ++ List.replicate (fields.length - items.length) none)

theorem mem_iff_of_findIdx? (apart : fields.Pairwise List.Disjoint) {index : Nat}
    (found : fields.findIdx? (fun names => names.contains name) = some index) {other : Nat}
    (inside : other < fields.length) : name ∈ fields[other] ↔ other = index := by
  obtain ⟨within, own, -⟩ := List.findIdx?_eq_some_iff_getElem.1 found
  have own : name ∈ fields[index] := by simpa using own
  constructor
  · intro member
    by_contra different
    rcases Nat.lt_or_gt_of_ne different with before | behind
    · exact List.pairwise_iff_getElem.1 apart other index inside within before member own
    · exact List.pairwise_iff_getElem.1 apart index other within inside behind own member
  · rintro rfl
    exact own

/-- Slots taken together with what members hold for their fields. -/
def Merges (fields : List FieldNames) (slots : List (Option Json)) (members : List (Spelling × Json))
    (result : List (Option Json)) : Prop :=
  ∀ (index : Nat) (inside : index < fields.length),
    (slots[index]?.getD none).toList ++ valuesAt fields[index] members = (result[index]?.getD none).toList

theorem merges_nil_iff (lengths : slots.length = fields.length) (lengths' : result.length = fields.length) :
    Merges fields slots [] result ↔ slots = result := by
  constructor
  · intro merges
    apply List.ext_getElem (lengths.trans lengths'.symm)
    intro index inside inside'
    have same := congrArg List.head? (merges index (lengths ▸ inside))
    simpa [valuesAt, inside, inside'] using same
  · rintro rfl index inside
    simp [valuesAt]

theorem merges_cons_of_unknown (unknown : fields.findIdx? (fun names => names.contains name) = none) :
    Merges fields slots ((some name, value) :: rest) result ↔ Merges fields slots rest result := by
  have foreign (index : Nat) (inside : index < fields.length) : name ∉ fields[index] := by
    have absent := List.findIdx?_eq_none_iff.1 unknown fields[index] (List.getElem_mem inside)
    simpa using absent
  refine forall_congr' fun index => forall_congr' fun inside => ?_
  rw [valuesAt_cons_of_not_mem (foreign index inside)]

theorem merges_cons_of_free (apart : fields.Pairwise List.Disjoint) {index : Nat}
    (found : fields.findIdx? (fun names => names.contains name) = some index) (free : slots[index]? = some none) :
    Merges fields slots ((some name, value) :: rest) result ↔
      Merges fields (slots.set index (some value)) rest result := by
  refine forall_congr' fun other => forall_congr' fun inside => ?_
  by_cases here : other = index
  · subst here
    have within : other < slots.length := (List.getElem?_eq_some_iff.1 free).1
    rw [valuesAt_cons_of_mem ((mem_iff_of_findIdx? apart found inside).2 rfl), free, List.getElem?_set_self within]
    rfl
  · rw [valuesAt_cons_of_not_mem (mt (mem_iff_of_findIdx? apart found inside).1 here)]
    rw [List.getElem?_set_ne (Ne.symm here)]

theorem not_merges_cons_of_taken (lengths : slots.length = fields.length) (apart : fields.Pairwise List.Disjoint)
    {index : Nat} (found : fields.findIdx? (fun names => names.contains name) = some index)
    (taken : slots[index]? ≠ some none) : ¬Merges fields slots ((some name, value) :: rest) result := by
  intro merges
  obtain ⟨inside, -⟩ := List.findIdx?_eq_some_iff_getElem.1 found
  have both := merges index inside
  rw [valuesAt_cons_of_mem ((mem_iff_of_findIdx? apart found inside).2 rfl)] at both
  have within : index < slots.length := lengths ▸ inside
  cases stored : slots[index] with
  | none => exact taken (by rw [List.getElem?_eq_getElem within, stored])
  | some first =>
    -- A slot has room for one value.
    have most : (result[index]?.getD none).toList.length ≤ 1 := by
      cases result[index]?.getD none <;> simp
    rw [List.getElem?_eq_getElem within, stored] at both
    simp [← both] at most

/-- Slots are filled with what the members hold, unless a slot would have to hold two values. -/
theorem fillSlots_eq_some_iff (apart : fields.Pairwise List.Disjoint) (lengths : slots.length = fields.length)
    (lengths' : result.length = fields.length) :
    fillSlots fields slots members = some result ↔
      (∀ member ∈ members, member.1 ≠ none) ∧ Merges fields slots members result := by
  fun_induction fillSlots fields slots members with
  | case1 slots => simp [merges_nil_iff lengths lengths']
  | case2 slots value rest => simp
  | case3 slots name value rest unknown ih =>
    rw [ih lengths, merges_cons_of_unknown unknown]
    simp
  | case4 slots name value rest index found free ih =>
    rw [ih (by rw [List.length_set, lengths]), merges_cons_of_free apart found free]
    simp
  | case5 slots name value rest index found taken =>
    have never : ¬Merges fields slots ((some name, value) :: rest) result :=
      not_merges_cons_of_taken lengths apart found taken
    simp [never]

theorem length_of_fillSlots (filled : fillSlots fields slots members = some result) : result.length = slots.length := by
  fun_induction fillSlots fields slots members with
  | case1 slots =>
    cases filled
    rfl
  | case2 slots value rest => cases filled
  | case3 slots name value rest unknown ih => exact ih filled
  | case4 slots name value rest index found free ih => rw [ih filled, List.length_set]
  | case5 slots name value rest index found taken => cases filled

theorem merges_blank_iff (lengths : result.length = fields.length) :
    Merges fields (List.replicate fields.length none) members result ↔
      (∀ names ∈ fields, (valuesAt names members).length ≤ 1) ∧
        result = fields.map fun names => (valuesAt names members).head? := by
  have blank (index : Nat) : (List.replicate fields.length (none : Option Json))[index]?.getD none = none := by
    rw [List.getElem?_replicate]
    split <;> rfl
  constructor
  · intro merges
    have values (index : Nat) (inside : index < fields.length) :
        valuesAt fields[index] members = (result[index]?.getD none).toList := by
      have merged := merges index inside
      rwa [blank, Option.toList_none, List.nil_append] at merged
    constructor
    · intro names member
      obtain ⟨index, inside, rfl⟩ := List.getElem_of_mem member
      rw [values index inside]
      cases result[index]?.getD none <;> simp
    · apply List.ext_getElem (by simpa using lengths)
      intro index within inside
      have inside : index < fields.length := by simpa using inside
      have same := congrArg List.head? (values index inside)
      simpa [within] using same.symm
  · rintro ⟨once, rfl⟩ index inside
    have single := once fields[index] (List.getElem_mem inside)
    rw [blank, Option.toList_none, List.nil_append, List.getElem?_map, List.getElem?_eq_getElem inside]
    cases values : valuesAt fields[index] members with
    | nil => simp [values]
    | cons first others =>
      rw [values, List.length_cons] at single
      obtain rfl : others = [] := List.eq_nil_of_length_eq_zero (by omega)
      simp [values]

theorem fields?_eq_some_iff (apart : fields.Pairwise List.Disjoint) {document : Json} :
    fields? fields document = some slots ↔ Gives fields document slots := by
  constructor
  · intro read
    cases document with
    | object members =>
      have lengths := (length_of_fillSlots read).trans List.length_replicate
      obtain ⟨spelled, merges⟩ := (fillSlots_eq_some_iff apart List.length_replicate lengths).1 read
      obtain ⟨once, rfl⟩ := (merges_blank_iff lengths).1 merges
      exact .object spelled once
    | array items =>
      rw [fields?] at read
      split at read
      · rename_i fits
        cases read
        exact .array fits
      · cases read
    | _ => cases read
  · intro gives
    cases gives with
    | @object members spelled once =>
      have lengths : (fields.map fun names => (valuesAt names members).head?).length = fields.length :=
        List.length_map _
      exact (fillSlots_eq_some_iff apart List.length_replicate lengths).2
        ⟨spelled, (merges_blank_iff lengths).2 ⟨once, rfl⟩⟩
    | array fits => rw [fields?, if_pos fits]

/-! ### Values of fields -/

/-- The value of a field: the one of its own if it is absent, else what is written there. -/
inductive FieldOr {α : Type} (absent : α) (Reads : Json → α → Prop) : Option Json → α → Prop
  | absent : FieldOr absent Reads none absent
  | present {document : Json} {value : α} (reads : Reads document value) : FieldOr absent Reads (some document) value

section Readers

variable {α : Type} {read : Json → Option α} {Reads : Json → α → Prop}

theorem fieldOr_eq_some_iff (iff : ∀ document value, read document = some value ↔ Reads document value) {absent : α}
    {slot : Option Json} {value : α} : fieldOr absent read slot = some value ↔ FieldOr absent Reads slot value := by
  cases slot with
  | none =>
    constructor
    · rintro ⟨⟩
      exact .absent
    · rintro ⟨⟩
      rfl
  | some document =>
    rw [fieldOr, iff]
    constructor
    · exact .present
    · rintro ⟨⟩
      assumption

theorem mapM_eq_some_iff {β : Type} {read : β → Option α} {items : List β} {values : List α} :
    items.mapM read = some values ↔ List.Forall₂ (fun item value => read item = some value) items values := by
  induction items generalizing values with
  | nil => simp [eq_comm]
  | cons item items ih =>
    simp only [List.mapM_cons, Option.bind_eq_bind, Option.bind_eq_some_iff, ih, Option.pure_def, Option.some.injEq,
      List.forall₂_cons_left_iff]
    constructor
    · rintro ⟨value, first, rest, others, rfl⟩
      exact ⟨value, rest, first, others, rfl⟩
    · rintro ⟨value, rest, first, others, rfl⟩
      exact ⟨value, first, rest, others, rfl⟩

/-- An array of what a reader reads. -/
def ListOf (Reads : Json → α → Prop) (document : Json) (values : List α) : Prop :=
  ∃ items, document = .array items ∧ List.Forall₂ Reads items values

theorem listOf?_eq_some_iff (iff : ∀ document value, read document = some value ↔ Reads document value)
    (document : Json) (values : List α) :
    listOf? read document = some values ↔ ListOf Reads document values := by
  cases document with
  | array items =>
    simp only [listOf?, items?, Option.bind_eq_bind, Option.bind_some, mapM_eq_some_iff, iff]
    simp [ListOf]
  | _ => simp [listOf?, items?, ListOf]

end Readers

theorem forall₂_eq_map_iff {α β : Type} {f : β → α} {items : List α} {others : List β} :
    List.Forall₂ (fun item other => item = f other) items others ↔ items = others.map f := by
  rw [← List.forall₂_eq_eq_eq, List.forall₂_map_right_iff]

theorem text?_eq_some_iff {document : Json} {text : String} : document.text? = some text ↔ document = .text text := by
  cases document <;> simp [text?, Json.text]

theorem nat?_eq_some_iff {limit value : Nat} {document : Json} :
    document.nat? limit = some value ↔ document = .natural value ∧ value ≤ limit := by
  cases document with
  | number written =>
    cases written with
    | integer written =>
      simp only [nat?, int?, natural, integer, Option.bind_eq_bind, Option.bind_some, number.injEq, Number.integer.injEq]
      split <;> simp <;> omega
    | decimal written => simp [nat?, int?, natural, integer]
  | _ => simp [nat?, int?, natural, integer]

theorem members?_eq_some_iff {document : Json} {members : List (String × Json)} :
    document.members? = some members ↔ document = .record members := by
  cases document with
  | object written =>
    have named (member : Spelling × Json) (entry : String × Json) :
        member.1.map (·, member.2) = some entry ↔ member = (some entry.1, entry.2) := by
      obtain ⟨_ | name, value⟩ := member <;> simp [Prod.ext_iff]
    simp only [members?, mapM_eq_some_iff, named, forall₂_eq_map_iff, record, object.injEq]
  | _ => simp [members?, record]

/-- An object of texts.  The last one counts for a name that is repeated. -/
def IsTextTable (document : Json) (table : Table String String) : Prop :=
  ∃ pairs, document = .record (pairs.map fun (name, text) => (name, .text text)) ∧ table = .ofList pairs

theorem textTable?_eq_some_iff (document : Json) (table : Table String String) :
    textTable? document = some table ↔ IsTextTable document table := by
  have texts (member : String × Json) (pair : String × String) :
      member.2.text?.map (member.1, ·) = some pair ↔ member = (pair.1, .text pair.2) := by
    obtain ⟨name, value⟩ := member
    obtain ⟨name', text⟩ := pair
    simp only [Option.map_eq_some_iff, text?_eq_some_iff, Prod.mk.injEq]
    constructor
    · rintro ⟨_, rfl, rfl, rfl⟩
      exact ⟨rfl, rfl⟩
    · rintro ⟨rfl, rfl⟩
      exact ⟨text, rfl, rfl, rfl⟩
  simp only [textTable?, Option.bind_eq_bind, Option.bind_eq_some_iff, members?_eq_some_iff, mapM_eq_some_iff, texts,
    forall₂_eq_map_iff, Option.pure_def, Option.some.injEq]
  constructor
  · rintro ⟨members, rfl, pairs, rfl, rfl⟩
    exact ⟨pairs, rfl, rfl⟩
  · rintro ⟨pairs, rfl, rfl⟩
    exact ⟨_, rfl, pairs, rfl, rfl⟩

end Attribution.Json
