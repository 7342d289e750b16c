import Attribution.Kernel.Version
import Attribution.Proofs.Text.Digits
import Mathlib.Data.List.TakeWhile

/-!
Which releases tell a version, and which version they tell.

Main statements: a version is read exactly from the releases that have it where their first two numbers
stand, its own text among them, and what is behind these numbers makes no difference; reading fails exactly
where one of the numbers has no digits or does not fit.
-/

namespace Attribution.Kernel

open Text

/-- A text that may be a release, taken apart where a version is looked for. -/
structure Release where
  blanks : List Char
  mark : List Char
  major : List Char
  /-- What stands between the first number and the point. -/
  slack : List Char
  minor : List Char
  rest : List Char

def Release.text (release : Release) : List Char :=
  release.blanks ++ (release.mark ++ (release.major ++ release.slack ++ '.' :: (release.minor ++ release.rest)))

/-- The two numbers are those of a version, and no digits or points around them are taken for others. -/
structure Release.Tells (release : Release) (version : Version) : Prop where
  blanks : ∀ c ∈ release.blanks, isBlank c = true
  mark : release.mark = [] ∨ release.mark = ['v']
  major : Spells release.major version.major.toNat
  pointless : '.' ∉ release.slack
  slack : Undigited release.slack
  minor : Spells release.minor version.minor.toNat
  rest : Undigited release.rest

/-- The text is taken apart where a version is looked for, whether there is one or not. -/
structure Release.Parted (release : Release) : Prop where
  blanks : ∀ c ∈ release.blanks, isBlank c = true
  bare : release.mark = ['v'] ∨
    release.mark = [] ∧ ∀ c ∈ (release.major ++ release.slack).head?, isBlank c = false ∧ c ≠ 'v'
  major : ∀ c ∈ release.major, isDigit c = true
  pointless : '.' ∉ release.slack
  slack : Undigited release.slack
  minor : ∀ c ∈ release.minor, isDigit c = true
  rest : Undigited release.rest

/-- Digits that tell no number of a version, as there are none or they spell one that is too large. -/
def Unfit (digits : List Char) : Prop :=
  digits = [] ∨ UInt32.size ≤ valueFrom 0 digits

theorem Release.Tells.parted {release : Release} {version : Version} (tells : release.Tells version) :
    release.Parted where
  blanks := tells.blanks
  bare := by
    refine tells.mark.symm.imp_right fun unmarked => ⟨unmarked, ?_⟩
    obtain ⟨first, digits, major⟩ := List.exists_cons_of_ne_nil tells.major.some
    have digit := tells.major.all first (major ▸ List.mem_cons_self)
    rw [major]
    rintro c ⟨⟩
    refine ⟨not_isBlank_of_isDigit digit, ?_⟩
    rintro rfl
    exact absurd digit (by decide)
  major := tells.major.all
  pointless := tells.pointless
  slack := tells.slack
  minor := tells.minor.all
  rest := tells.rest

namespace Version

variable {text front rest : List Char} {number : UInt32} {version : Version} {release : Release}

/-- The digits in front end before the first point anyway. -/
theorem leadingNumber?_cut (text : List Char) :
    leadingNumber? (((cut '.' text).map Prod.fst).getD text) = leadingNumber? text := by
  cases parts : cut '.' text with
  | none => rfl
  | some pair =>
    have undigited : Undigited ('.' :: pair.2) := by
      rintro c ⟨⟩
      decide
    rw [Option.map_some, Option.getD_some, leadingNumber?, leadingNumber?, eq_of_cut parts,
      takeWhile_isDigit_undigited pair.1 undigited]

theorem read?_eq_some_iff_cut :
    read? text = some version ↔ ∃ front rest, cut '.' (dropMark (trim text)) = some (front, rest) ∧
      leadingNumber? front = some version.major ∧ leadingNumber? rest = some version.minor := by
  obtain ⟨major, minor⟩ := version
  rw [read?]
  cases cut '.' (dropMark (trim text)) with
  | none => simp
  | some pair =>
    obtain ⟨front, rest⟩ := pair
    simp only [Option.bind_eq_bind, Option.bind_some, leadingNumber?_cut, Option.bind_eq_some_iff, Option.pure_def,
      Option.some.injEq, Prod.mk.injEq, Version.mk.injEq]
    constructor
    · rintro ⟨m, first, n, second, rfl, rfl⟩
      exact ⟨front, rest, ⟨rfl, rfl⟩, first, second⟩
    · rintro ⟨_, _, ⟨rfl, rfl⟩, first, second⟩
      exact ⟨major, first, minor, second, rfl, rfl⟩

theorem exists_mark_dropMark (text : List Char) :
    ∃ mark, (mark = ['v'] ∨ mark = [] ∧ text.head? ≠ some 'v') ∧ text = mark ++ dropMark text := by
  unfold dropMark
  split
  · exact ⟨['v'], .inl rfl, rfl⟩
  next other =>
    refine ⟨[], .inr ⟨rfl, ?_⟩, rfl⟩
    intro marked
    obtain ⟨rest, whole⟩ := List.head?_eq_some_iff.1 marked
    exact other rest whole

/-! ### Numbers where they are looked for -/

theorem takeWhile_isDigit_trimEnd (text : List Char) :
    (trimEnd text).takeWhile isDigit = text.takeWhile isDigit := by
  obtain ⟨blanks, whole, all⟩ := exists_blanks_trimEnd text
  have undigited : Undigited blanks := by
    intro c first
    have blank := all c (List.mem_of_mem_head? first)
    rw [← Bool.not_eq_true]
    intro digit
    rw [not_isBlank_of_isDigit digit] at blank
    cases blank
  conv_rhs => rw [whole, takeWhile_isDigit_undigited _ undigited]

theorem trim_text (parted : release.Parted) :
    trim release.text =
      release.mark ++ (release.major ++ release.slack ++ '.' :: trimEnd (release.minor ++ release.rest)) := by
  have start : release.text.dropWhile isBlank =
      release.mark ++ (release.major ++ release.slack ++ '.' :: (release.minor ++ release.rest)) := by
    rw [Release.text, List.dropWhile_append_of_pos parted.blanks]
    rcases parted.bare with marked | ⟨unmarked, solid⟩
    · rw [marked, List.singleton_append, List.dropWhile_cons_of_neg (by decide)]
    · rw [unmarked, List.nil_append]
      cases front : release.major ++ release.slack with
      | nil => rw [List.nil_append, List.dropWhile_cons_of_neg (by decide)]
      | cons c others =>
        rw [front] at solid
        rw [List.cons_append, List.dropWhile_cons_of_neg (by simp [(solid c rfl).1])]
  have point : isBlank '.' = false := by decide
  rw [trim, start, ← List.append_assoc, trimEnd_append point, List.append_assoc]

theorem dropMark_text (parted : release.Parted) (behind : List Char) :
    dropMark (release.mark ++ (release.major ++ release.slack ++ '.' :: behind)) =
      release.major ++ release.slack ++ '.' :: behind := by
  rcases parted.bare with marked | ⟨unmarked, solid⟩
  · rw [marked]
    rfl
  · rw [unmarked, List.nil_append]
    cases front : release.major ++ release.slack with
    | nil => rfl
    | cons c others =>
      rw [front] at solid
      unfold dropMark
      split
      next same => exact absurd (List.cons_eq_cons.1 same).1 (solid c rfl).2
      next => rfl

theorem read?_parted (parted : release.Parted) : read? release.text = some version ↔
    Spells release.major version.major.toNat ∧ Spells release.minor version.minor.toNat := by
  have pointless : '.' ∉ release.major ++ release.slack := by
    rw [List.mem_append, not_or]
    refine ⟨fun member => ?_, parted.pointless⟩
    exact absurd (parted.major '.' member) (by decide)
  have first : leadingNumber? (release.major ++ release.slack) = some version.major ↔
      Spells release.major version.major.toNat := by
    rw [leadingNumber?, takeWhile_isDigit_append parted.major parted.slack, readUInt32?_eq_some_iff parted.major]
  have second : leadingNumber? (trimEnd (release.minor ++ release.rest)) = some version.minor ↔
      Spells release.minor version.minor.toNat := by
    rw [leadingNumber?, takeWhile_isDigit_trimEnd, takeWhile_isDigit_append parted.minor parted.rest,
      readUInt32?_eq_some_iff parted.minor]
  rw [read?_eq_some_iff_cut, trim_text parted, dropMark_text parted, cut_append pointless, ← first, ← second]
  constructor
  · rintro ⟨_, _, ⟨⟩, numbers⟩
    exact numbers
  · intro numbers
    exact ⟨_, _, rfl, numbers⟩

theorem read?_text (tells : release.Tells version) : read? release.text = some version :=
  (read?_parted tells.parted).2 ⟨tells.major, tells.minor⟩

theorem exists_parted (point : '.' ∈ text) : ∃ release : Release, release.text = text ∧ release.Parted := by
  obtain ⟨mark, marked, body⟩ := exists_mark_dropMark (text.dropWhile isBlank)
  have kept : '.' ∈ dropMark (text.dropWhile isBlank) := by
    have inside : '.' ∈ text.takeWhile isBlank ++ text.dropWhile isBlank := by
      rwa [List.takeWhile_append_dropWhile]
    rw [body, List.mem_append, List.mem_append] at inside
    rcases inside with blank | mark | kept
    · exact absurd (List.mem_takeWhile_imp blank) (by decide)
    · rcases marked with rfl | ⟨rfl, -⟩
      · exact absurd mark (by decide)
      · cases mark
    · exact kept
  obtain ⟨front, behind, whole, pointless⟩ := List.eq_append_cons_of_mem kept
  have front_eq : front.takeWhile isDigit ++ front.dropWhile isDigit = front := List.takeWhile_append_dropWhile
  have behind_eq : behind.takeWhile isDigit ++ behind.dropWhile isDigit = behind := List.takeWhile_append_dropWhile
  refine ⟨⟨text.takeWhile isBlank, mark, front.takeWhile isDigit, front.dropWhile isDigit,
    behind.takeWhile isDigit, behind.dropWhile isDigit⟩, ?_, ?_⟩
  · simp only [Release.text]
    rw [front_eq, behind_eq, ← whole, ← body, List.takeWhile_append_dropWhile]
  · refine ⟨fun c => List.mem_takeWhile_imp, ?_, fun c => List.mem_takeWhile_imp, ?_, undigited_dropWhile front,
      fun c => List.mem_takeWhile_imp, undigited_dropWhile behind⟩
    · refine marked.imp_right fun ⟨unmarked, other⟩ => ⟨unmarked, ?_⟩
      rw [front_eq]
      intro c first
      rw [whole, unmarked, List.nil_append] at body
      have head : (text.dropWhile isBlank).head? = some c := by
        rw [body, List.head?_append, first]
        rfl
      have solid := List.head?_dropWhile_not isBlank text
      rw [head] at solid other
      refine ⟨by simpa using solid, ?_⟩
      rintro rfl
      exact other rfl
    · exact fun inside => pointless ((List.dropWhile_suffix isDigit).subset inside)

theorem read?_pointless (pointless : '.' ∉ text) : read? text = none := by
  rw [Option.eq_none_iff_forall_ne_some]
  intro version read
  obtain ⟨front, behind, parts, -⟩ := read?_eq_some_iff_cut.1 read
  obtain ⟨mark, -, trimmed⟩ := exists_mark_dropMark (trim text)
  obtain ⟨tail, body, -⟩ := exists_blanks_trimEnd (text.dropWhile isBlank)
  apply pointless
  apply (List.dropWhile_suffix isBlank).subset
  rw [body, ← trim, trimmed, eq_of_cut parts]
  simp

theorem exists_release (read : read? text = some version) :
    ∃ release : Release, release.text = text ∧ release.Tells version := by
  have point : '.' ∈ text := by
    by_contra pointless
    rw [read?_pointless pointless] at read
    cases read
  obtain ⟨release, rfl, parted⟩ := exists_parted point
  obtain ⟨major, minor⟩ := (read?_parted parted).1 read
  have marked : release.mark = [] ∨ release.mark = ['v'] := (parted.bare.imp_right And.left).symm
  exact ⟨release, rfl, parted.blanks, marked, major, parted.pointless, parted.slack, minor, parted.rest⟩

theorem read?_eq_some_iff :
    read? text = some version ↔ ∃ release : Release, release.text = text ∧ release.Tells version := by
  constructor
  · exact exists_release
  · rintro ⟨release, rfl, tells⟩
    exact read?_text tells

/-! ### Releases that tell a version, and releases that do not -/

theorem parse_eq_ok_iff {release : String} : parse release = .ok version ↔ read? release.toList = some version := by
  rw [parse]
  cases read? release.toList <;> simp

theorem parse_eq_error_iff {release : String} : parse release = .error ⟨release⟩ ↔ read? release.toList = none := by
  rw [parse]
  cases read? release.toList <;> simp

theorem unfit_iff {digits : List Char} (all : ∀ c ∈ digits, isDigit c = true) :
    Unfit digits ↔ ∀ number : UInt32, ¬Spells digits number.toNat := by
  constructor
  · rintro (none | large) number spells
    · exact spells.some none
    · have bound := number.toNat_lt
      rw [spells.value] at large
      simp only [UInt32.size] at large
      omega
  · intro never
    by_contra fit
    rw [Unfit, not_or, not_le] at fit
    obtain ⟨some, small⟩ := fit
    apply never (UInt32.ofNat (valueFrom 0 digits))
    exact ⟨some, all, (UInt32.toNat_ofNat_of_lt' small).symm⟩

theorem read?_eq_none_iff (parted : release.Parted) :
    read? release.text = none ↔ Unfit release.major ∨ Unfit release.minor := by
  rw [unfit_iff parted.major, unfit_iff parted.minor, Option.eq_none_iff_forall_ne_some]
  simp only [ne_eq, read?_parted parted]
  constructor
  · intro never
    by_contra some
    simp only [not_or, not_forall, not_not] at some
    obtain ⟨⟨major, first⟩, minor, second⟩ := some
    exact never ⟨major, minor⟩ ⟨first, second⟩
  · rintro (none | none) version ⟨first, second⟩
    · exact none version.major first
    · exact none version.minor second

theorem tells_decimal (version : Version) {blanks mark rest : List Char} (front : ∀ c ∈ blanks, isBlank c = true)
    (marked : mark = [] ∨ mark = ['v']) (undigited : Undigited rest) :
    Release.Tells ⟨blanks, mark, decimal version.major.toNat, [], decimal version.minor.toNat, rest⟩ version where
  blanks := front
  mark := marked
  major := spells_decimal version.major.toNat
  pointless := List.not_mem_nil
  slack := by simp [Undigited]
  minor := spells_decimal version.minor.toNat
  rest := undigited

/-- A version is read from its text, and nothing but a digit behind that text makes a difference.  Any other
text that is read has two numbers that fit: reading fails where one of them does not, and where the text cannot
be taken apart. -/
theorem parse_inverts_render :
    (∀ (version : Version) (blanks mark suffix : List Char), (∀ c ∈ blanks, isBlank c = true) →
      (mark = [] ∨ mark = ['v']) → Undigited suffix →
        parse (.ofList (blanks ++ (mark ++ (decimal version.major.toNat ++ '.' ::
          (decimal version.minor.toNat ++ suffix))))) = .ok version) ∧
      (∀ version, parse (render version) = .ok version) ∧
      (∀ release : Release, release.Parted → (parse (.ofList release.text) = .error ⟨.ofList release.text⟩ ↔
        Unfit release.major ∨ Unfit release.minor)) ∧
      ∀ text, (∃ release : Release, release.Parted ∧ release.text = text.toList) ∨ parse text = .error ⟨text⟩ := by
  have told : ∀ (version : Version) (blanks mark suffix : List Char), (∀ c ∈ blanks, isBlank c = true) →
      (mark = [] ∨ mark = ['v']) → Undigited suffix →
        parse (.ofList (blanks ++ (mark ++ (decimal version.major.toNat ++ '.' ::
          (decimal version.minor.toNat ++ suffix))))) = .ok version := by
    intro version blanks mark suffix front marked undigited
    have read := read?_text (tells_decimal version front marked undigited)
    simp only [Release.text, List.append_nil] at read
    rw [parse_eq_ok_iff, String.toList_ofList]
    exact read
  refine ⟨told, ?_, ?_, ?_⟩
  · intro version
    have plain := told version [] ['v'] [] (by simp) (.inr rfl) (by simp [Undigited])
    rw [List.append_nil] at plain
    exact plain
  · intro release parted
    rw [parse_eq_error_iff, String.toList_ofList, read?_eq_none_iff parted]
  · intro text
    by_cases point : '.' ∈ text.toList
    · obtain ⟨release, whole, parted⟩ := exists_parted point
      exact .inl ⟨release, parted, whole⟩
    · exact .inr (parse_eq_error_iff.2 (read?_pointless point))

/-- A release with digits, points and blanks behind its version is read, and one past the largest number is
not. -/
theorem generic_release_read : parse "\t v5.15.0-91 generic " = .ok ⟨5, 15⟩ ∧
    parse "5.4294967296" = .error ⟨"5.4294967296"⟩ := by
  obtain ⟨told, -, failing, -⟩ := parse_inverts_render
  constructor
  · have undigited : Undigited ".0-91 generic ".toList := by
      rintro c ⟨⟩
      decide
    have read := told ⟨5, 15⟩ ['\t', ' '] ['v'] _ (List.all_eq_true.1 (by decide)) (.inr rfl) undigited
    have text : String.ofList (['\t', ' '] ++ (['v'] ++ (decimal (5 : UInt32).toNat ++ '.' ::
        (decimal (15 : UInt32).toNat ++ ".0-91 generic ".toList)))) = "\t v5.15.0-91 generic " := by decide +kernel
    rw [← text]
    exact read
  · have bare : ∀ c ∈ (['5'] : List Char).head?, isBlank c = false ∧ c ≠ 'v' := by
      rintro c ⟨⟩
      decide
    have parted : Release.Parted ⟨[], [], ['5'], [], "4294967296".toList, []⟩ :=
      ⟨by simp, .inr ⟨rfl, bare⟩, List.all_eq_true.1 (by decide), by simp, by simp [Undigited],
        List.all_eq_true.1 (by decide), by simp [Undigited]⟩
    exact (failing _ parted).2 (.inr (.inr (by decide)))

end Version

end Attribution.Kernel
