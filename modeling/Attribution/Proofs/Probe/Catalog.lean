import Attribution.Probe.Catalog
import Attribution.Proofs.Files.Finding
import Attribution.Proofs.Kernel.Version

/-!
Which entries of the catalog count as images.

A catalog is meant to hold images under `v<MAJOR>.<MINOR>.o`, and all other names are to be passed over.
But what stands before the `.o` is read as a release, so names pass that have more in them.  Main statement:
the images are those of the names that pass, each once and in the order of the names, and an architecture is
unsupported exactly if no name passes; the answer is the one that the names as they are meant to be would
give exactly if no other name in the catalog passes.
-/

namespace Attribution

namespace Path

variable {name stem suffix : List Char}

theorem splitName_eq_some_iff :
    splitName name = (stem, some suffix) ↔ name = stem ++ '.' :: suffix ∧ stem ≠ [] ∧ '.' ∉ suffix := by
  have turned : name = stem ++ '.' :: suffix ∧ '.' ∉ suffix ↔
      Text.cut '.' name.reverse = some (suffix.reverse, stem.reverse) := by
    rw [Text.cut_eq_some_iff, List.reverse_eq_iff]
    simp
  rw [and_left_comm, turned, splitName]
  cases Text.cut '.' name.reverse with
  | none => simp
  | some pair =>
    obtain ⟨behind, before⟩ := pair
    by_cases empty : before = []
    · simp only [if_pos empty, Prod.mk.injEq, reduceCtorEq, and_false, false_iff, not_and, Option.some.injEq]
      rintro some - rfl
      exact some (List.reverse_eq_nil_iff.1 empty)
    · simp only [if_neg empty, Prod.mk.injEq, Option.some.injEq]
      constructor
      · rintro ⟨rfl, rfl⟩
        simpa using empty
      · rintro ⟨-, rfl, rfl⟩
        simp

end Path

namespace Probe

open Kernel Text

/-! ### Names -/

/-- The names that images are meant to have: `v<MAJOR>.<MINOR>.o`. -/
def Titled (name : String) (version : Version) : Prop :=
  ∃ major minor, Spells major version.major.toNat ∧ Spells minor version.minor.toNat ∧
    name.toList = 'v' :: (major ++ '.' :: (minor ++ ['.', 'o']))

/-- The names of releases, with `.o` behind them. -/
def Passes (name : String) (version : Version) : Prop :=
  ∃ release : Release, release.Tells version ∧ name.toList = release.text ++ ['.', 'o']

variable {name architecture : String} {version other : Version} {place directory : Path} {image : Image}

theorem passes_of_titled (titled : Titled name version) : Passes name version := by
  obtain ⟨major, minor, majorSpells, minorSpells, whole⟩ := titled
  refine ⟨⟨[], ['v'], major, [], minor, []⟩, ?_, ?_⟩
  · exact ⟨by simp, .inr rfl, majorSpells, by simp, by simp [Undigited], minorSpells, by simp [Undigited]⟩
  · simp [Release.text, whole]

theorem Passes.unique (passes : Passes name version) (again : Passes name other) : version = other := by
  obtain ⟨release, tells, whole⟩ := passes
  obtain ⟨release', tells', whole'⟩ := again
  have same : release.text = release'.text := List.append_cancel_right (whole.symm.trans whole')
  have read := Version.read?_text tells
  rw [same, Version.read?_text tells'] at read
  exact (Option.some.inj read).symm

theorem Titled.plain (titled : Titled name version) {c : Char} (member : c ∈ name.toList) :
    isDigit c = true ∨ c ∈ ['v', '.', 'o'] := by
  obtain ⟨major, minor, majorSpells, minorSpells, whole⟩ := titled
  have digits : c ∈ major ∨ c ∈ minor → isDigit c = true :=
    fun inside => inside.elim (majorSpells.all c) (minorSpells.all c)
  simp only [whole, List.mem_cons, List.mem_append, List.not_mem_nil, or_false] at member ⊢
  tauto

theorem imageOf?_eq_some_iff :
    imageOf? place name = some image ↔ ∃ version, Passes name version ∧ image = ⟨version, place / ⟨name⟩⟩ := by
  have split : ∀ stem, Path.splitName name.toList = (stem, some ['o']) ↔
      name.toList = stem ++ ['.', 'o'] ∧ stem ≠ [] := by
    intro stem
    rw [Path.splitName_eq_some_iff]
    simp
  constructor
  · intro found
    rw [imageOf?] at found
    split at found
    next stem parts =>
      obtain ⟨version, read, same⟩ := Option.map_eq_some_iff.1 found
      obtain ⟨release, rfl, tells⟩ := Version.read?_eq_some_iff.1 read
      exact ⟨version, ⟨release, tells, ((split release.text).1 parts).1⟩, same.symm⟩
    next => cases found
  · rintro ⟨version, ⟨release, tells, whole⟩, rfl⟩
    have some : release.text ≠ [] := by simp [Release.text]
    rw [imageOf?, (split release.text).2 ⟨whole, some⟩]
    simp only [Version.read?_text tells, Option.map_some]

/-! ### Catalogs -/

section Lists

variable (named : String → Version → Prop) (place : Path)

/-- Each name of an image gives one image, and any other name none. -/
inductive Lists : List String → List Image → Prop
  | nil : Lists [] []
  | image {name names images version} (here : named name version) (later : Lists names images) :
      Lists (name :: names) (⟨version, place / ⟨name⟩⟩ :: images)
  | other {name names images} (here : ∀ version, ¬ named name version) (later : Lists names images) :
      Lists (name :: names) images

/-- The images of an architecture, or that it is not supported if no name is one of an image. -/
inductive Answers (architecture : String) (names : List String) : Except Error (List Image) → Prop
  | listed {images} (some : ∃ name ∈ names, ∃ version, named name version) (lists : Lists named place names images) :
      Answers architecture names (.ok images)
  | unsupported (none : ∀ name ∈ names, ∀ version, ¬ named name version) :
      Answers architecture names (.error (.unsupportedArchitecture architecture))

end Lists

variable {named wider : String → Version → Prop} {names : List String} {images fewer : List Image}

theorem Lists.eq_nil_iff (lists : Lists named place names images) :
    images = [] ↔ ∀ name ∈ names, ∀ version, ¬ named name version := by
  induction lists with
  | nil => simp
  | image here later ih =>
    simp only [reduceCtorEq, List.forall_mem_cons, false_iff]
    exact fun none => none.1 _ here
  | other here later ih => simpa only [List.forall_mem_cons, ih, iff_and_self] using fun _ => here

theorem Lists.length_le (narrower : ∀ name version, named name version → wider name version)
    (lists : Lists named place names fewer) (widely : Lists wider place names images) :
    fewer.length ≤ images.length := by
  induction lists generalizing images with
  | nil => exact Nat.zero_le _
  | image here later ih =>
    cases widely with
    | image there further => exact Nat.succ_le_succ (ih further)
    | other none further => exact absurd (narrower _ _ here) (none _)
  | other none later ih =>
    cases widely with
    | image there further => exact Nat.le_succ_of_le (ih further)
    | other none further => exact ih further

/-- Names that give as many images in a wider sense are names of images in the narrower sense. -/
theorem Lists.narrow (narrower : ∀ name version, named name version → wider name version)
    (unique : ∀ name version other, wider name version → wider name other → version = other)
    (lists : Lists named place names fewer) (widely : Lists wider place names images)
    (same : images.length = fewer.length) :
    ∀ name ∈ names, ∀ version, wider name version → named name version := by
  induction lists generalizing images with
  | nil => simp
  | image here later ih =>
    cases widely with
    | image there further =>
      rw [List.forall_mem_cons]
      refine ⟨fun version wide => ?_, ih further (Nat.succ.inj same)⟩
      rw [unique _ _ _ wide (narrower _ _ here)]
      exact here
    | other none further => exact absurd (narrower _ _ here) (none _)
  | other none later ih =>
    cases widely with
    | image there further =>
      have bound := later.length_le narrower further
      rw [List.length_cons] at same
      omega
    | other never further =>
      rw [List.forall_mem_cons]
      exact ⟨fun version wide => absurd wide (never version), ih further same⟩

theorem Lists.congr (agree : ∀ name ∈ names, ∀ version, wider name version ↔ named name version)
    (lists : Lists wider place names images) : Lists named place names images := by
  induction lists with
  | nil => exact .nil
  | image here later ih =>
    rw [List.forall_mem_cons] at agree
    exact .image ((agree.1 _).1 here) (ih agree.2)
  | other here later ih =>
    rw [List.forall_mem_cons] at agree
    exact .other (fun version inside => here version ((agree.1 version).2 inside)) (ih agree.2)

theorem lists_filterMap (place : Path) (names : List String) :
    Lists Passes place names (names.filterMap (imageOf? place)) := by
  induction names with
  | nil => exact .nil
  | cons name names ih =>
    cases found : imageOf? place name with
    | none =>
      rw [List.filterMap_cons_none found]
      refine .other (fun version passes => ?_) ih
      have known : imageOf? place name = some ⟨version, place / ⟨name⟩⟩ :=
        imageOf?_eq_some_iff.2 ⟨version, passes, rfl⟩
      rw [found] at known
      cases known
    | some image =>
      rw [List.filterMap_cons_some found]
      obtain ⟨version, passes, rfl⟩ := imageOf?_eq_some_iff.1 found
      exact .image passes ih

variable {tree : Files.Tree} {found : List (String × Files.Entry)} {result : Except Error (List Image)}

theorem answers_passing (readable : tree.list (directory / ⟨architecture⟩) = .ok found) :
    Answers Passes (directory / ⟨architecture⟩) architecture (found.map Prod.fst)
      (listImages tree directory architecture) := by
  have lists := lists_filterMap (directory / ⟨architecture⟩) (found.map Prod.fst)
  rw [List.filterMap_map] at lists
  rw [listImages, readable]
  simp only
  split
  next none => exact .unsupported (lists.eq_nil_iff.1 none)
  next some =>
    refine .listed ?_ lists
    by_contra nobody
    have none := lists.eq_nil_iff.2 fun name listed version passes => nobody ⟨name, listed, version, passes⟩
    exact some none

theorem Answers.narrow (passing : Answers Passes place architecture names result)
    (titled : Answers Titled place architecture names result) :
    ∀ name ∈ names, ∀ version, Passes name version → Titled name version := by
  cases passing with
  | listed some widely =>
    cases titled with
    | listed some' lists =>
      exact lists.narrow (fun _ _ => passes_of_titled) (fun _ _ _ => Passes.unique) widely rfl
  | unsupported none => exact fun name listed version passes => absurd passes (none name listed version)

theorem Answers.titled (passing : Answers Passes place architecture names result)
    (proper : ∀ name ∈ names, ∀ version, Passes name version → Titled name version) :
    Answers Titled place architecture names result := by
  cases passing with
  | listed some lists =>
    obtain ⟨name, listed, version, passes⟩ := some
    refine .listed ⟨name, listed, version, proper name listed version passes⟩ (lists.congr ?_)
    exact fun name listed version => ⟨proper name listed version, passes_of_titled⟩
  | unsupported none =>
    exact .unsupported fun name listed version titled => none name listed version (passes_of_titled titled)

/-- The names that pass are answered with an image each.  The answer is that of the names as they are
meant to be exactly if nothing else passes. -/
theorem catalog_exact_iff (readable : tree.list (directory / ⟨architecture⟩) = .ok found) :
    Answers Passes (directory / ⟨architecture⟩) architecture (found.map Prod.fst)
        (listImages tree directory architecture) ∧
      (Answers Titled (directory / ⟨architecture⟩) architecture (found.map Prod.fst)
          (listImages tree directory architecture) ↔
        ∀ name ∈ found.map Prod.fst, ∀ version, Passes name version → Titled name version) := by
  have passing := answers_passing readable
  exact ⟨passing, passing.narrow, passing.titled⟩

/-- A catalog with nothing in it but the image for a candidate of a release. -/
def candidates : Files.Tree :=
  ⟨.ofList [(["x86_64"], .directory), (["x86_64", "v5.4-rc1.o"], .file [])]⟩

theorem list_candidates : candidates.list ("/" / ⟨"x86_64"⟩) = .ok [("v5.4-rc1.o", .file [])] := by
  have found : candidates.find true ("/" / ⟨"x86_64"⟩) = .ok (["x86_64"], .directory) :=
    Files.Tree.find_names (by decide +kernel) (by decide) rfl (by simp)
  rw [Files.Tree.list, found]
  rfl

theorem candidate_passes : Passes "v5.4-rc1.o" ⟨5, 4⟩ := by
  have five : Spells ['5'] 5 := ⟨by decide, List.forall_mem_singleton.2 (by decide), rfl⟩
  have four : Spells ['4'] 4 := ⟨by decide, List.forall_mem_singleton.2 (by decide), rfl⟩
  refine ⟨⟨[], ['v'], ['5'], [], ['4'], "-rc1".toList⟩, ?_, rfl⟩
  exact ⟨by simp, .inr rfl, five, by decide, by simp [Undigited], four, by simp [Undigited]; decide⟩

theorem candidate_untitled (version : Version) : ¬ Titled "v5.4-rc1.o" version := by
  intro titled
  have dash : '-' ∈ "v5.4-rc1.o".toList := by decide
  exact absurd (titled.plain dash) (by decide)

theorem candidate_counts :
    Answers Passes ("/" / ⟨"x86_64"⟩) "x86_64" ["v5.4-rc1.o"] (listImages candidates "/" "x86_64") ∧
      ¬ Answers Titled ("/" / ⟨"x86_64"⟩) "x86_64" ["v5.4-rc1.o"] (listImages candidates "/" "x86_64") := by
  obtain ⟨passing, exact_iff⟩ := catalog_exact_iff list_candidates
  refine ⟨passing, fun titled => ?_⟩
  exact candidate_untitled _ (exact_iff.1 titled _ List.mem_cons_self _ candidate_passes)

theorem not_always_exact :
    ¬ ∀ (tree : Files.Tree) (directory : Path) (architecture : String) (found : List (String × Files.Entry)),
      tree.list (directory / ⟨architecture⟩) = .ok found →
        Answers Titled (directory / ⟨architecture⟩) architecture (found.map Prod.fst)
          (listImages tree directory architecture) := by
  intro always
  have proper := (answers_passing list_candidates).narrow (always candidates "/" "x86_64" _ list_candidates)
  exact candidate_untitled _ (proper _ List.mem_cons_self _ candidate_passes)

end Probe

end Attribution
