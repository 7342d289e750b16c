import Attribution.Cgroup.Vantage
import Attribution.Proofs.Cgroup.Paths

/-!
The agent finds its own path as it finds the paths of others.

The agent reads its own file up to the first line with `cpu`, while of another process's file all lines
are kept before one is selected.  Main statement: if no name is on two lines, both come to the same path
or to none, and the order of the lines makes no difference to either.
-/

namespace Attribution.Cgroup

variable {base : String} {origin : Path} {entries others : List Line} {name : String} {line : Line}
  {content other : String} {texts : List String}

/-! ### Names on one line only -/

/-- No name is empty, none is on two lines, and at most one line has no names. -/
structure Unambiguous (entries : List Line) : Prop where
  named : ∀ line ∈ entries, "" ∉ line.controllers
  apart : entries.Pairwise fun first second => ∀ name ∈ first.controllers, name ∉ second.controllers
  oneUnified : entries.Pairwise fun first second => ¬(first.controllers = [] ∧ second.controllers = [])

theorem Unambiguous.sole (unambiguous : Unambiguous entries) (name : String) :
    entries.Pairwise fun first second => ¬(first.Bears name ∧ second.Bears name) := by
  apply (unambiguous.apart.and unambiguous.oneUnified).imp_of_mem
  intro first second here there ⟨apart, oneUnified⟩ ⟨bears, alsoBears⟩
  rcases bears with listed | ⟨unified, void⟩
  · rcases alsoBears with again | ⟨-, void⟩
    · exact apart name listed again
    · exact unambiguous.named first here (void ▸ listed)
  · rcases alsoBears with listed | ⟨alsoUnified, -⟩
    · exact unambiguous.named second there (void ▸ listed)
    · exact oneUnified ⟨unified, alsoUnified⟩

/-- What only one item can be found by is found in any order. -/
theorem find?_eq_of_perm {α : Type} {test : α → Bool} {items others : List α}
    (sole : items.Pairwise fun a b => ¬(test a = true ∧ test b = true)) (reordered : items.Perm others) :
    items.find? test = others.find? test := by
  induction reordered with
  | nil => rfl
  | cons a reordered ih => rw [List.find?_cons, List.find?_cons, ih sole.of_cons]
  | swap a b rest =>
    have apart : ¬(test b = true ∧ test a = true) := List.rel_of_pairwise_cons sole List.mem_cons_self
    rw [List.find?_cons, List.find?_cons, List.find?_cons, List.find?_cons]
    cases first : test a <;> cases second : test b <;> simp_all
  | trans first second ih later =>
    have moved := first.pairwise sole fun apart both => apart both.symm
    exact (ih sole).trans (later moved)

theorem Unambiguous.bearer?_eq_of_perm (unambiguous : Unambiguous entries) (reordered : entries.Perm others)
    (name : String) : bearer? entries name = bearer? others name := by
  have sole : entries.reverse.Pairwise fun first second =>
      ¬(decide (first.Bears name) = true ∧ decide (second.Bears name) = true) := by
    simp only [decide_eq_true_eq]
    exact (List.reverse_perm entries).symm.pairwise (unambiguous.sole name) fun apart both => apart both.symm
  apply find?_eq_of_perm sole
  exact ((List.reverse_perm entries).trans reordered).trans (List.reverse_perm others).symm

theorem Unambiguous.find?_eq_bearer? (unambiguous : Unambiguous entries) (name : String) :
    entries.find? (fun line => line.Bears name) = bearer? entries name := by
  have sole := unambiguous.sole name
  apply find?_eq_of_perm _ (List.reverse_perm entries).symm
  simpa only [decide_eq_true_eq] using sole

theorem bearer?_cons (line : Line) (entries : List Line) (name : String) :
    bearer? (line :: entries) name = (bearer? entries name).or (if line.Bears name then some line else none) := by
  rw [bearer?, List.reverse_cons, List.find?_append]
  by_cases bears : line.Bears name <;> simp [bears, bearer?]

/-! ### Two ways to a path -/

/-- Reading stops at the first line with `cpu`, but what it finds can be said of all lines. -/
theorem ownPathFrom_eq (legible : ∀ text ∈ texts, ∃ line, Line.parse text = .ok line)
    (named : ∀ line ∈ readAll texts, "" ∉ line.controllers) (unified : Option String) :
    ownPathFrom unified texts = .ok ((((readAll texts).find? fun line => line.Bears "cpu").map (Line.place "")).or
      (((bearer? (readAll texts) "").map (Line.place "")).or unified)) := by
  induction texts generalizing unified with
  | nil => simp [ownPathFrom, readAll, bearer?]
  | cons text rest ih =>
    rw [List.forall_mem_cons] at legible
    obtain ⟨⟨line, read⟩, later⟩ := legible
    rw [readAll_cons read, List.forall_mem_cons] at named
    obtain ⟨nameless, others⟩ := named
    rw [ownPathFrom, read, readAll_cons read, List.find?_cons, bearer?_cons]
    dsimp only
    by_cases counts : "cpu" ∈ line.controllers
    · simp [counts, Line.Bears, Line.place]
    · have uncounted : ¬line.Bears "cpu" := by simp [Line.Bears, counts]
      rw [if_neg counts, decide_eq_false uncounted]
      by_cases none : line.controllers = []
      · have unified : line.Bears "" := .inr ⟨none, rfl⟩
        rw [if_pos none, if_pos unified, ih later others, Option.map_or, Option.or_assoc]
        rfl
      · have named : ¬line.Bears "" := by simp [Line.Bears, none, nameless]
        rw [if_neg none, if_neg named, ih later others, Option.or_none]

theorem select_pathsOf (base : String) (entries : List Line) :
    select (pathsOf base entries) = ((bearer? entries "cpu").map fun line => (line.place base, .v1)).or
      ((bearer? entries "").map fun line => (line.place base, .v2)) := by
  rw [select, get?_pathsOf, get?_pathsOf]
  cases bearer? entries "cpu" <;> cases bearer? entries "" <;> rfl

theorem ownPath_eq (legible : Legible content) (unambiguous : Unambiguous (entriesOf content)) (origin : Path) :
    ownPath origin content =
      match select (pathsOf "" (entriesOf content)) with
      | none => .error (.missingPath origin)
      | some (path, _) => .ok path := by
  have found := ownPathFrom_eq legible unambiguous.named none
  rw [← entriesOf, unambiguous.find?_eq_bearer?, Option.or_none] at found
  rw [ownPath, found, select_pathsOf]
  cases bearer? (entriesOf content) "cpu" <;> cases bearer? (entriesOf content) "" <;> rfl

/-- A path is selected to stand for the process, whatever it says of it. -/
def Selects (base content path : String) (generation : Generation) : Prop :=
  ∃ paths, recordAll base .empty (writtenLines content) = .ok paths ∧ select paths = some (path, generation)

theorem selects_iff (legible : Legible content) {path : String} {generation : Generation} :
    Selects base content path generation ↔
      select (pathsOf base (entriesOf content)) = some (path, generation) := by
  simp [Selects, recordAll_of_legible legible]

theorem select_eq_of_perm (unambiguous : Unambiguous entries) (reordered : entries.Perm others) (base : String) :
    select (pathsOf base entries) = select (pathsOf base others) := by
  rw [select_pathsOf, select_pathsOf, unambiguous.bearer?_eq_of_perm reordered,
    unambiguous.bearer?_eq_of_perm reordered]

theorem Unambiguous.of_perm (unambiguous : Unambiguous entries) (reordered : entries.Perm others) :
    Unambiguous others where
  named line member := unambiguous.named line (reordered.mem_iff.2 member)
  apart := reordered.pairwise unambiguous.apart fun apart name here there => apart name there here
  oneUnified := reordered.pairwise unambiguous.oneUnified fun apart both => apart both.symm

/-- If no name is on two lines, the agent's own path is the one that would be selected for another
process with the same file, it is missing where that is missing, and the lines may come in any order. -/
theorem ownPath_follows_selection (legible : Legible content) (unambiguous : Unambiguous (entriesOf content))
    (origin : Path) :
    (∀ path, ownPath origin content = .ok path ↔ ∃ generation, Selects "" content path generation) ∧
      (∀ path generation, Selects "" content path generation →
        ∃ paths, ofContent "" origin content = classified paths path generation) ∧
      ((∀ path generation, ¬Selects "" content path generation) →
        ownPath origin content = .error (.missingPath origin) ∧
          ofContent "" origin content = .error (.missingPath origin)) ∧
      ∀ other, (writtenLines content).Perm (writtenLines other) →
        ownPath origin other = ownPath origin content ∧
          ∀ base path generation, Selects base other path generation ↔ Selects base content path generation := by
  refine ⟨?_, ?_, ?_, ?_⟩
  · intro path
    simp only [selects_iff legible, ownPath_eq legible unambiguous]
    rcases select (pathsOf "" (entriesOf content)) with _ | ⟨chosen, generation⟩ <;> simp
  · intro path generation selected
    rw [ofContent_of_legible legible, (selects_iff legible).1 selected]
    exact ⟨_, rfl⟩
  · intro unselected
    have nothing : select (pathsOf "" (entriesOf content)) = none := by
      rw [Option.eq_none_iff_forall_ne_some]
      intro (path, generation) selected
      exact unselected path generation ((selects_iff legible).2 selected)
    rw [ownPath_eq legible unambiguous, ofContent_of_legible legible, nothing]
    exact ⟨rfl, rfl⟩
  · intro other reordered
    have legibleOther : Legible other := fun text member => legible text (reordered.mem_iff.2 member)
    have entries : (entriesOf content).Perm (entriesOf other) := reordered.filterMap _
    have same (base : String) := select_eq_of_perm unambiguous entries base
    constructor
    · rw [ownPath_eq legible unambiguous, ownPath_eq legibleOther (unambiguous.of_perm entries), same]
    · intro base path generation
      rw [selects_iff legibleOther, selects_iff legible, same]

/-! ### A file of both generations -/

def hybridRows : List Row :=
  [.entry ⟨12, ["pids"], "/kubepods/old"⟩, .entry ⟨0, [], "/unified"⟩, .blank [' '],
    .entry ⟨4, ["cpu", "cpuacct"], "/kubepods/pod1/../agent"⟩]

theorem hybrid_own_path :
    Selects "" (contentOf hybridRows) "/kubepods/agent" .v1 ∧
      ownPath "/proc/self/cgroup" (contentOf hybridRows) = .ok "/kubepods/agent" ∧
      ownPath "/proc/self/cgroup" (contentOf hybridRows.reverse) = .ok "/kubepods/agent" := by
  have plain : ∀ row ∈ hybridRows, row.Plain := by decide
  have plainReversed : ∀ row ∈ hybridRows.reverse, row.Plain := by decide
  have legible := legible_contentOf plain
  have unambiguous : Unambiguous (entriesOf (contentOf hybridRows)) := by
    rw [entriesOf_contentOf plain]
    constructor <;> decide
  have reordered : (writtenLines (contentOf hybridRows)).Perm (writtenLines (contentOf hybridRows.reverse)) := by
    rw [writtenLines_contentOf plain, writtenLines_contentOf plainReversed]
    exact ((List.reverse_perm hybridRows).symm.filterMap _).map _
  have selected : Selects "" (contentOf hybridRows) "/kubepods/agent" .v1 := by
    rw [selects_iff legible, entriesOf_contentOf plain]
    decide +kernel
  obtain ⟨own, -, -, anyOrder⟩ := ownPath_follows_selection legible unambiguous "/proc/self/cgroup"
  have found := (own "/kubepods/agent").2 ⟨.v1, selected⟩
  exact ⟨selected, found, (anyOrder _ reordered).1.trans found⟩

end Attribution.Cgroup
