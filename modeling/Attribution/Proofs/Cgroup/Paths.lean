import Attribution.Cgroup.Membership
import Attribution.Proofs.Cgroup.Sheet
import Mathlib.Data.List.Induction

/-!
Which paths a cgroup file gives, and which of them stands for the process.

Every name goes to the path of the last entry that bears it; the unified path is borne by the empty
name.  Main statement: that is what is found in a file that is written plainly, the path of `cpu` or
else the unified one is selected, and a file can fail only by naming neither or by what its path says.
-/

namespace Attribution.Cgroup

variable {base : String} {origin : Path} {entries : List Line} {name : String} {line : Line}
  {content : String}

/-! ### Who bears a name -/

/-- An entry bears the names it lists; if it lists none, it bears the empty one. -/
def Line.Bears (line : Line) (name : String) : Prop :=
  name ∈ line.controllers ∨ (line.controllers = [] ∧ name = "")

instance (line : Line) (name : String) : Decidable (line.Bears name) :=
  inferInstanceAs (Decidable (_ ∨ _))

theorem Line.mem_names_iff : name ∈ line.names ↔ line.Bears name := by
  unfold names Bears
  split <;> simp_all

/-- The last entry that bears a name. -/
def bearer? (entries : List Line) (name : String) : Option Line :=
  entries.reverse.find? fun line => line.Bears name

theorem bearer?_snoc (entries : List Line) (line : Line) (name : String) :
    bearer? (entries ++ [line]) name = if line.Bears name then some line else bearer? entries name := by
  rw [bearer?, List.reverse_append, List.reverse_singleton, List.singleton_append, List.find?_cons]
  by_cases bears : line.Bears name <;> simp [bears, bearer?]

/-- A name belongs to an entry that bears it, if none after that does. -/
def BelongsTo (entries : List Line) (name : String) (line : Line) : Prop :=
  ∃ before after, entries = before ++ line :: after ∧ line.Bears name ∧ ∀ later ∈ after, ¬later.Bears name

theorem bearer?_eq_some_iff : bearer? entries name = some line ↔ BelongsTo entries name line := by
  simp only [bearer?, List.find?_eq_some_iff_append, BelongsTo, decide_eq_true_eq, Bool.not_eq_true',
    decide_eq_false_iff_not]
  constructor
  · intro ⟨bears, after, before, same, silent⟩
    refine ⟨before.reverse, after.reverse, ?_, bears, ?_⟩
    · rw [← List.reverse_reverse entries, same]
      simp
    · intro later member
      exact silent later (List.mem_reverse.1 member)
  · intro ⟨before, after, same, bears, silent⟩
    refine ⟨bears, after.reverse, before.reverse, ?_, ?_⟩
    · rw [same]
      simp
    · intro later member
      exact silent later (List.mem_reverse.1 member)

theorem bearer?_eq_none_iff : bearer? entries name = none ↔ ∀ line ∈ entries, ¬line.Bears name := by
  simp [bearer?]

/-! ### The paths of a file -/

/-- The path of an entry as the host sees it. -/
def Line.place (base : String) (line : Line) : String :=
  joinPath base line.path

/-- The paths that entries give to the names they bear. -/
def pathsOf (base : String) (entries : List Line) : Table String String :=
  entries.foldl (record base) .empty

theorem get?_foldl_insert (names : List String) (path : String) (paths : Table String String) :
    (names.foldl (fun paths name => paths.insert name path) paths).get? name =
      if name ∈ names then some path else paths.get? name := by
  induction names generalizing paths with
  | nil => rfl
  | cons first rest ih =>
    rw [List.foldl_cons, ih, Table.get?_insert]
    by_cases later : name ∈ rest <;> by_cases same : name = first <;> simp [later, same]

theorem get?_record (paths : Table String String) :
    (record base paths line).get? name = if line.Bears name then some (line.place base) else paths.get? name := by
  rw [record, get?_foldl_insert]
  simp only [Line.mem_names_iff, Line.place]

theorem get?_pathsOf : (pathsOf base entries).get? name = (bearer? entries name).map (Line.place base) := by
  induction entries using List.reverseRecOn with
  | nil => rfl
  | append_singleton entries line ih =>
    rw [pathsOf, List.foldl_append, List.foldl_cons, List.foldl_nil, get?_record, bearer?_snoc]
    split
    · rfl
    · exact ih

/-- The last entry that bears a name gives it a path. -/
def Gives (base : String) (entries : List Line) (name path : String) : Prop :=
  ∃ line, BelongsTo entries name line ∧ line.place base = path

def Unborne (entries : List Line) (name : String) : Prop :=
  ∀ line ∈ entries, ¬line.Bears name

instance (entries : List Line) (name : String) : Decidable (Unborne entries name) :=
  inferInstanceAs (Decidable (∀ line ∈ entries, ¬line.Bears name))

theorem get?_pathsOf_eq_some_iff {path : String} :
    (pathsOf base entries).get? name = some path ↔ Gives base entries name path := by
  simp only [get?_pathsOf, Option.map_eq_some_iff, bearer?_eq_some_iff, Gives]

theorem get?_pathsOf_eq_none_iff : (pathsOf base entries).get? name = none ↔ Unborne entries name := by
  rw [get?_pathsOf, Option.map_eq_none_iff, bearer?_eq_none_iff, Unborne]

theorem recordAll_eq {texts : List String} (legible : ∀ text ∈ texts, ∃ line, Line.parse text = .ok line)
    (paths : Table String String) :
    recordAll base paths texts = .ok ((readAll texts).foldl (record base) paths) := by
  induction texts generalizing paths with
  | nil => rfl
  | cons text rest ih =>
    rw [List.forall_mem_cons] at legible
    obtain ⟨⟨line, read⟩, later⟩ := legible
    rw [recordAll, read, readAll_cons read]
    exact ih later (record base paths line)

theorem recordAll_of_legible (legible : Legible content) (base : String) :
    recordAll base .empty (writtenLines content) = .ok (pathsOf base (entriesOf content)) :=
  recordAll_eq legible .empty

/-! ### What a file leads to -/

/-- The cgroup under a path, if the path fits a rule. -/
def classified (paths : Table String String) (id : String) (generation : Generation) : Except Error Cgroup :=
  match classify id with
  | .error failure => .error (.kind failure)
  | .ok (kind, containerId) => .ok ⟨id, generation, kind, containerId, paths⟩

theorem ofContent_of_legible (legible : Legible content) (base : String) (origin : Path) :
    ofContent base origin content =
      match select (pathsOf base (entriesOf content)) with
      | none => .error (.missingPath origin)
      | some (id, generation) => classified (pathsOf base (entriesOf content)) id generation := by
  simp only [ofContent, recordAll_of_legible legible]
  rfl

/-- What entries lead to: the path of `cpu` stands for the process, or else the unified one. -/
inductive Outcome (base : String) (origin : Path) (entries : List Line) (paths : Table String String) :
    Except Error Cgroup → Prop where
  | controller {id : String} (given : Gives base entries "cpu" id) :
      Outcome base origin entries paths (classified paths id .v1)
  | unified {id : String} (unborne : Unborne entries "cpu") (given : Gives base entries "" id) :
      Outcome base origin entries paths (classified paths id .v2)
  | missing (unborne : Unborne entries "cpu") (nowhere : Unborne entries "") :
      Outcome base origin entries paths (.error (.missingPath origin))

theorem ofContent_outcome (legible : Legible content) (base : String) (origin : Path) :
    Outcome base origin (entriesOf content) (pathsOf base (entriesOf content))
      (ofContent base origin content) := by
  rw [ofContent_of_legible legible, select]
  cases controller : (pathsOf base (entriesOf content)).get? "cpu" with
  | some id => exact .controller (get?_pathsOf_eq_some_iff.1 controller)
  | none =>
    have unborne := get?_pathsOf_eq_none_iff.1 controller
    cases unified : (pathsOf base (entriesOf content)).get? "" with
    | some id => exact .unified unborne (get?_pathsOf_eq_some_iff.1 unified)
    | none => exact .missing unborne (get?_pathsOf_eq_none_iff.1 unified)

/-- In a file of plain entries and blank rows every name has the path of the last entry that bears it,
joined onto the base, and `cpu` or else the unified path decides what becomes of the process. -/
theorem written_paths_found {rows : List Row} (plain : ∀ row ∈ rows, row.Plain) (base : String) (origin : Path) :
    ∃ paths, recordAll base .empty (writtenLines (contentOf rows)) = .ok paths ∧
      (∀ name path, paths.get? name = some path ↔ Gives base (rows.filterMap Row.entry?) name path) ∧
      Outcome base origin (rows.filterMap Row.entry?) paths (ofContent base origin (contentOf rows)) := by
  have legible := legible_contentOf plain
  have outcome := ofContent_outcome legible base origin
  rw [entriesOf_contentOf plain] at outcome
  refine ⟨pathsOf base (rows.filterMap Row.entry?), ?_, fun _ _ => get?_pathsOf_eq_some_iff, outcome⟩
  rw [recordAll_of_legible legible, entriesOf_contentOf plain]

/-! ### A file of both generations -/

/-- `cpu` is named twice, a path has colons in it, and blank rows stand in between. -/
def mixedRows : List Row :=
  [.blank [' ', '\t'], .entry ⟨12, ["cpu", "pids"], "/docker/old"⟩, .entry ⟨0, [], "/user.slice/1"⟩, .blank [],
    .entry ⟨4, ["name=systemd", "cpu"], "../system.slice/cri:1.service"⟩, .blank []]

theorem mixed_paths : ∃ paths,
    ofContent "/agent" "/proc/7/cgroup" (contentOf mixedRows) =
      .ok ⟨"/system.slice/cri:1.service", .v1, .systemd, "/system.slice/cri:1.service", paths⟩ ∧
      paths.get? "pids" = some "/agent/docker/old" ∧ paths.get? "" = some "/agent/user.slice/1" ∧
      paths.get? "memory" = none := by
  have plain : ∀ row ∈ mixedRows, row.Plain := by decide
  obtain ⟨paths, -, found, outcome⟩ := written_paths_found plain "/agent" "/proc/7/cgroup"
  have told : classify "/system.slice/cri:1.service" = .ok (.systemd, "/system.slice/cri:1.service") := by
    decide +kernel
  have cpu : paths.get? "cpu" = some "/system.slice/cri:1.service" :=
    (found _ _).2 ⟨⟨4, ["name=systemd", "cpu"], "../system.slice/cri:1.service"⟩,
      ⟨[⟨12, ["cpu", "pids"], "/docker/old"⟩, ⟨0, [], "/user.slice/1"⟩], [], rfl, by decide, by decide⟩,
      by decide +kernel⟩
  refine ⟨paths, ?_, (found _ _).2 ?_, (found _ _).2 ?_, ?_⟩
  · generalize ofContent "/agent" "/proc/7/cgroup" (contentOf mixedRows) = result at outcome ⊢
    cases outcome with
    | controller given =>
      cases cpu.symm.trans ((found _ _).2 given)
      rw [classified, told]
    | unified unborne given => exact absurd unborne (by decide)
    | missing unborne nowhere => exact absurd unborne (by decide)
  · exact ⟨⟨12, ["cpu", "pids"], "/docker/old"⟩, ⟨[], _, rfl, by decide, by decide⟩, by decide +kernel⟩
  · exact ⟨⟨0, [], "/user.slice/1"⟩, ⟨[_], _, rfl, by decide, by decide⟩, by decide +kernel⟩
  · rw [Option.eq_none_iff_forall_ne_some]
    intro path given
    obtain ⟨line, ⟨before, after, same, bears, -⟩, -⟩ := (found _ _).1 given
    have member : line ∈ mixedRows.filterMap Row.entry? := by simp [same]
    have unborne : Unborne (mixedRows.filterMap Row.entry?) "memory" := by decide
    exact unborne line member bears

end Attribution.Cgroup
