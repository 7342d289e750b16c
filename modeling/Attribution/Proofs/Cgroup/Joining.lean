import Attribution.Proofs.Cgroup.Relative

/-!
Joining paths.

What is joined is in normal form: it begins with a slash, no segment is void or leads back, and no slash
ends it unless it is the root.  Main statement: joining leaves just the paths in normal form as they are,
and joining one path after another comes to joining both at once, so a path can be put in normal form
anywhere on the way.
-/

namespace Attribution.Cgroup

variable {path : String}

/-- A path in normal form, told by its text. -/
structure NormalForm (path : String) : Prop where
  rooted : path.toList.head? = some '/'
  settled : path = "/" ∨ path.toList.getLast? ≠ some '/' ∧
    ∀ segment ∈ (Text.splitOn '/' path.toList).tail, segment ≠ [] ∧ segment ≠ ['.'] ∧ segment ≠ outward

/-! ### Paths in normal form -/

theorem getLast?_slashes (front : List (List Char)) {last : List Char} (filled : last ≠ []) :
    ((front ++ [last]).flatMap ('/' :: ·)).getLast? = last.getLast? := by
  rw [List.flatMap_append, List.flatMap_singleton, List.getLast?_append_of_ne_nil _ (List.cons_ne_nil _ _),
    List.getLast?_cons_of_ne_nil filled]

theorem Canonical.normalForm (canonical : Canonical path) : NormalForm path := by
  obtain ⟨segments, ordinary, text⟩ := canonical
  cases segments using List.reverseRecOn with
  | nil => exact ⟨by rw [text]; rfl, .inl (String.toList_inj.1 text)⟩
  | append_singleton front last =>
    have whole : ∀ segment ∈ front ++ [last], '/' ∉ segment :=
      fun segment member => (ordinary segment member).whole
    have written : path.toList = (front ++ [last]).flatMap ('/' :: ·) := by
      rw [text, routeText, if_neg (by simp)]
    have final : Ordinary last := ordinary last (by simp)
    refine ⟨?_, .inr ⟨?_, ?_⟩⟩
    · rw [written]
      cases front <;> rfl
    · rw [written, getLast?_slashes front final.filled]
      intro slash
      exact final.whole (List.mem_of_getLast? slash)
    · rw [written, splitOn_slashes whole, List.tail_cons]
      intro segment member
      have kept := ordinary segment member
      exact ⟨kept.filled, kept.notHere, kept.notBack⟩

theorem NormalForm.canonical (normal : NormalForm path) : Canonical path := by
  rcases normal.settled with rfl | ⟨-, kept⟩
  · exact ⟨[], by simp, by decide⟩
  · obtain ⟨rest, text⟩ := List.head?_eq_some_iff.1 normal.rooted
    have cut : Text.splitOn '/' path.toList = [] :: Text.splitOn '/' rest := by
      rw [text]
      rfl
    rw [cut, List.tail_cons] at kept
    refine ⟨Text.splitOn '/' rest, ?_, ?_⟩
    · intro segment member
      obtain ⟨filled, notHere, notBack⟩ := kept segment member
      exact ⟨filled, notHere, notBack, Text.not_mem_of_mem_splitOn member⟩
    · have some : Text.splitOn '/' rest ≠ [] := Text.splitWhen_ne_nil _ rest
      rw [routeText, if_neg (by simpa using some), ← List.nil_append (List.flatMap _ _), slashes_eq_joinWith,
        ← cut, Text.joinWith_splitOn]

/-! ### Joining more than once -/

theorem joinPath_of_canonical (canonical : Canonical path) : joinPath "" path = path := by
  obtain ⟨segments, ordinary, text⟩ := canonical
  have same : path = pathText segments := by rw [pathText, ← text, String.ofList_toList]
  have joined : joinPath "" (seenFrom [] segments) = pathText ([] ++ segments) :=
    joinPath_seenFrom (by simpa using ordinary) (.inr ⟨rfl, rfl⟩)
  rw [same]
  exact joined

/-- A joined path leads where its two parts lead one after the other. -/
theorem climb_joinPath (base path : String) : (Text.splitOn '/' (joinPath base path).toList).foldl climb [] =
    (Text.splitOn '/' base.toList ++ Text.splitOn '/' path.toList).foldl climb [] := by
  have ordinary := ordinary_joined base path
  change (Text.splitOn '/' (pathText (settle _)).toList).foldl climb [] = _
  rw [climb_pathText fun segment member => (ordinary segment member).whole, foldl_climb_ordinary ordinary, settle,
    List.reverse_reverse, List.append_nil]

theorem joinPath_joinPath (base path more : String) :
    joinPath (joinPath base path) more = joinPath base (path ++ "/" ++ more) := by
  have cut : Text.splitOn '/' (path ++ "/" ++ more).toList =
      Text.splitOn '/' path.toList ++ Text.splitOn '/' more.toList := by
    rw [String.toList_append, String.toList_append, List.append_assoc]
    exact Text.splitOn_append_cons '/' path.toList more.toList
  have climbed : (Text.splitOn '/' (joinPath base path).toList ++ Text.splitOn '/' more.toList).foldl climb [] =
      (Text.splitOn '/' base.toList ++ Text.splitOn '/' (path ++ "/" ++ more).toList).foldl climb [] := by
    rw [List.foldl_append, climb_joinPath, ← List.foldl_append, List.append_assoc, cut]
  rw [joinPath, settle, climbed]
  rfl

/-- What is joined is in normal form, which joining once more does not change; only paths in normal form are
left as they are; and joining in two steps comes to joining at once. -/
theorem joined_paths_compose :
    (∀ base path, NormalForm (joinPath base path)) ∧
      (∀ path, joinPath "" path = path ↔ NormalForm path) ∧
      (∀ base path, joinPath "" (joinPath base path) = joinPath base path) ∧
      ∀ base path more, joinPath (joinPath base path) more = joinPath base (path ++ "/" ++ more) := by
  refine ⟨fun base path => (canonical_joinPath base path).normalForm, ?_,
    fun base path => joinPath_of_canonical (canonical_joinPath base path), joinPath_joinPath⟩
  intro path
  constructor
  · intro same
    rw [← same]
    exact (canonical_joinPath "" path).normalForm
  · intro normal
    exact joinPath_of_canonical normal.canonical

end Attribution.Cgroup
