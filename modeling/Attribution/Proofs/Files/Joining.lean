import Attribution.Files.Path
import Attribution.Proofs.Text.Pieces
import Mathlib.Data.List.DropRight

/-!
Joining the paths of files.

A relative path that is joined to another stands behind it and adds the parts it has to those of the other.
Main statement: whatever is looked for on the host lies below the root of its first process.  An absolute
path does not replace that root either, because it is taken apart and made relative before.
-/

namespace Attribution.Path

open Text

variable {base sub : Path} {segments others : List (List Char)}

/-- Parts that lead from one place to another. -/
def Part.leads : Part → Bool
  | root => false
  | current => false
  | parent => true
  | name _ => true

/-! ### Void segments -/

theorem leads_partOf (segment : List Char) : (partOf segment).leads = true := by
  unfold partOf
  split <;> rfl

theorem filter_parts (path : Path) :
    path.parts.filter Part.leads = (path.segments.filter (!isVoid ·)).map partOf := by
  have own : ∀ segment ∈ path.segments.filter (!isVoid ·), (Part.leads ∘ partOf) segment = true :=
    fun segment _ => leads_partOf segment
  have front : (if path.isAbsolute then [Part.root]
      else if path.segments.head? = some ['.'] then [Part.current] else []).filter Part.leads = [] := by
    split
    · rfl
    · split <;> rfl
  rw [parts, List.filter_append, front, List.nil_append, List.filter_map, List.filter_eq_self.2 own]

theorem filter_dropWhile_isVoid (segments : List (List Char)) :
    (segments.dropWhile isVoid).filter (!isVoid ·) = segments.filter (!isVoid ·) := by
  induction segments with
  | nil => rfl
  | cons segment rest ih =>
    rw [List.dropWhile_cons]
    split
    next void => rw [ih, List.filter_cons_of_neg (by simp [void])]
    next => rfl

theorem filter_trimVoid (segments : List (List Char)) :
    (trimVoid segments).filter (!isVoid ·) = segments.filter (!isVoid ·) := by
  rw [trimVoid, List.filter_reverse, filter_dropWhile_isVoid, List.filter_reverse, List.reverse_reverse,
    filter_dropWhile_isVoid]

theorem mem_of_mem_trimVoid {segment : List Char} (kept : segment ∈ trimVoid segments) : segment ∈ segments := by
  rw [trimVoid, List.mem_reverse] at kept
  have inside := (List.dropWhile_suffix isVoid).subset kept
  rw [List.mem_reverse] at inside
  exact (List.dropWhile_suffix isVoid).subset inside

theorem isVoid_of_trimVoid {first : List Char} (kept : trimVoid segments = first :: others) :
    isVoid first = false := by
  have front : first :: others <+: segments.dropWhile isVoid := by
    rw [← kept]
    exact List.rdropWhile_prefix isVoid (segments.dropWhile isVoid)
  obtain ⟨rest, whole⟩ := front
  have stops := List.head?_dropWhile_not isVoid segments
  rw [← whole] at stops
  simpa using stops

/-! ### Absolute paths made relative -/

theorem isAbsolute_fromRoot (sub : Path) : sub.fromRoot.isAbsolute = false := by
  unfold fromRoot
  split
  next =>
    rw [isAbsolute, String.toList_ofList]
    cases kept : trimVoid sub.segments with
    | nil => rfl
    | cons first others =>
      obtain ⟨c, rest, rfl⟩ : ∃ c rest, first = c :: rest := by
        apply List.exists_cons_of_ne_nil
        rintro rfl
        exact absurd (isVoid_of_trimVoid kept) (by decide)
      have start : (joinWith '/' ((c :: rest) :: others)).head? = some c := by
        cases others <;> rfl
      have whole : '/' ∉ c :: rest :=
        not_mem_of_mem_splitOn (mem_of_mem_trimVoid (kept ▸ List.mem_cons_self))
      rw [start, beq_eq_false_iff_ne]
      rintro ⟨⟩
      exact whole List.mem_cons_self
  next relative => exact Bool.eq_false_iff.2 relative

theorem filter_segments_fromRoot (sub : Path) :
    sub.fromRoot.segments.filter (!isVoid ·) = sub.segments.filter (!isVoid ·) := by
  unfold fromRoot
  split
  next =>
    rw [← filter_trimVoid sub.segments, segments, String.toList_ofList]
    by_cases some : trimVoid sub.segments = []
    · rw [some]
      rfl
    · rw [splitOn_joinWith some fun segment kept => not_mem_of_mem_splitOn (mem_of_mem_trimVoid kept)]
  next => rfl

/-! ### Joining -/

theorem text_join (base : Path) (relative : sub.isAbsolute = false) :
    (base / sub).text = base.text ++ sub.text ∧ base.text.toList.getLast?.all (· == '/') = true ∨
      (base / sub).text = base.text ++ "/" ++ sub.text ∧ base.text.toList.getLast?.all (· == '/') = false := by
  change (join base sub).text = _ ∧ _ ∨ (join base sub).text = _ ∧ _
  rw [join, relative, if_neg Bool.false_ne_true]
  split
  next ends => exact .inl ⟨rfl, ends⟩
  next other => exact .inr ⟨rfl, Bool.eq_false_iff.2 other⟩

theorem text_join_of_open (relative : sub.isAbsolute = false) {last : Char}
    (ends : base.text.toList.getLast? = some last) (solid : last ≠ '/') :
    (base / sub).text = base.text ++ "/" ++ sub.text := by
  rcases text_join base relative with ⟨-, slash⟩ | ⟨text, -⟩
  · rw [ends, Option.all_some, beq_iff_eq] at slash
    exact absurd slash solid
  · exact text

theorem getLast?_join (some : sub.text ≠ "") :
    (base / sub).text.toList.getLast? = sub.text.toList.getLast? := by
  have filled : sub.text.toList ≠ [] := fun none => some (String.toList_inj.1 none)
  have behind : ∃ front, (base / sub).text = front ++ sub.text := by
    by_cases absolute : sub.isAbsolute = true
    · refine ⟨"", ?_⟩
      change (join base sub).text = _
      rw [join, if_pos absolute, String.empty_append]
    · rcases text_join base (Bool.eq_false_iff.2 absolute) with ⟨text, -⟩ | ⟨text, -⟩
      · exact ⟨base.text, text⟩
      · exact ⟨base.text ++ "/", text⟩
  obtain ⟨front, text⟩ := behind
  rw [text, String.toList_append, List.getLast?_append_of_ne_nil _ filled]

theorem text_join_ne_empty (some : sub.text ≠ "") : (base / sub).text ≠ "" := by
  intro none
  have ends : (base / sub).text.toList.getLast? = sub.text.toList.getLast? := getLast?_join some
  rw [none, String.toList_empty, List.getLast?_nil, eq_comm, List.getLast?_eq_none_iff] at ends
  exact some (String.toList_inj.1 ends)

/-- The segments of both paths, less the void one behind a slash at the end of the first. -/
theorem segments_join (relative : sub.isAbsolute = false) (some : base.text ≠ "") :
    ∃ front, front ≠ [] ∧ (base / sub).segments = front ++ sub.segments ∧
      (base.segments = front ∨ base.segments = front ++ [[]]) := by
  rcases text_join base relative with ⟨text, slash⟩ | ⟨text, -⟩
  · obtain ⟨front, last, whole⟩ := List.eq_nil_or_concat base.text.toList |>.resolve_left fun none =>
      some (String.toList_inj.1 none)
    rw [List.concat_eq_append] at whole
    rw [whole, List.getLast?_concat, Option.all_some, beq_iff_eq] at slash
    subst slash
    refine ⟨splitOn '/' front, splitWhen_ne_nil _ front, ?_, .inr ?_⟩
    · rw [segments, text, String.toList_append, whole, List.append_assoc, List.singleton_append,
        splitOn_append_cons]
      rfl
    · rw [segments, whole, splitOn_append_cons]
      rfl
  · refine ⟨base.segments, splitWhen_ne_nil _ _, ?_, .inl rfl⟩
    rw [segments, text, String.toList_append, String.toList_append, List.append_assoc]
    exact splitOn_append_cons '/' base.text.toList sub.text.toList

theorem isAbsolute_join (relative : sub.isAbsolute = false) (some : base.text ≠ "") :
    (base / sub).isAbsolute = base.isAbsolute := by
  have filled : base.text.toList ≠ [] := fun none => some (String.toList_inj.1 none)
  have begins : ∃ rest, (base / sub).text = base.text ++ rest := by
    rcases text_join base relative with ⟨text, -⟩ | ⟨text, -⟩
    · exact ⟨sub.text, text⟩
    · exact ⟨"/" ++ sub.text, by rw [text, String.append_assoc]⟩
  obtain ⟨rest, text⟩ := begins
  rw [isAbsolute, isAbsolute, text, String.toList_append, List.head?_append_of_ne_nil _ filled]

theorem parts_join (relative : sub.isAbsolute = false) (some : base.text ≠ "") :
    (base / sub).parts = base.parts ++ sub.parts.filter Part.leads := by
  obtain ⟨front, begun, joined, own⟩ := segments_join relative some
  have head : (base / sub).segments.head? = base.segments.head? := by
    rw [joined, List.head?_append_of_ne_nil _ begun]
    rcases own with own | own
    · rw [own]
    · rw [own, List.head?_append_of_ne_nil _ begun]
  have kept : (base / sub).segments.filter (!isVoid ·) =
      base.segments.filter (!isVoid ·) ++ sub.segments.filter (!isVoid ·) := by
    rw [joined, List.filter_append]
    rcases own with own | own
    · rw [own]
    · rw [own, List.filter_append]
      simp [isVoid]
  rw [filter_parts, parts, parts, isAbsolute_join relative some, head, kept, List.map_append, List.append_assoc]

/-! ### Below the root of the first process -/

theorem ofPid_root (root : Path) : ofPid root 1 ["root"] = root / ⟨"1"⟩ / ⟨"root"⟩ := by
  have one : decimalString (1 : UInt32).toNat = "1" := by
    rw [decimalString, decimal]
    rfl
  rw [ofPid, one]
  rfl

theorem parts_ofPid_root (root : Path) :
    (ofPid root 1 ["root"]).parts = root.parts ++ [.name ['1'], .name "root".toList] := by
  have first : (root / ⟨"1"⟩).parts = root.parts ++ [.name ['1']] := by
    by_cases some : root.text = ""
    · obtain ⟨text⟩ := root
      subst some
      rfl
    · rw [parts_join rfl some]
      rfl
  have filled : (root / ⟨"1"⟩).text ≠ "" := text_join_ne_empty (by decide)
  rw [ofPid_root, parts_join rfl filled, first, List.append_assoc]
  rfl

/-- What is looked for on the host is written behind the root of its first process and one slash, and leads
from there where it would lead from the top. -/
theorem onHost_stays_below (root sub : Path) :
    (∃ rest : Path, (onHost root sub).text = (ofPid root 1 ["root"]).text ++ "/" ++ rest.text ∧
        rest.isAbsolute = false) ∧
      (onHost root sub).parts = (ofPid root 1 ["root"]).parts ++ sub.parts.filter Part.leads ∧
      (ofPid root 1 ["root"]).parts = root.parts ++ [.name ['1'], .name "root".toList] := by
  have last : (ofPid root 1 ["root"]).text.toList.getLast? = some 't' := by
    rw [ofPid_root]
    exact getLast?_join (by decide)
  have relative := isAbsolute_fromRoot sub
  refine ⟨⟨sub.fromRoot, text_join_of_open relative last (by decide), relative⟩, ?_, parts_ofPid_root root⟩
  have filled : (ofPid root 1 ["root"]).text ≠ "" := by
    rw [ofPid_root]
    exact text_join_ne_empty (by decide)
  rw [onHost, parts_join relative filled, filter_parts, filter_parts, filter_segments_fromRoot]

example : (onHost "/proc" "//run/./docker.sock/.").text = "/proc/1/root/run/./docker.sock" := by decide +kernel

end Attribution.Path
