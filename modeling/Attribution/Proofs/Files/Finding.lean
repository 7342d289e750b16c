import Attribution.Files.Tree
import Mathlib.Data.List.Basic

/-!
Where names lead.

A path of names leads through directories to what stands behind the last of them.
-/

namespace Attribution

/-- A path that is written as names with a slash in front of each, none of them too long. -/
def Path.IsTo (path : Path) (names : Files.Location) : Prop :=
  path.segments = [] :: names.map String.toList ∧ path.text ≠ "" ∧ '\x00' ∉ path.text.toList ∧
    path.text.utf8ByteSize ≤ 4095 ∧
    ∀ name ∈ names, Path.isVoid name.toList = false ∧ name.toList ≠ ['.', '.'] ∧ name.utf8ByteSize ≤ 255

instance (path : Path) (names : Files.Location) : Decidable (path.IsTo names) :=
  inferInstanceAs (Decidable (_ ∧ _))

namespace Files.Tree

variable {tree : Tree} {names place : Location} {entry : Entry} {path : Path}

theorem walk_name {followLast : Bool} {links : Nat} {segment : List Char} {rest : List (List Char)}
    (named : ¬Path.isVoid segment = true) (inward : segment ≠ ['.', '.'])
    (short : ¬255 < (String.ofList segment).utf8ByteSize) :
    tree.walk followLast links place (segment :: rest) =
      match tree.entryAt? (place ++ [String.ofList segment]) with
      | none => .error .notFound
      | some .directory => tree.walk followLast links (place ++ [String.ofList segment]) rest
      | some (.link target) =>
        if rest.isEmpty && !followLast then .ok (place ++ [String.ofList segment], .link target)
        else
          match links with
          | 0 => .error .linkLoop
          | links + 1 =>
            tree.walk followLast links (if Path.isAbsolute ⟨target⟩ then [] else place)
              (Path.segments ⟨target⟩ ++ rest)
      | some entry =>
        if rest.isEmpty then .ok (place ++ [String.ofList segment], entry) else .error .notDirectory := by
  rw [walk, if_neg named, if_neg inward]
  exact if_neg short

theorem walk_names {links : Nat}
    (proper : ∀ name ∈ names,
      Path.isVoid name.toList = false ∧ name.toList ≠ ['.', '.'] ∧ name.utf8ByteSize ≤ 255)
    (inner : ∀ n < names.length, n ≠ 0 → tree.entryAt? (place ++ names.take n) = some .directory)
    (stands : tree.entryAt? (place ++ names) = some entry) (whole : ∀ target, entry ≠ .link target) :
    tree.walk true links place (names.map String.toList) = .ok (place ++ names, entry) := by
  induction names generalizing place with
  | nil =>
    rw [List.append_nil] at stands
    rw [List.map_nil, List.append_nil, walk, stands]
  | cons name rest ih =>
    obtain ⟨named, inward, short⟩ := proper name List.mem_cons_self
    rw [List.append_cons] at stands
    have within : ∀ n < rest.length, n ≠ 0 →
        tree.entryAt? (place ++ [name] ++ rest.take n) = some .directory := by
      intro n inside _
      simpa using inner (n + 1) (by simpa using inside) (Nat.succ_ne_zero n)
    have behind := ih (fun other listed => proper other (List.mem_cons_of_mem name listed)) within stands
    rw [List.map_cons, walk_name (by simp [named]) inward (by simpa using short), String.ofList_toList]
    cases rest with
    | nil =>
      rw [List.append_nil] at stands
      rw [stands]
      cases entry with
      | directory => simpa using behind
      | link target => exact absurd rfl (whole target)
      | _ => rfl
    | cons next rest =>
      have opened : tree.entryAt? (place ++ [name]) = some .directory := by
        simpa using inner 1 (by simp) Nat.one_ne_zero
      rw [opened]
      simpa using behind

theorem find_names (written : path.IsTo names)
    (inner : ∀ n < names.length, n ≠ 0 → tree.entryAt? (names.take n) = some .directory)
    (stands : tree.entryAt? names = some entry) (whole : ∀ target, entry ≠ .link target) :
    tree.find true path = .ok (names, entry) := by
  obtain ⟨segments, filled, textual, short, proper⟩ := written
  rw [find, if_neg filled, if_neg textual, if_neg (Nat.not_lt.mpr short), segments, walk, if_pos (by decide)]
  exact walk_names proper inner stands whole

end Files.Tree

end Attribution
