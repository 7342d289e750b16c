import Attribution.Cgroup.Kind
import Attribution.Proofs.Text.Search
import Mathlib.Data.List.TakeWhile

/-!
What a path can be taken for.

The id of a container is 64 lower-case letters and digits, a service is known by its slice and its unit,
and nothing else has an id.
-/

namespace Attribution

namespace Cgroup

variable {kind : Kind} {path id : String} {text found : List Char}

/-- The id that a runtime gives to a container. -/
structure IsContainerId (id : String) : Prop where
  length : id.toList.length = idLength
  chars : ∀ c ∈ id.toList, isIdChar c = true

/-- A unit in one of the slices of services. -/
def IsUnit (unit : String) : Prop :=
  ∃ slice ∈ ["/system.slice/", "/runtime.slice/"], ∃ name : String,
    name ≠ "" ∧ '/' ∉ name.toList ∧ unit = slice ++ name

/-- Which ids go with which kinds. -/
inductive Told : Kind → String → Prop where
  | standalone : Told .standalone ""
  | sandbox : Told .sandbox ""
  | docker {id : String} (named : IsContainerId id) : Told .docker id
  | containerd {id : String} (named : IsContainerId id) : Told .containerd id
  | systemd {unit : String} (named : IsUnit unit) : Told .systemd unit

theorem idAt_eq_some_iff : idAt text = some found ↔ IsContainerId (String.ofList found) ∧ found <+: text := by
  constructor
  · intro read
    simp only [idAt] at read
    split at read
    · rename_i fits
      cases read
      obtain ⟨length, chars⟩ := fits
      refine ⟨⟨by rw [String.toList_ofList, length], ?_⟩, List.take_prefix _ _⟩
      rw [String.toList_ofList]
      exact List.all_eq_true.1 chars
    · cases read
  · rintro ⟨⟨length, chars⟩, rest, rfl⟩
    rw [String.toList_ofList] at length chars
    have taken : (found ++ rest).take idLength = found := by
      rw [← length, List.take_left']
      rfl
    simp only [idAt, taken]
    rw [if_pos ⟨length, List.all_eq_true.2 chars⟩]

theorem isContainerId_of_idAt (read : idAt text = some found) : IsContainerId (String.ofList found) :=
  (idAt_eq_some_iff.1 read).1

/-- What marks the scope of a container under containerd. -/
def scopeMark : List Char := "cri-containerd".toList

theorem containerdIdAt_eq_some_iff : containerdIdAt text = some found ↔
    IsContainerId (String.ofList found) ∧ ∃ separator ∈ ['-', ':'], scopeMark ++ separator :: found <+: text := by
  constructor
  · intro read
    have marked {separator : Char} {rest : List Char} (listed : separator ∈ ['-', ':'])
        (strip : Text.strip scopeMark text = some (separator :: rest)) (read : idAt rest = some found) :
        IsContainerId (String.ofList found) ∧
          ∃ separator ∈ ['-', ':'], scopeMark ++ separator :: found <+: text := by
      obtain ⟨named, starts⟩ := idAt_eq_some_iff.1 read
      refine ⟨named, separator, listed, ?_⟩
      rwa [Text.strip_eq_some_iff.1 strip, List.prefix_append_right_inj, List.prefix_cons_inj]
    unfold containerdIdAt at read
    split at read
    · rename_i strip
      exact marked (by simp) strip read
    · rename_i strip
      exact marked (by simp) strip read
    · cases read
  · rintro ⟨named, separator, listed, rest, rfl⟩
    have strip : Text.strip "cri-containerd".toList (scopeMark ++ separator :: found ++ rest) =
        some (separator :: (found ++ rest)) := by
      rw [Text.strip_eq_some_iff, List.append_assoc]
      rfl
    have starts : idAt (found ++ rest) = some found := idAt_eq_some_iff.2 ⟨named, List.prefix_append _ _⟩
    unfold containerdIdAt
    rw [strip]
    simp only [List.mem_cons, List.not_mem_nil, or_false] at listed
    rcases listed with rfl | rfl <;> exact starts

theorem isContainerId_of_containerdIdAt (read : containerdIdAt text = some found) :
    IsContainerId (String.ofList found) :=
  (containerdIdAt_eq_some_iff.1 read).1

theorem isUnit_of_unitAt (read : unitAt text = some found) : IsUnit (String.ofList found) := by
  obtain ⟨slice, listed, here⟩ := List.exists_of_findSome?_eq_some read
  obtain ⟨rest, -, unit⟩ := Option.bind_eq_some_iff.1 here
  dsimp only at unit
  split at unit
  · cases unit
  · rename_i filled
    cases unit
    refine ⟨slice, listed, String.ofList (rest.takeWhile (· ≠ '/')), ?_, ?_, ?_⟩
    · intro void
      apply filled
      rw [← String.toList_ofList (l := rest.takeWhile (· ≠ '/')), void]
      rfl
    · rw [String.toList_ofList]
      intro member
      simpa using List.mem_takeWhile_imp member
    · rw [← String.toList_inj]
      simp

theorem told_of_classify (told : classify path = .ok (kind, id)) : Told kind id := by
  simp only [classify] at told
  split at told
  · split_ifs at told with session docker pods service
    · cases told
      exact .standalone
    · cases read : Text.firstMatch idAt path.toList with
      | none => simp [read] at told
      | some found =>
        rw [read] at told
        cases told
        obtain ⟨rest, here⟩ := Text.read_of_firstMatch read
        exact .docker (isContainerId_of_idAt here)
    · cases scope : Text.firstMatch containerdIdAt path.toList with
      | some found =>
        rw [scope] at told
        cases told
        obtain ⟨rest, here⟩ := Text.read_of_firstMatch scope
        exact .containerd (isContainerId_of_containerdIdAt here)
      | none =>
        cases read : Text.firstMatch idAt path.toList with
        | some found =>
          rw [scope, read] at told
          cases told
          obtain ⟨rest, here⟩ := Text.read_of_firstMatch read
          exact .docker (isContainerId_of_idAt here)
        | none =>
          rw [scope, read] at told
          cases told
          exact .sandbox
    · cases unit : Text.firstMatch unitAt path.toList with
      | none => simp [unit] at told
      | some found =>
        rw [unit] at told
        cases told
        obtain ⟨rest, here⟩ := Text.read_of_firstMatch unit
        exact .systemd (isUnit_of_unitAt here)
  · cases told
    exact .standalone

end Cgroup

end Attribution
