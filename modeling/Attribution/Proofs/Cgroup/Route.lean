import Attribution.Proofs.Cgroup.Paths

/-!
Paths in normal form.

Joining leaves segments that stand for themselves, so whatever a cgroup file holds, the path that is
selected from it is in normal form.
-/

namespace Attribution.Cgroup

variable {base content : String} {origin : Path} {cgroup : Cgroup} {paths found : Table String String}
  {texts : List String} {stack segments : List (List Char)} {segment : List Char}

/-- A segment that is neither void nor a step back. -/
structure Ordinary (segment : List Char) : Prop where
  filled : segment ≠ []
  notHere : segment ≠ ['.']
  notBack : segment ≠ ['.', '.']
  whole : '/' ∉ segment

instance (segment : List Char) : Decidable (Ordinary segment) :=
  decidable_of_iff (segment ≠ [] ∧ segment ≠ ['.'] ∧ segment ≠ ['.', '.'] ∧ '/' ∉ segment)
    ⟨fun ⟨filled, notHere, notBack, whole⟩ => ⟨filled, notHere, notBack, whole⟩,
      fun ⟨filled, notHere, notBack, whole⟩ => ⟨filled, notHere, notBack, whole⟩⟩

/-- A path in normal form: ordinary segments with a slash in front of each, or the root. -/
def Canonical (path : String) : Prop :=
  ∃ segments, (∀ segment ∈ segments, Ordinary segment) ∧ path.toList = routeText segments

theorem ordinary_climb (ordinary : ∀ segment ∈ stack, Ordinary segment) (whole : '/' ∉ segment) :
    ∀ other ∈ climb stack segment, Ordinary other := by
  unfold climb
  split
  · exact ordinary
  · rename_i speaks
    rw [not_or] at speaks
    obtain ⟨filled, notHere⟩ := speaks
    split
    · intro other member
      exact ordinary other (List.mem_of_mem_tail member)
    · rename_i notBack
      rw [List.forall_mem_cons]
      exact ⟨⟨filled, notHere, notBack, whole⟩, ordinary⟩

theorem ordinary_settle (whole : ∀ segment ∈ segments, '/' ∉ segment) :
    ∀ segment ∈ settle segments, Ordinary segment := by
  have climbed : ∀ segment ∈ segments.foldl climb [], Ordinary segment := by
    induction segments using List.reverseRecOn with
    | nil => simp
    | append_singleton segments last ih =>
      rw [List.foldl_append, List.foldl_cons, List.foldl_nil]
      apply ordinary_climb
      · exact ih fun segment member => whole segment (List.mem_append_left _ member)
      · exact whole last (by simp)
  intro segment member
  exact climbed segment (List.mem_reverse.1 member)

theorem ordinary_joined (base path : String) :
    ∀ segment ∈ settle (Text.splitOn '/' base.toList ++ Text.splitOn '/' path.toList), Ordinary segment := by
  apply ordinary_settle
  intro segment member
  rcases List.mem_append.1 member with front | back
  · exact Text.not_mem_of_mem_splitOn front
  · exact Text.not_mem_of_mem_splitOn back

theorem canonical_joinPath (base path : String) : Canonical (joinPath base path) :=
  ⟨_, ordinary_joined base path, String.toList_ofList⟩

theorem parsed_of_recordAll (done : recordAll base paths texts = .ok found) :
    ∀ text ∈ texts, ∃ line, Line.parse text = .ok line := by
  induction texts generalizing paths with
  | nil => simp
  | cons text rest ih =>
    rw [recordAll] at done
    split at done
    · rename_i line read
      rw [List.forall_mem_cons]
      exact ⟨⟨line, read⟩, ih done⟩
    · cases done

theorem legible_of_content (read : ofContent base origin content = .ok cgroup) : Legible content := by
  unfold ofContent at read
  split at read
  · cases read
  · rename_i found done
    exact parsed_of_recordAll done

theorem id_of_classified {id : String} {generation : Generation}
    (told : classified paths id generation = .ok cgroup) : cgroup.id = id := by
  unfold classified at told
  split at told
  · cases told
  · cases told
    rfl

theorem canonical_of_gives {entries : List Line} {name path : String} (given : Gives base entries name path) :
    Canonical path := by
  obtain ⟨line, -, rfl⟩ := given
  exact canonical_joinPath base line.path

theorem canonical_of_content (read : ofContent base origin content = .ok cgroup) : Canonical cgroup.id := by
  have outcome := ofContent_outcome (legible_of_content read) base origin
  generalize ofContent base origin content = result at outcome read
  cases outcome with
  | controller given => exact id_of_classified read ▸ canonical_of_gives given
  | unified unborne given => exact id_of_classified read ▸ canonical_of_gives given
  | missing unborne nowhere => cases read

end Attribution.Cgroup
