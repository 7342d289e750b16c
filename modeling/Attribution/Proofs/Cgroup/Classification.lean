import Attribution.Proofs.Cgroup.Joining
import Attribution.Proofs.Cgroup.Kind

/-!
How paths in normal form are classified.

The rules look at a path in two ways: at its first two segments, and at its whole text, in which ids are
searched for from anywhere.  In a path in normal form the two agree, so what a path is taken for can be
told rule by rule.  Main statements: what is found stands where the segments say, a service has always
its unit, and a pod's path leads to the leftmost containerd scope before any other id is looked at.
-/

namespace Attribution.Cgroup

variable {path : String} {text before id : List Char} {first second : List Char}
  {segments rest : List (List Char)} {result : Except KindError (Kind × String)}

/-! ### What paths look like -/

/-- A session of a user, or what is started outside of all units. -/
def IsSession (first : List Char) : Prop :=
  first = "user.slice".toList ∨ first = "init.scope".toList

/-- A cgroup in docker's own hierarchy, or one that the system keeps for docker. -/
def IsDockers (first second : List Char) : Prop :=
  first = "docker".toList ∨ first = "system.slice".toList ∧ "docker-".toList <+: second

def IsServiceSlice (first : List Char) : Prop :=
  first = "system.slice".toList ∨ first = "runtime.slice".toList

def InPod (path : String) : Prop :=
  "kubepods".toList <:+: path.toList

/-! ### What is searched for -/

/-- The id of a container stands in a text behind `before`. -/
def IdBehind (text before id : List Char) : Prop :=
  IsContainerId (String.ofList id) ∧ before ++ id <+: text

/-- A containerd scope with the id of its container stands in a text behind `before`. -/
def ScopeBehind (text before id : List Char) : Prop :=
  IsContainerId (String.ofList id) ∧ ∃ separator ∈ ['-', ':'], before ++ (scopeMark ++ separator :: id) <+: text

theorem prefix_rest_iff {start : List Char} :
    (∃ rest, text = before ++ rest ∧ start <+: rest) ↔ before ++ start <+: text := by
  constructor
  · rintro ⟨rest, rfl, starts⟩
    exact (List.prefix_append_right_inj before).2 starts
  · rintro ⟨tail, rfl⟩
    exact ⟨start ++ tail, List.append_assoc _ _ _, List.prefix_append _ _⟩

theorem reads_idAt : Text.Reads idAt text = IdBehind text := by
  funext before id
  simp only [Text.Reads, idAt_eq_some_iff, IdBehind, ← prefix_rest_iff, eq_iff_iff]
  constructor
  · rintro ⟨rest, whole, named, starts⟩
    exact ⟨named, rest, whole, starts⟩
  · rintro ⟨named, rest, whole, starts⟩
    exact ⟨rest, whole, named, starts⟩

theorem reads_containerdIdAt : Text.Reads containerdIdAt text = ScopeBehind text := by
  funext before id
  simp only [Text.Reads, containerdIdAt_eq_some_iff, ScopeBehind, ← prefix_rest_iff, eq_iff_iff]
  constructor
  · rintro ⟨rest, whole, named, separator, listed, starts⟩
    exact ⟨named, separator, listed, rest, whole, starts⟩
  · rintro ⟨named, separator, listed, rest, whole, starts⟩
    exact ⟨rest, whole, named, separator, listed, starts⟩

theorem IdBehind.whole (stands : IdBehind text before id) : '/' ∉ id := by
  intro slash
  exact absurd (stands.1.chars '/' (by rwa [String.toList_ofList])) (by decide)

/-! ### The segments of a path -/

theorem segmentsOf_slashes (ordinary : ∀ segment ∈ first :: rest, Ordinary segment) :
    segmentsOf ((first :: rest).flatMap ('/' :: ·)) = first :: rest := by
  have whole : ∀ segment ∈ first :: rest, '/' ∉ segment := fun segment member => (ordinary segment member).whole
  have begins := ordinary first List.mem_cons_self
  obtain ⟨c, others, rfl⟩ := List.exists_cons_of_ne_nil begins.filled
  have other : c ≠ '/' := by
    rintro rfl
    exact begins.whole List.mem_cons_self
  have dropped : (((c :: others) :: rest).flatMap ('/' :: ·)).dropWhile (· == '/') =
      Text.joinWith '/' ((c :: others) :: rest) := by
    rw [← slashes_eq_joinWith, List.flatMap_cons, List.cons_append, List.dropWhile_cons_of_pos (by rfl),
      List.cons_append, List.dropWhile_cons_of_neg (by simpa using other)]
  rw [segmentsOf, dropped, Text.splitOn_joinWith (List.cons_ne_nil _ _) whole]

theorem takeWhile_slashes (whole : '/' ∉ second) (rest : List (List Char)) :
    (second ++ rest.flatMap ('/' :: ·)).takeWhile (· ≠ '/') = second := by
  rw [List.takeWhile_append_of_pos]
  · cases rest <;> simp
  · intro c member
    rw [decide_eq_true_eq]
    rintro rfl
    exact whole member

theorem unitAt_slashes (slice : IsServiceSlice first) (ordinary : Ordinary second) (rest : List (List Char)) :
    unitAt ((first :: second :: rest).flatMap ('/' :: ·)) = some (routeText [first, second]) := by
  have unit := takeWhile_slashes ordinary.whole rest
  rcases slice with rfl | rfl
  · have strip : Text.strip "/system.slice/".toList
        (("system.slice".toList :: second :: rest).flatMap ('/' :: ·)) =
          some (second ++ rest.flatMap ('/' :: ·)) := by
      rw [Text.strip_eq_some_iff]
      rfl
    simp only [unitAt, List.findSome?_cons, strip, Option.bind_some, unit, if_neg ordinary.filled]
    simp [routeText]
  · have foreign : Text.strip "/system.slice/".toList
        (("runtime.slice".toList :: second :: rest).flatMap ('/' :: ·)) = none := rfl
    have strip : Text.strip "/runtime.slice/".toList
        (("runtime.slice".toList :: second :: rest).flatMap ('/' :: ·)) =
          some (second ++ rest.flatMap ('/' :: ·)) := by
      rw [Text.strip_eq_some_iff]
      rfl
    simp only [unitAt, List.findSome?_cons, foreign, strip, Option.bind_none, Option.bind_some, unit,
      if_neg ordinary.filled]
    simp [routeText]

/-! ### The rules -/

/-- What is made of a path by its first two segments and by what is found in it. -/
inductive Ruling (path : String) (first second : List Char) : Except KindError (Kind × String) → Prop where
  | session (user : IsSession first) : Ruling path first second (.ok (.standalone, ""))
  | docker {before id : List Char} (noSession : ¬IsSession first) (own : IsDockers first second)
      (found : Text.First (IdBehind path.toList) before id) :
      Ruling path first second (.ok (.docker, String.ofList id))
  | unnamed (noSession : ¬IsSession first) (own : IsDockers first second)
      (nothing : ∀ before id, ¬IdBehind path.toList before id) :
      Ruling path first second (.error (.invalidDocker path))
  | scope {before id : List Char} (noSession : ¬IsSession first) (foreign : ¬IsDockers first second)
      (pod : InPod path) (found : Text.First (ScopeBehind path.toList) before id) :
      Ruling path first second (.ok (.containerd, String.ofList id))
  | bare {before id : List Char} (noSession : ¬IsSession first) (foreign : ¬IsDockers first second)
      (pod : InPod path) (noScope : ∀ before id, ¬ScopeBehind path.toList before id)
      (found : Text.First (IdBehind path.toList) before id) :
      Ruling path first second (.ok (.docker, String.ofList id))
  | sandbox (noSession : ¬IsSession first) (foreign : ¬IsDockers first second) (pod : InPod path)
      (noScope : ∀ before id, ¬ScopeBehind path.toList before id)
      (nothing : ∀ before id, ¬IdBehind path.toList before id) : Ruling path first second (.ok (.sandbox, ""))
  | service (noSession : ¬IsSession first) (foreign : ¬IsDockers first second) (noPod : ¬InPod path)
      (slice : IsServiceSlice first) : Ruling path first second (.ok (.systemd, pathText [first, second]))
  | unknown (noSession : ¬IsSession first) (foreign : ¬IsDockers first second) (noPod : ¬InPod path)
      (noSlice : ¬IsServiceSlice first) : Ruling path first second (.error (.unknownContainer path))

theorem toList_pathText_cons (first : List Char) (rest : List (List Char)) :
    (pathText (first :: rest)).toList = (first :: rest).flatMap ('/' :: ·) :=
  String.toList_ofList

/-- A path with at least two segments is taken for what the rules say, in their order. -/
theorem classify_ruling (ordinary : ∀ segment ∈ first :: second :: rest, Ordinary segment) :
    Ruling (pathText (first :: second :: rest)) first second (classify (pathText (first :: second :: rest))) := by
  have cut : segmentsOf (pathText (first :: second :: rest)).toList = first :: second :: rest := by
    rw [toList_pathText_cons, segmentsOf_slashes ordinary]
  have unit (slice : IsServiceSlice first) : Text.firstMatch unitAt (pathText (first :: second :: rest)).toList =
      some (routeText [first, second]) := by
    rw [toList_pathText_cons]
    exact Text.firstMatch_of_start (unitAt_slashes slice (ordinary second (by simp)) rest)
  generalize pathText (first :: second :: rest) = path at cut unit ⊢
  simp only [classify, cut, Text.isSome_strip_iff, Text.occursIn_iff]
  split_ifs with user own pod slice
  · exact .session user
  · cases read : Text.firstMatch idAt path.toList with
    | some id =>
      obtain ⟨before, found⟩ := Text.first_of_firstMatch read
      exact .docker user own (reads_idAt ▸ found)
    | none => exact .unnamed user own (reads_idAt ▸ Text.not_reads_of_firstMatch read)
  · cases scope : Text.firstMatch containerdIdAt path.toList with
    | some id =>
      obtain ⟨before, found⟩ := Text.first_of_firstMatch scope
      exact .scope user own pod (reads_containerdIdAt ▸ found)
    | none =>
      have noScope := reads_containerdIdAt ▸ Text.not_reads_of_firstMatch scope
      cases read : Text.firstMatch idAt path.toList with
      | some id =>
        obtain ⟨before, found⟩ := Text.first_of_firstMatch read
        exact .bare user own pod noScope (reads_idAt ▸ found)
      | none => exact .sandbox user own pod noScope (reads_idAt ▸ Text.not_reads_of_firstMatch read)
  · rw [unit slice]
    exact .service user own pod slice
  · exact .unknown user own pod slice

theorem classify_short (ordinary : ∀ segment ∈ segments, Ordinary segment) (short : segments.length < 2) :
    classify (pathText segments) = .ok (.standalone, "") := by
  rcases segments with _ | ⟨only, _ | ⟨next, others⟩⟩
  · decide +kernel
  · rw [classify, toList_pathText_cons, segmentsOf_slashes ordinary]
  · simp only [List.length_cons] at short
    omega

/-! ### Ids and segments -/

theorem ScopeBehind.idBehind (stands : ScopeBehind text before id) : ∃ front, IdBehind text front id := by
  obtain ⟨named, separator, -, starts⟩ := stands
  refine ⟨before ++ (scopeMark ++ [separator]), named, ?_⟩
  simpa using starts

theorem mem_of_mem_splitOn {piece : List Char} (whole : ∀ segment ∈ segments, '/' ∉ segment)
    (member : piece ∈ Text.splitOn '/' (pathText segments).toList) : piece = [] ∨ piece ∈ segments := by
  cases segments with
  | nil =>
    have pieces : Text.splitOn '/' (pathText []).toList = [[], []] := by decide
    simpa [pieces] using member
  | cons first rest =>
    rw [toList_pathText_cons, splitOn_slashes whole] at member
    exact List.mem_cons.1 member

/-- An id has no slash, so it stands within one of the segments. -/
theorem IdBehind.within (stands : IdBehind (pathText segments).toList before id)
    (ordinary : ∀ segment ∈ segments, Ordinary segment) : ∃ segment ∈ segments, id <:+: segment := by
  have inside : id <:+: (pathText segments).toList :=
    (List.suffix_append before id).isInfix.trans stands.2.isInfix
  obtain ⟨piece, listed, within⟩ := Text.infix_splitOn stands.whole inside
  rcases mem_of_mem_splitOn (fun segment member => (ordinary segment member).whole) listed with rfl | member
  · rw [List.infix_nil.1 within] at stands
    exact absurd stands.1.length (by decide)
  · exact ⟨piece, member, within⟩

/-! ### What paths are taken for -/

/-- What a path with these segments can be taken for. -/
structure WellFormed (segments : List (List Char)) (result : Except KindError (Kind × String)) : Prop where
  standalone : ∀ id, result = .ok (.standalone, id) ↔
    id = "" ∧ (segments.length < 2 ∨ ∃ first ∈ segments.head?, IsSession first)
  systemd : ∀ unit, result = .ok (.systemd, unit) →
    ∃ first second rest, segments = first :: second :: rest ∧ IsServiceSlice first ∧ unit = pathText [first, second]
  container : ∀ kind ∈ [Kind.docker, Kind.containerd], ∀ id, result = .ok (kind, id) →
    IsContainerId id ∧ ∃ segment ∈ segments, id.toList <:+: segment
  sandbox : ∀ id, result = .ok (.sandbox, id) →
    id = "" ∧ InPod (pathText segments) ∧ ∀ before run, ¬IdBehind (pathText segments).toList before run
  failure : ∀ failure, result = .error failure → failure = .unknownContainer (pathText segments) ∨
    failure = .invalidDocker (pathText segments) ∧
      ∃ first second rest, segments = first :: second :: rest ∧ IsDockers first second

theorem wellFormed_of_short (short : segments.length < 2) : WellFormed segments (.ok (.standalone, "")) where
  standalone := by simp [short, eq_comm]
  systemd := by simp
  container := by simp
  sandbox := by simp
  failure := by simp

theorem Ruling.wellFormed (ruling : Ruling (pathText (first :: second :: rest)) first second result)
    (ordinary : ∀ segment ∈ first :: second :: rest, Ordinary segment) :
    WellFormed (first :: second :: rest) result where
  standalone id := by
    cases ruling with
    | session user => simp [user, eq_comm]
    | docker noSession | unnamed noSession | scope noSession | bare noSession | sandbox noSession
    | service noSession | unknown noSession => simp [noSession]
  systemd unit told := by
    cases ruling with
    | service noSession foreign noPod slice =>
      cases told
      exact ⟨first, second, rest, rfl, slice, rfl⟩
    | _ => cases told
  container kind listed id told := by
    have named {before found : List Char}
        (stands : IdBehind (pathText (first :: second :: rest)).toList before found) :
        IsContainerId (String.ofList found) ∧
          ∃ segment ∈ first :: second :: rest, (String.ofList found).toList <:+: segment := by
      rw [String.toList_ofList]
      exact ⟨stands.1, stands.within ordinary⟩
    cases ruling with
    | docker noSession own found | bare noSession foreign pod noScope found =>
      cases told
      exact named found.here
    | scope noSession foreign pod found =>
      cases told
      obtain ⟨front, stands⟩ := found.here.idBehind
      exact named stands
    | session | sandbox | service =>
      cases told
      simp at listed
    | unnamed | unknown => cases told
  sandbox id told := by
    cases ruling with
    | sandbox noSession foreign pod noScope nothing =>
      cases told
      exact ⟨rfl, pod, nothing⟩
    | _ => cases told
  failure failure told := by
    cases ruling with
    | unnamed noSession own nothing =>
      cases told
      exact .inr ⟨rfl, first, second, rest, rfl, own⟩
    | unknown =>
      cases told
      exact .inl rfl
    | _ => cases told

/-- Whatever is joined, what the path is taken for fits its segments: a service is its slice and its unit, the
id of a container stands within one segment, only short paths and sessions stand alone, a sandbox has no id,
and nothing fails but a cgroup of docker's without an id and a path that fits no rule. -/
theorem joined_paths_classified (base path : String) : ∃ segments, (∀ segment ∈ segments, Ordinary segment) ∧
    joinPath base path = pathText segments ∧ WellFormed segments (classify (joinPath base path)) := by
  obtain ⟨segments, ordinary, same⟩ : ∃ segments, (∀ segment ∈ segments, Ordinary segment) ∧
      joinPath base path = pathText segments := ⟨_, ordinary_joined base path, rfl⟩
  refine ⟨segments, ordinary, same, ?_⟩
  rw [same]
  match segments, ordinary with
  | [], ordinary | [_], ordinary =>
    rw [classify_short ordinary (by simp)]
    exact wellFormed_of_short (by simp)
  | _ :: _ :: _, ordinary => exact (classify_ruling ordinary).wellFormed ordinary

/-! ### Pods -/

/-- The path of a pod leads to the leftmost containerd scope, whatever other ids are in it; without a scope to
the leftmost id, as docker's; and without any id to the sandbox of the pod.  It is never a service. -/
theorem pods_prefer_scopes (ordinary : ∀ segment ∈ first :: second :: rest, Ordinary segment)
    (pod : InPod (pathText (first :: second :: rest))) (noSession : ¬IsSession first)
    (noDocker : first ≠ "docker".toList)
    (noUnit : ¬"/system.slice/docker-".toList <+: (pathText (first :: second :: rest)).toList) :
    let path := pathText (first :: second :: rest)
    ((∃ front other, ScopeBehind path.toList front other) → ∃ before id,
        Text.First (ScopeBehind path.toList) before id ∧ classify path = .ok (.containerd, String.ofList id)) ∧
      ((¬∃ front other, ScopeBehind path.toList front other) → (∃ front other, IdBehind path.toList front other) →
        ∃ before id, Text.First (IdBehind path.toList) before id ∧
          classify path = .ok (.docker, String.ofList id)) ∧
      ((¬∃ front other, IdBehind path.toList front other) → classify path = .ok (.sandbox, "")) ∧
      ∀ unit, classify path ≠ .ok (.systemd, unit) := by
  intro path
  have foreign : ¬IsDockers first second := by
    rintro (docker | ⟨rfl, tail, rfl⟩)
    · exact noDocker docker
    · apply noUnit
      rw [toList_pathText_cons]
      exact ⟨tail ++ rest.flatMap ('/' :: ·), rfl⟩
  have ruling : Ruling path first second (classify path) := classify_ruling ordinary
  generalize classify path = result at ruling ⊢
  cases ruling with
  | session user => exact absurd user noSession
  | docker _ own | unnamed _ own => exact absurd own foreign
  | service _ _ noPod | unknown _ _ noPod => exact absurd pod noPod
  | scope _ _ _ found =>
    obtain ⟨front, stands⟩ := found.here.idBehind
    refine ⟨fun _ => ⟨_, _, found, rfl⟩, ?_, ?_, by simp⟩
    · intro noScope
      exact absurd ⟨_, _, found.here⟩ noScope
    · intro nothing
      exact absurd ⟨_, _, stands⟩ nothing
  | bare _ _ _ noScope found =>
    refine ⟨?_, fun _ _ => ⟨_, _, found, rfl⟩, ?_, by simp⟩
    · rintro ⟨front, other, stands⟩
      exact absurd stands (noScope front other)
    · intro nothing
      exact absurd ⟨_, _, found.here⟩ nothing
  | sandbox _ _ _ noScope nothing =>
    refine ⟨?_, ?_, fun _ => rfl, by simp⟩
    · rintro ⟨front, other, stands⟩
      exact absurd stands (noScope front other)
    · rintro _ ⟨front, other, stands⟩
      exact absurd stands (nothing front other)

/-- A containerd scope under the system's slice, in a pod that is named like a container. -/
def scopeInSlice : List (List Char) :=
  ["system.slice".toList, "kubepods-pod".toList ++ List.replicate 64 'a', scopeMark ++ ':' :: List.replicate 64 'b']

theorem scope_in_slice_preferred : (∀ segment ∈ scopeInSlice, Ordinary segment) ∧ InPod (pathText scopeInSlice) ∧
    IdBehind (pathText scopeInSlice).toList "/system.slice/kubepods-pod".toList (List.replicate 64 'a') ∧
      ∃ before id, Text.First (ScopeBehind (pathText scopeInSlice).toList) before id ∧
        classify (pathText scopeInSlice) = .ok (.containerd, String.ofList id) ∧ id = List.replicate 64 'b' := by
  have text : (pathText scopeInSlice).toList = scopeInSlice.flatMap ('/' :: ·) := String.toList_ofList
  have ordinary : ∀ segment ∈ scopeInSlice, Ordinary segment := by decide +kernel
  have pod : InPod (pathText scopeInSlice) := by
    rw [InPod, text]
    decide +kernel
  have named (c : Char) (fits : isIdChar c = true) : IsContainerId (String.ofList (List.replicate 64 c)) := by
    constructor
    · rw [String.toList_ofList, List.length_replicate, idLength]
    · rw [String.toList_ofList]
      intro other member
      rwa [List.eq_of_mem_replicate member]
  have another : IdBehind (pathText scopeInSlice).toList "/system.slice/kubepods-pod".toList
      (List.replicate 64 'a') := by
    rw [text]
    exact ⟨named 'a' rfl, by decide +kernel⟩
  have stands : ScopeBehind (pathText scopeInSlice).toList
      ("/system.slice/kubepods-pod".toList ++ List.replicate 64 'a' ++ ['/']) (List.replicate 64 'b') := by
    rw [text]
    exact ⟨named 'b' rfl, ':', by simp, by decide +kernel⟩
  have noSession : ¬IsSession "system.slice".toList := by
    unfold IsSession
    decide
  have noUnit : ¬"/system.slice/docker-".toList <+: (pathText scopeInSlice).toList := by
    rw [text]
    decide +kernel
  obtain ⟨leads, -⟩ := pods_prefer_scopes ordinary pod noSession (by decide) noUnit
  obtain ⟨before, id, found, told⟩ := leads ⟨_, _, stands⟩
  have evaluated : classify (pathText scopeInSlice) = .ok (.containerd, String.ofList (List.replicate 64 'b')) := by
    rw [classify, text]
    decide +kernel
  have same : String.ofList (List.replicate 64 'b') = String.ofList id :=
    congrArg Prod.snd (Except.ok.inj (evaluated.symm.trans told))
  exact ⟨ordinary, pod, another, before, id, found, told, String.ofList_injective same.symm⟩

end Attribution.Cgroup
