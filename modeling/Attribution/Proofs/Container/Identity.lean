import Attribution.Proofs.Cgroup.Kind
import Attribution.Proofs.Registry.Standing
import Attribution.Proofs.Text.Pieces

/-!
One name, one workload.

A service is known by its unit, a container of a pod by its place in the cluster, any other container by
the id that its runtime gave to it, and all of these are names in one space.  The slashes keep them
apart: a container's id has none, a unit has two, and the name of a pod's container has four as long as
the labels have none.
-/

namespace Attribution

open Text (splitOn joinWith splitOn_joinWith)

/-- What is tracked, by what it is known. -/
inductive Workload where
  | service (unit : String)
  | podContainer (podNamespace pod name : String)
  | plain (id : String)
  deriving DecidableEq, Repr

def Workload.identity : Workload → Identity
  | service unit => ⟨unit⟩
  | podContainer podNamespace pod name => .ofPod podNamespace pod name
  | plain id => ⟨id⟩

/-- The unit of a monitor that CRI-O starts for a container. -/
def Identity.IsMonitor (unit : String) : Prop :=
  ∃ rest : String, unit = monitorUnit ++ rest

/-- The labels that go into a name have no slash. -/
def Metadata.SlashFree (metadata : Metadata) : Prop :=
  ∀ key ∈ [Kubernetes.podName, Kubernetes.podNamespace, Kubernetes.containerName],
    ∀ value ∈ metadata.label? key, '/' ∉ value.toList

namespace Cgroup

/-- What a cgroup runs, going by its path and by what the runtime knows of it. -/
inductive Runs (cgroup : Cgroup) : Option Metadata → Workload → Prop where
  | service {known : Option Metadata} (kind : cgroup.kind = .systemd)
      (ordinary : ¬Identity.IsMonitor cgroup.containerId) : Runs cgroup known (.service cgroup.containerId)
  | podContainer {metadata : Metadata} {pod name : String} (kind : cgroup.kind.hasRuntimeMetadata = true)
      (member : Identity.podOf? metadata = some pod)
      (called : (metadata.label? Kubernetes.containerName).getD "" = name)
      (filled : name ≠ "") (working : name ≠ Kubernetes.pauseName) :
      Runs cgroup (some metadata)
        (.podContainer ((metadata.label? Kubernetes.podNamespace).getD "") pod name)
  | plain {metadata : Metadata} (kind : cgroup.kind.hasRuntimeMetadata = true)
      (alone : Identity.podOf? metadata = none) : Runs cgroup (some metadata) (.plain cgroup.containerId)

end Cgroup

/-! ### What a name stands for -/

theorem Identity.isMonitor_iff {unit : String} :
    IsMonitor unit ↔ (Text.strip monitorUnit.toList unit.toList).isSome = true := by
  rw [Option.isSome_iff_exists]
  constructor
  · rintro ⟨rest, rfl⟩
    exact ⟨rest.toList, Text.strip_eq_some_iff.2 String.toList_append⟩
  · rintro ⟨rest, stripped⟩
    refine ⟨String.ofList rest, ?_⟩
    rw [← String.toList_inj, String.toList_append, String.toList_ofList]
    exact Text.strip_eq_some_iff.1 stripped

/-- The name of a container under a runtime, when the runtime has told of it. -/
def Identity.ofContainer (id : String) (metadata : Metadata) : Option Identity :=
  let name := (metadata.label? Kubernetes.containerName).getD ""
  match podOf? metadata with
  | some pod =>
    if name = "" ∨ name = Kubernetes.pauseName then none
    else some (ofPod ((metadata.label? Kubernetes.podNamespace).getD "") pod name)
  | none => some ⟨id⟩

theorem Identity.derive_container {kind : Cgroup.Kind} {id : String} (asked : kind.hasRuntimeMetadata = true)
    (filled : id ≠ "") (known : Option Metadata) : derive kind id known = known.bind (ofContainer id) := by
  have unit : kind ≠ .systemd := by
    rintro rfl
    cases asked
  have pod : kind ≠ .sandbox := by
    rintro rfl
    cases asked
  have runtime : ¬(kind ≠ .docker ∧ kind ≠ .containerd ∧ kind ≠ .sandbox) := by
    cases kind <;> simp_all [Cgroup.Kind.hasRuntimeMetadata]
  unfold derive
  rw [if_neg unit, if_neg filled, if_neg runtime]
  cases known with
  | none => rfl
  | some metadata =>
    simp only [nameInPod, if_neg pod, Option.bind_some]
    rfl

theorem Identity.derive_systemd (unit : String) (known : Option Metadata) :
    derive .systemd unit known =
      if (Text.strip monitorUnit.toList unit.toList).isSome then none else some ⟨unit⟩ := by
  cases known <;> rfl

section Names

variable {cgroup : Cgroup} {known : Option Metadata} {workload other : Workload} {identity : Identity}

namespace Cgroup

theorem Classified.told (told : cgroup.Classified) : Told cgroup.kind cgroup.containerId :=
  told_of_classify told

theorem IsContainerId.ne_empty {id : String} (named : IsContainerId id) : id ≠ "" := by
  rintro rfl
  exact absurd named.length (by decide)

theorem Told.ne_empty {kind : Kind} {id : String} (told : Told kind id)
    (asked : kind.hasRuntimeMetadata = true) : id ≠ "" := by
  cases told with
  | docker named => exact named.ne_empty
  | containerd named => exact named.ne_empty
  | _ => cases asked

theorem Told.tracked {kind : Kind} {id : String} (told : Told kind id)
    (named : Identity.derive kind id known = some identity) :
    kind = .systemd ∨ kind.hasRuntimeMetadata = true := by
  cases told with
  | standalone | sandbox => cases known <;> cases named
  | docker | containerd => exact .inr rfl
  | systemd => exact .inl rfl

theorem Runs.derive (runs : cgroup.Runs known workload) (told : cgroup.Classified) :
    Identity.derive cgroup.kind cgroup.containerId known = some workload.identity := by
  cases runs with
  | service kind ordinary =>
    rw [kind, Identity.derive_systemd, if_neg (mt Identity.isMonitor_iff.2 ordinary), Workload.identity]
  | podContainer kind member called filled working =>
    rw [Identity.derive_container kind (told.told.ne_empty kind)]
    simp [Identity.ofContainer, member, called, filled, working, Workload.identity]
  | plain kind alone =>
    rw [Identity.derive_container kind (told.told.ne_empty kind)]
    simp [Identity.ofContainer, alone, Workload.identity]

theorem runs_of_derive (told : cgroup.Classified)
    (named : Identity.derive cgroup.kind cgroup.containerId known = some identity) :
    ∃ workload, cgroup.Runs known workload ∧ workload.identity = identity := by
  rcases told.told.tracked named with service | asked
  · rw [service, Identity.derive_systemd] at named
    split at named
    · cases named
    · rename_i ordinary
      cases named
      exact ⟨_, .service service (mt Identity.isMonitor_iff.1 ordinary), rfl⟩
  · rw [Identity.derive_container asked (told.told.ne_empty asked)] at named
    obtain ⟨metadata, rfl, here⟩ := Option.bind_eq_some_iff.1 named
    simp only [Identity.ofContainer] at here
    split at here
    · rename_i pod member
      split at here
      · cases here
      · rename_i working
        rw [not_or] at working
        cases here
        exact ⟨_, .podContainer asked member rfl working.1 working.2, rfl⟩
    · rename_i alone
      cases here
      exact ⟨_, .plain asked alone, rfl⟩

theorem derive_eq_some_iff (told : cgroup.Classified) :
    Identity.derive cgroup.kind cgroup.containerId known = some identity ↔
      ∃ workload, cgroup.Runs known workload ∧ workload.identity = identity := by
  constructor
  · exact runs_of_derive told
  · rintro ⟨workload, runs, rfl⟩
    exact runs.derive told

theorem Runs.unique (one : cgroup.Runs known workload) (two : cgroup.Runs known other) : workload = other := by
  cases one with
  | service kind ordinary =>
    cases two with
    | service => rfl
    | podContainer asked | plain asked => rw [kind] at asked; cases asked
  | podContainer asked member called =>
    cases two with
    | service kind => rw [kind] at asked; cases asked
    | podContainer _ again recalled =>
      cases member.symm.trans again
      rw [← called, ← recalled]
    | plain _ alone => cases member.symm.trans alone
  | plain asked alone =>
    cases two with
    | service kind => rw [kind] at asked; cases asked
    | podContainer _ member => cases alone.symm.trans member
    | plain => rfl

end Cgroup

end Names

/-! ### Reading a name -/

namespace Workload

/-- The form that the parts of a name have. -/
inductive Lawful : Workload → Prop where
  | service {unit : String} (named : Cgroup.IsUnit unit) : Lawful (.service unit)
  | podContainer {podNamespace pod name : String} (inNamespace : '/' ∉ podNamespace.toList)
      (inPod : '/' ∉ pod.toList) (inName : '/' ∉ name.toList) : Lawful (.podContainer podNamespace pod name)
  | plain {id : String} (named : Cgroup.IsContainerId id) : Lawful (.plain id)

variable {workload first second : Workload} {unit id podNamespace pod name : String}

/-- The parts of a name between its slashes. -/
def pieces (workload : Workload) : List (List Char) :=
  splitOn '/' workload.identity.text.toList

theorem pieces_service (named : Cgroup.IsUnit unit) :
    ∃ slice name, (service unit).pieces = [[], slice, name] := by
  obtain ⟨slice, listed, name, -, whole, rfl⟩ := named
  have apart : ∃ front : List Char, '/' ∉ front ∧ slice.toList = '/' :: (front ++ ['/']) := by
    simp only [List.mem_cons, List.not_mem_nil, or_false] at listed
    rcases listed with rfl | rfl
    · exact ⟨"system.slice".toList, by decide, by decide⟩
    · exact ⟨"runtime.slice".toList, by decide, by decide⟩
  obtain ⟨front, clean, spelled⟩ := apart
  refine ⟨front, name.toList, ?_⟩
  have joined : (slice ++ name).toList = joinWith '/' [[], front, name.toList] := by
    rw [String.toList_append, spelled]
    simp [joinWith]
  rw [pieces, identity, joined, splitOn_joinWith (by simp)]
  simp [clean, whole]

theorem pieces_podContainer (inNamespace : '/' ∉ podNamespace.toList) (inPod : '/' ∉ pod.toList)
    (inName : '/' ∉ name.toList) : (podContainer podNamespace pod name).pieces =
      [[], "k8s".toList, podNamespace.toList, pod.toList, name.toList] := by
  have joined : (Identity.ofPod podNamespace pod name).text.toList =
      joinWith '/' [[], "k8s".toList, podNamespace.toList, pod.toList, name.toList] := by
    simp [Identity.ofPod, joinWith]
  rw [pieces, identity, joined, splitOn_joinWith (by simp)]
  simp [inNamespace, inPod, inName]

theorem pieces_plain (named : Cgroup.IsContainerId id) : (plain id).pieces = [id.toList] := by
  have clean : '/' ∉ id.toList := by
    intro inside
    exact absurd (named.chars '/' inside) (by decide)
  exact splitOn_joinWith (List.cons_ne_nil id.toList []) (by simpa using clean)

def slashes : Workload → Nat
  | service _ => 2
  | podContainer _ _ _ => 4
  | plain _ => 0

theorem Lawful.length_pieces (lawful : workload.Lawful) : workload.pieces.length = workload.slashes + 1 := by
  cases lawful with
  | service named =>
    obtain ⟨slice, name, three⟩ := pieces_service named
    rw [three]
    rfl
  | podContainer inNamespace inPod inName =>
    rw [pieces_podContainer inNamespace inPod inName]
    rfl
  | plain named =>
    rw [pieces_plain named]
    rfl

theorem eq_of_identity_eq (one : first.Lawful) (two : second.Lawful) (same : first.identity = second.identity) :
    first = second := by
  have parts : first.pieces = second.pieces := by
    rw [pieces, pieces, same]
  have level : first.slashes = second.slashes := by
    have counted := congrArg List.length parts
    rw [one.length_pieces, two.length_pieces] at counted
    exact Nat.succ.inj counted
  cases one with
  | service =>
    cases two with
    | service => cases same; rfl
    | podContainer | plain => cases level
  | podContainer inNamespace inPod inName =>
    cases two with
    | podContainer otherNamespace otherPod otherName =>
      rw [pieces_podContainer inNamespace inPod inName,
        pieces_podContainer otherNamespace otherPod otherName] at parts
      simp only [List.cons.injEq, true_and, and_true, String.toList_inj] at parts
      obtain ⟨rfl, rfl, rfl⟩ := parts
      rfl
    | service | plain => cases level
  | plain =>
    cases two with
    | plain => cases same; rfl
    | service | podContainer => cases level

end Workload

/-! ### Two cgroups -/

namespace Cgroup

theorem Runs.lawful {cgroup : Cgroup} {known : Option Metadata} {workload : Workload}
    (runs : cgroup.Runs known workload) (told : cgroup.Classified)
    (clean : ∀ metadata ∈ known, metadata.SlashFree) : workload.Lawful := by
  have fits := told.told
  cases runs with
  | service kind =>
    rw [kind] at fits
    generalize cgroup.containerId = unit at fits ⊢
    cases fits with
    | systemd named => exact .service named
  | @podContainer metadata pod name asked member called =>
    have labels := clean metadata rfl
    have absent : ∀ key ∈ [Kubernetes.podNamespace, Kubernetes.containerName],
        '/' ∉ ((metadata.label? key).getD "").toList := by
      intro key listed
      cases label : metadata.label? key with
      | none => decide
      | some value => exact labels key (List.mem_cons_of_mem _ listed) value label
    refine .podContainer (absent _ (by simp)) ?_ (called ▸ absent _ (by simp))
    exact labels Kubernetes.podName (by simp) pod (Option.filter_eq_some_iff.1 member).1
  | plain asked =>
    generalize cgroup.kind = kind at fits asked
    generalize cgroup.containerId = id at fits ⊢
    cases fits with
    | docker named | containerd named => exact .plain named
    | _ => cases asked

variable {first second : Cgroup} {firstKnown secondKnown : Option Metadata} {one two : Identity}

/-- Two cgroups bear one name exactly if both run one workload: a service with its unit, a container with
its namespace, pod and name, or a container with its id.  No service bears the name of a container, and
no container of a pod the name of another one. -/
theorem same_name_iff_same_workload (firstTold : first.Classified) (secondTold : second.Classified)
    (firstClean : ∀ metadata ∈ firstKnown, metadata.SlashFree)
    (secondClean : ∀ metadata ∈ secondKnown, metadata.SlashFree)
    (firstNamed : Identity.derive first.kind first.containerId firstKnown = some one)
    (secondNamed : Identity.derive second.kind second.containerId secondKnown = some two) :
    one = two ↔ ∃ workload, first.Runs firstKnown workload ∧ second.Runs secondKnown workload := by
  obtain ⟨firstWork, firstRuns, rfl⟩ := (derive_eq_some_iff firstTold).1 firstNamed
  obtain ⟨secondWork, secondRuns, rfl⟩ := (derive_eq_some_iff secondTold).1 secondNamed
  constructor
  · intro same
    have alike := Workload.eq_of_identity_eq (firstRuns.lawful firstTold firstClean)
      (secondRuns.lawful secondTold secondClean) same
    exact ⟨firstWork, firstRuns, alike ▸ secondRuns⟩
  · rintro ⟨workload, firstAlso, secondAlso⟩
    rw [firstRuns.unique firstAlso, secondRuns.unique secondAlso]

/-- A container of a pod before and after it was moved to another runtime. -/
def webUnderDocker : Cgroup :=
  ⟨"/kubepods/besteffort/pod7/aaaaaaaaaaaaaaaaaaaaaaaaaaaaaaaaaaaaaaaaaaaaaaaaaaaaaaaaaaaaaaaa", .v1, .docker,
    "aaaaaaaaaaaaaaaaaaaaaaaaaaaaaaaaaaaaaaaaaaaaaaaaaaaaaaaaaaaaaaaa", .empty⟩

def webUnderContainerd : Cgroup :=
  ⟨"/kubepods/besteffort/pod7/cri-containerd-bbbbbbbbbbbbbbbbbbbbbbbbbbbbbbbbbbbbbbbbbbbbbbbbbbbbbbbbbbbbbbbb",
    .v2, .containerd, "bbbbbbbbbbbbbbbbbbbbbbbbbbbbbbbbbbbbbbbbbbbbbbbbbbbbbbbbbbbbbbbb", .empty⟩

theorem webUnderDocker_classified : webUnderDocker.Classified := by
  unfold Classified
  decide +kernel

theorem webUnderContainerd_classified : webUnderContainerd.Classified := by
  unfold Classified
  decide +kernel

def webMetadata : Metadata :=
  { Metadata.empty with labels := .ofList [(Kubernetes.podName, "web"), (Kubernetes.podNamespace, "default"),
    (Kubernetes.containerName, "nginx")] }

theorem moved_container_keeps_name :
    Identity.derive webUnderDocker.kind webUnderDocker.containerId (some webMetadata) =
      some ⟨"/k8s/default/web/nginx"⟩ ∧
    ∃ workload, webUnderDocker.Runs (some webMetadata) workload ∧
      webUnderContainerd.Runs (some webMetadata) workload := by
  have clean : ∀ metadata ∈ some webMetadata, metadata.SlashFree := by
    rintro _ ⟨⟩
    unfold Metadata.SlashFree
    decide
  have before : Identity.derive webUnderDocker.kind webUnderDocker.containerId (some webMetadata) =
      some ⟨"/k8s/default/web/nginx"⟩ := by decide
  have after : Identity.derive webUnderContainerd.kind webUnderContainerd.containerId (some webMetadata) =
      some ⟨"/k8s/default/web/nginx"⟩ := by decide
  have one := same_name_iff_same_workload webUnderDocker_classified webUnderContainerd_classified clean clean
    before after
  exact ⟨before, one.1 rfl⟩

end Cgroup

end Attribution
