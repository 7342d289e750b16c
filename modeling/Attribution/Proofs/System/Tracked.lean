import Attribution.Proofs.Cgroup.Route
import Attribution.Proofs.Container.Identity
import Attribution.Proofs.System.Basic

/-!
Everything that is tracked can be tracked.

What a cgroup file says is a path in normal form with the kind and the id that it tells, the runtime is
asked about nothing but its own containers, and monitors, pauses and processes of the host get no name.
So much holds of every founding, and since every container goes back to one it holds of every container,
also of those that processes have joined without being asked about.
-/

namespace Attribution

open Kernel (Pid)

namespace Sources

/-- Whatever is said of a process is read from the content of a cgroup file. -/
structure Grounded (sources : Sources) : Prop where
  first : ∀ {pid : Pid} {cgroup : Cgroup}, sources.cgroupOf pid = .ok cgroup →
    ∃ base origin content, Cgroup.ofContent base origin content = .ok cgroup
  again : ∀ {pid : Pid} {cgroup : Cgroup}, sources.cgroupAgain pid = .ok cgroup →
    ∃ base origin content, Cgroup.ofContent base origin content = .ok cgroup

theorem content_of_pid {files : Files.Tree} {root : Path} {base : String} {pid : Pid} {cgroup : Cgroup}
    (read : Cgroup.ofPid files root base pid = .ok cgroup) :
    ∃ base origin content, Cgroup.ofContent base origin content = .ok cgroup := by
  unfold Cgroup.ofPid at read
  dsimp only at read
  split at read
  · cases read
  · exact ⟨_, _, _, read⟩

theorem grounded_ofFiles (files : Files.Tree) (root : Path) (base : String)
    (metadataOf : String → Except Engine.Error Metadata) : (ofFiles files root base metadataOf).Grounded where
  first := content_of_pid
  again := content_of_pid

end Sources

namespace Registry

variable {sources : Sources} {registry : Registry} {pid : Pid} {cgroup : Cgroup} {known : Option Metadata}
  {identity : Identity} {container : Container}

theorem isSome_of_answered (answered : metadataFor sources cgroup = .ok known) :
    known.isSome = needsMetadata cgroup := by
  unfold metadataFor at answered
  split at answered
  · rename_i needed
    cases told : sources.metadataOf cgroup.containerId with
    | error failure =>
      rw [told] at answered
      cases answered
    | ok metadata =>
      rw [told] at answered
      cases answered
      exact needed.symm
  · rename_i silent
    cases answered
    exact (Bool.not_eq_true _ ▸ silent).symm

theorem mem_created_of_mem_containers (member : container ∈ registry.containers) :
    container ∈ registry.created := by
  obtain ⟨number, -, here⟩ := List.mem_filterMap.1 member
  exact List.mem_of_getElem? here

theorem mem_containers_start (unknown : registry.byPid.get? pid = none)
    (read : sources.cgroupOf pid = .ok cgroup) (fresh : registry.byCgroup.get? cgroup.id = none)
    (answered : metadataFor sources cgroup = .ok known)
    (named : Identity.derive cgroup.kind cgroup.containerId known = some identity)
    (first : registry.byIdentity.get? identity = none) :
    (Container.create identity cgroup known).join pid ∈ (registry.start sources pid).containers := by
  have started : registry.start sources pid = (registry.noteLookup cgroup).create pid identity cgroup known := by
    simp only [start, unknown, resolve, read, fresh, answered, enroll, named, byIdentity_noteLookup, first]
  rw [started]
  apply List.mem_filterMap.2
  refine ⟨(registry.noteLookup cgroup).created.length, Table.mem_values_iff.2 ⟨identity, ?_⟩, ?_⟩
  · rw [byIdentity_create, if_pos rfl]
  · rw [container?_create, if_pos rfl]

end Registry

namespace Cgroup

variable {cgroup : Cgroup} {known : Option Metadata} {workload : Workload}

theorem Kind.hasRuntimeMetadata_iff {kind : Kind} :
    kind.hasRuntimeMetadata = true ↔ kind ∈ [docker, containerd] := by
  cases kind <;> decide

theorem IsContainerId.not_isMonitor {id : String} (named : IsContainerId id) : ¬Identity.IsMonitor id := by
  rintro ⟨rest, rfl⟩
  have inside : '/' ∈ (Identity.monitorUnit ++ rest).toList := by
    simp [Identity.monitorUnit]
  exact absurd (named.chars '/' inside) (by decide)

theorem Told.not_isMonitor {kind : Kind} {id : String} (told : Told kind id)
    (asked : kind.hasRuntimeMetadata = true) : ¬Identity.IsMonitor id := by
  cases told with
  | docker named | containerd named => exact named.not_isMonitor
  | _ => cases asked

theorem Runs.not_isMonitor (runs : cgroup.Runs known workload) (told : cgroup.Classified) :
    ¬Identity.IsMonitor cgroup.containerId := by
  cases runs with
  | service kind ordinary => exact ordinary
  | podContainer asked | plain asked => exact told.told.not_isMonitor asked

theorem Runs.kind_mem (runs : cgroup.Runs known workload) : cgroup.kind ∈ [.docker, .containerd, .systemd] := by
  cases runs with
  | service kind => simp [kind]
  | podContainer asked | plain asked =>
    exact List.mem_append_left [.systemd] (Kind.hasRuntimeMetadata_iff.1 asked)

end Cgroup

/-! ### What can be founded -/

namespace Founding

/-- What makes a container one that can be tracked. -/
structure Trackable (founding : Founding) : Prop where
  canonical : Cgroup.Canonical founding.cgroup.id
  classified : founding.cgroup.Classified
  kind : founding.cgroup.kind ∈ [.docker, .containerd, .systemd]
  known : founding.metadata.isSome = true ↔ founding.cgroup.kind ∈ [.docker, .containerd]
  named : Identity.derive founding.cgroup.kind founding.cgroup.containerId founding.metadata =
    some founding.identity
  noMonitor : ¬Identity.IsMonitor founding.cgroup.containerId
  noPause : ∀ metadata ∈ founding.metadata, (Identity.podOf? metadata).isSome = true →
    (metadata.label? Kubernetes.containerName).getD "" ∉ ["", Kubernetes.pauseName]

variable {sources : Sources} {pid : Pid} {founding : Founding}

theorem known_iff (founds : sources.Founds pid founding) (classified : founding.cgroup.Classified) :
    founding.metadata.isSome = true ↔ founding.cgroup.kind ∈ [.docker, .containerd] := by
  rw [Registry.isSome_of_answered founds.answered, ← Cgroup.Kind.hasRuntimeMetadata_iff, Registry.needsMetadata,
    Bool.and_eq_true, decide_eq_true_iff]
  exact ⟨And.left, fun asked => ⟨asked, classified.told.ne_empty asked⟩⟩

/-- Whatever a cgroup file holds and the runtime answers, what it leads to can be tracked. -/
theorem trackable_of_content (founds : sources.Founds pid founding) {base content : String} {origin : Path}
    (read : Cgroup.ofContent base origin content = .ok founding.cgroup) : founding.Trackable := by
  have classified := Cgroup.classified_of_content read
  have known := known_iff founds classified
  obtain ⟨workload, runs, -⟩ := (Cgroup.derive_eq_some_iff classified).1 founds.named
  refine ⟨Cgroup.canonical_of_content read, classified, runs.kind_mem, known, founds.named,
    runs.not_isMonitor classified, ?_⟩
  intro metadata told inPod
  rw [Option.mem_def.1 told] at known runs
  cases runs with
  | service service =>
    rw [service] at known
    exact absurd (known.1 rfl) (by decide)
  | podContainer asked member called filled working =>
    rw [called]
    simp [filled, working]
  | plain asked alone =>
    rw [alone] at inPod
    cases inPod

end Founding

/-! ### Runs -/

namespace System

theorem trackable_of_founder {founding : Founding} {step : Step} (founder : Founder founding step)
    (grounded : ∀ sources event now, step = .event sources event now → sources.Grounded) :
    founding.Trackable := by
  cases founder with
  | first founds =>
    obtain ⟨base, origin, content, read⟩ := (grounded _ _ _ rfl).first founds.read
    exact Founding.trackable_of_content founds read
  | again founds =>
    obtain ⟨base, origin, content, read⟩ := (grounded _ _ _ rfl).again founds.read
    exact Founding.trackable_of_content founds read

theorem trackable_after {steps : List Step}
    (grounded : ∀ sources event now, .event sources event now ∈ steps → sources.Grounded) :
    ∀ founding ∈ (after steps).registry.foundings, founding.Trackable := by
  intro founding listed
  obtain ⟨step, happened, founder⟩ := founded_after steps founding listed
  apply trackable_of_founder founder
  rintro sources event now rfl
  exact grounded sources event now happened

/-- Every container that is tracked after a run can be tracked, whatever the cgroup files hold and the
runtime answers at each of its steps. -/
theorem containers_trackable (steps : List Step)
    (grounded : ∀ sources event now, .event sources event now ∈ steps → sources.Grounded) :
    ∀ container ∈ (after steps).registry.containers, container.founding.Trackable := by
  intro container member
  have listed : container.founding ∈ (after steps).registry.foundings :=
    List.mem_map_of_mem (Registry.mem_created_of_mem_containers member)
  exact trackable_after grounded container.founding listed

/-- A cgroup file of a pod's container. -/
def webRows : List Cgroup.Row :=
  [.entry ⟨3, ["cpu"], Cgroup.webUnderDocker.id⟩]

def webSources : Sources where
  cgroupOf _ := Cgroup.ofContent "/" "/proc/7/cgroup" (Cgroup.contentOf webRows)
  metadataOf _ := .ok Cgroup.webMetadata

theorem webSources_read (pid : Pid) : ∃ paths,
    webSources.cgroupOf pid = .ok { Cgroup.webUnderDocker with paths := paths } := by
  have plain : ∀ row ∈ webRows, row.Plain := by decide +kernel
  have selected : Cgroup.select (Cgroup.pathsOf "/" (webRows.filterMap Cgroup.Row.entry?)) =
      some (Cgroup.webUnderDocker.id, .v1) := by decide +kernel
  have told : Cgroup.classify Cgroup.webUnderDocker.id = .ok (.docker, Cgroup.webUnderDocker.containerId) :=
    Cgroup.webUnderDocker_classified
  refine ⟨Cgroup.pathsOf "/" (webRows.filterMap Cgroup.Row.entry?), ?_⟩
  change Cgroup.ofContent "/" "/proc/7/cgroup" (Cgroup.contentOf webRows) = _
  rw [Cgroup.ofContent_of_legible (Cgroup.legible_contentOf plain), Cgroup.entriesOf_contentOf plain, selected]
  dsimp only
  rw [Cgroup.classified, told]
  rfl

theorem web_container_trackable :
    ∃ container ∈ (after [.event webSources (.start 7) 0]).registry.containers,
      container.identity = ⟨"/k8s/default/web/nginx"⟩ ∧ container.founding.Trackable := by
  have grounded : ∀ sources event now, Step.event sources event now ∈ [.event webSources (.start 7) 0] →
      sources.Grounded := by
    intro sources event now member
    cases List.mem_singleton.1 member
    exact ⟨fun read => ⟨_, _, _, read⟩, fun read => ⟨_, _, _, read⟩⟩
  have named : Identity.derive Cgroup.webUnderDocker.kind Cgroup.webUnderDocker.containerId
      (some Cgroup.webMetadata) = some ⟨"/k8s/default/web/nginx"⟩ := by decide
  obtain ⟨paths, read⟩ := webSources_read 7
  have answered : Registry.metadataFor webSources { Cgroup.webUnderDocker with paths := paths } =
      .ok (some Cgroup.webMetadata) := rfl
  have tracked : _ ∈ (Registry.empty.start webSources 7).containers :=
    Registry.mem_containers_start rfl read rfl answered named rfl
  exact ⟨_, tracked, rfl, containers_trackable _ grounded _ tracked⟩

end System

end Attribution
