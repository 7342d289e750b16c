import Attribution.Cgroup.Kind
import Attribution.Container.Metadata

/-!
Under which name a workload is reported.

System services are known by their unit, Kubernetes containers by namespace, pod and name, other
containers by the id the runtime gave them. Everything else is not tracked: host processes, pod
sandboxes, pause containers and the monitors that CRI-O starts.
-/

namespace Attribution

/-- The stable name of a workload. -/
structure Identity where
  text : String
  deriving DecidableEq, Repr

namespace Kubernetes

def podName : String := "io.kubernetes.pod.name"
def podNamespace : String := "io.kubernetes.pod.namespace"
def containerName : String := "io.kubernetes.container.name"
def portsAnnotation : String := "io.kubernetes.container.ports"

/-- How the container that only holds a pod's namespaces is called. -/
def pauseName : String := "POD"

end Kubernetes

namespace Identity

/-- Units of this form belong to the monitor of a container. -/
def monitorUnit : String := "/system.slice/crio-conmon-"

def ofPod (podNamespace pod name : String) : Identity :=
  ⟨"/k8s/" ++ podNamespace ++ "/" ++ pod ++ "/" ++ name⟩

/-- The pod a container belongs to, if its labels name one. -/
def podOf? (metadata : Metadata) : Option String :=
  (metadata.label? Kubernetes.podName).filter (· ≠ "")

/-- The name of a container within its pod. -/
def nameInPod (kind : Cgroup.Kind) (metadata : Metadata) : String :=
  if kind = .sandbox then "sandbox" else (metadata.label? Kubernetes.containerName).getD ""

/-- The identity of what runs in a cgroup of the given kind, with the id its path holds and what
the runtime knows about it. -/
def derive (kind : Cgroup.Kind) (containerId : String) (metadata : Option Metadata) :
    Option Identity :=
  if kind = .systemd then
    if (Text.strip monitorUnit.toList containerId.toList).isSome then none else some ⟨containerId⟩
  else if containerId = "" then none
  else if kind ≠ .docker ∧ kind ≠ .containerd ∧ kind ≠ .sandbox then none
  else
    match metadata with
    | none => none
    | some metadata =>
      match podOf? metadata with
      | some pod =>
        let name := nameInPod kind metadata
        if name = "" ∨ name = Kubernetes.pauseName then none
        else some (ofPod ((metadata.label? Kubernetes.podNamespace).getD "") pod name)
      | none => if kind = .sandbox then none else some ⟨containerId⟩

end Identity

end Attribution
