import Attribution.Engine.Containerd
import Attribution.Proofs.Json.Fields

/-!
How far the payloads in a record reach.

Records hold documents of other programs: the runtime specification, what Kubernetes stores with a container, and,
inside of that, the declared ports.  Main statement: each of them is taken as a whole or not at all, and decides on
fields of its own that nothing else decides on.
-/

namespace Attribution.Containerd

open Json (Gives FieldOr ListOf IsTextTable)

def IsText (document : Json) (text : String) : Prop :=
  document = .text text

def IsWord (document : Json) (word : UInt32) : Prop :=
  document = .natural word.toNat

/-! ### Documents -/

/-- A mount has a destination and a source, both of them texts. -/
def TellsMount (document : Json) (mount : String × String) : Prop :=
  ∃ destination source, Gives [["destination"], ["source"]] document [destination, source] ∧
    FieldOr "" IsText destination mount.1 ∧ FieldOr "" IsText source mount.2

/-- A runtime specification lists mounts. -/
def TellsMounts (document : Json) (mounts : List (String × String)) : Prop :=
  ∃ list, Gives [["mounts"]] document [list] ∧ FieldOr [] (ListOf TellsMount) list mounts

def TellsAnnotations (document : Json) (annotations : Table String String) : Prop :=
  ∃ table, Gives [["annotations", "Annotations"]] document [table] ∧ FieldOr .empty IsTextTable table annotations

def TellsBody (document : Json) (body : PodExtension) : Prop :=
  ∃ name logPath config, Gives [["Name"], ["LogPath"], ["Config"]] document [name, logPath, config] ∧
    FieldOr "" IsText name body.name ∧ FieldOr "" IsText logPath body.logPath ∧
    FieldOr .empty TellsAnnotations config body.annotations

/-- What Kubernetes stores with a container is wrapped once. -/
def TellsExtension (document : Json) (extension : PodExtension) : Prop :=
  ∃ body, Gives [["Metadata"]] document [body] ∧ FieldOr .empty TellsBody body extension

def TellsPort (document : Json) (port : ContainerPort) : Prop :=
  ∃ name containerPort protocol hostPort,
    Gives [["name"], ["containerPort"], ["protocol"], ["hostPort"]] document [name, containerPort, protocol, hostPort] ∧
    FieldOr "" IsText name port.name ∧ FieldOr 0 IsWord containerPort port.containerPort ∧
    FieldOr "" IsText protocol port.protocol ∧ FieldOr 0 IsWord hostPort port.hostPort

theorem text?_iff (document : Json) (text : String) : document.text? = some text ↔ IsText document text :=
  Json.text?_eq_some_iff

theorem wordOf?_iff (document : Json) (word : UInt32) : wordOf? document = some word ↔ IsWord document word := by
  simp only [wordOf?, Option.map_eq_some_iff, Json.nat?_eq_some_iff, IsWord]
  constructor
  · rintro ⟨value, ⟨rfl, fits⟩, rfl⟩
    rw [UInt32.toNat_ofNat_of_lt' (by simp [UInt32.size] at fits ⊢; omega)]
  · rintro rfl
    exact ⟨word.toNat, ⟨rfl, by have := word.toNat_lt; simp [UInt32.size]; omega⟩, by simp⟩

theorem mountOf?_iff (document : Json) (mount : String × String) :
    mountOf? document = some mount ↔ TellsMount document mount := by
  have apart : List.Pairwise List.Disjoint [["destination"], ["source"]] := by simp
  simp only [mountOf?, Option.bind_eq_bind, Option.bind_eq_some_iff, Json.fields?_eq_some_iff apart]
  constructor
  · rintro ⟨slots, gives, read⟩
    split at read
    · simp only [Option.bind_eq_some_iff, Json.fieldOr_eq_some_iff text?_iff, Option.pure_def, Option.some.injEq] at read
      obtain ⟨destination, first, source, second, rfl⟩ := read
      exact ⟨_, _, gives, first, second⟩
    · cases read
  · rintro ⟨destination, source, gives, first, second⟩
    refine ⟨_, gives, ?_⟩
    simp only [Option.bind_eq_some_iff, Json.fieldOr_eq_some_iff text?_iff, Option.pure_def, Option.some.injEq]
    exact ⟨_, first, _, second, rfl⟩

theorem read_single_iff {α : Type} {names : Json.FieldNames} {document : Json} (read : Option Json → Option α)
    {value : α} :
    (do
      let fields ← document.fields? [names]
      match fields with
      | [slot] => read slot
      | _ => none) = some value ↔ ∃ slot, Gives [names] document [slot] ∧ read slot = some value := by
  simp only [Option.bind_eq_bind, Option.bind_eq_some_iff, Json.fields?_eq_some_iff (List.pairwise_singleton _ names)]
  constructor
  · rintro ⟨slots, gives, read⟩
    split at read
    · exact ⟨_, gives, read⟩
    · cases read
  · rintro ⟨slot, gives, read⟩
    exact ⟨_, gives, read⟩

theorem volumesOf?_iff (document : Json) (volumes : Table String String) :
    volumesOf? document = some volumes ↔ ∃ mounts, TellsMounts document mounts ∧ .ofList mounts = volumes := by
  refine (read_single_iff fun mounts => (Json.fieldOr [] (Json.listOf? mountOf?) mounts).map Table.ofList).trans ?_
  have listed := Json.listOf?_eq_some_iff mountOf?_iff
  simp only [Option.map_eq_some_iff, Json.fieldOr_eq_some_iff listed, TellsMounts]
  constructor
  · rintro ⟨slot, gives, mounts, tells, same⟩
    exact ⟨mounts, ⟨slot, gives, tells⟩, same⟩
  · rintro ⟨mounts, ⟨slot, gives, tells⟩, same⟩
    exact ⟨slot, gives, mounts, tells, same⟩

theorem annotationsOf?_iff (document : Json) (annotations : Table String String) :
    PodExtension.annotationsOf? document = some annotations ↔ TellsAnnotations document annotations := by
  refine (read_single_iff fun slot => Json.fieldOr .empty Json.textTable? slot).trans ?_
  simp only [Json.fieldOr_eq_some_iff Json.textTable?_eq_some_iff, TellsAnnotations]

theorem bodyOf?_iff (document : Json) (body : PodExtension) :
    PodExtension.bodyOf? document = some body ↔ TellsBody document body := by
  have apart : List.Pairwise List.Disjoint [["Name"], ["LogPath"], ["Config"]] := by simp
  simp only [PodExtension.bodyOf?, Option.bind_eq_bind, Option.bind_eq_some_iff, Json.fields?_eq_some_iff apart]
  constructor
  · rintro ⟨slots, gives, read⟩
    split at read
    · simp only [Option.bind_eq_some_iff, Json.fieldOr_eq_some_iff text?_iff,
        Json.fieldOr_eq_some_iff annotationsOf?_iff, Option.pure_def, Option.some.injEq] at read
      obtain ⟨name, first, logPath, second, annotations, third, rfl⟩ := read
      exact ⟨_, _, _, gives, first, second, third⟩
    · cases read
  · rintro ⟨name, logPath, config, gives, first, second, third⟩
    refine ⟨_, gives, ?_⟩
    simp only [Option.bind_eq_some_iff, Json.fieldOr_eq_some_iff text?_iff,
      Json.fieldOr_eq_some_iff annotationsOf?_iff, Option.pure_def, Option.some.injEq]
    exact ⟨_, first, _, second, _, third, rfl⟩

theorem extension_ofJson?_iff (document : Json) (extension : PodExtension) :
    PodExtension.ofJson? document = some extension ↔ TellsExtension document extension := by
  refine (read_single_iff fun body => Json.fieldOr PodExtension.empty PodExtension.bodyOf? body).trans ?_
  simp only [Json.fieldOr_eq_some_iff bodyOf?_iff, TellsExtension]

theorem portOf?_iff (document : Json) (port : ContainerPort) :
    portOf? document = some port ↔ TellsPort document port := by
  have apart : List.Pairwise List.Disjoint [["name"], ["containerPort"], ["protocol"], ["hostPort"]] := by simp
  simp only [portOf?, Option.bind_eq_bind, Option.bind_eq_some_iff, Json.fields?_eq_some_iff apart]
  constructor
  · rintro ⟨slots, gives, read⟩
    split at read
    · simp only [Option.bind_eq_some_iff, Json.fieldOr_eq_some_iff text?_iff, Json.fieldOr_eq_some_iff wordOf?_iff,
        Option.pure_def, Option.some.injEq] at read
      obtain ⟨name, first, containerPort, second, protocol, third, hostPort, fourth, rfl⟩ := read
      exact ⟨_, _, _, _, gives, first, second, third, fourth⟩
    · cases read
  · rintro ⟨name, containerPort, protocol, hostPort, gives, first, second, third, fourth⟩
    refine ⟨_, gives, ?_⟩
    simp only [Option.bind_eq_some_iff, Json.fieldOr_eq_some_iff text?_iff, Json.fieldOr_eq_some_iff wordOf?_iff,
      Option.pure_def, Option.some.injEq]
    exact ⟨_, first, _, second, _, third, _, fourth, rfl⟩

/-! ### Payloads -/

/-- What bytes tell that spell a document. -/
def Spell {α : Type} (Tells : Json → α → Prop) (bytes : Bytes) (value : α) : Prop :=
  ∃ document, Json.parse? bytes = some document ∧ Tells document value

/-- What is taken from a payload: all that it tells, or the blank value if it is not there or tells nothing. -/
inductive Taken {α : Type} (Tells : Json → α → Prop) (blank : α) (payload : Option Bytes) : α → Prop
  | whole {bytes : Bytes} {value : α} (present : payload = some bytes) (told : Spell Tells bytes value) :
      Taken Tells blank payload value
  | nothing (silent : ∀ bytes value, payload = some bytes → ¬Spell Tells bytes value) :
      Taken Tells blank payload blank

variable {α : Type} {read : Json → Option α} {Tells : Json → α → Prop}

theorem taken_of_read (iff : ∀ document value, read document = some value ↔ Tells document value) (blank : α)
    (payload : Option Bytes) : Taken Tells blank payload (((payload.bind Json.parse?).bind read).getD blank) := by
  cases taken : (payload.bind Json.parse?).bind read with
  | none =>
    apply Taken.nothing
    rintro bytes value rfl ⟨document, spelled, tells⟩
    rw [Option.bind_some, spelled, Option.bind_some, (iff document value).2 tells] at taken
    cases taken
  | some value =>
    obtain ⟨document, spelled, told⟩ := Option.bind_eq_some_iff.1 taken
    obtain ⟨bytes, present, spelled⟩ := Option.bind_eq_some_iff.1 spelled
    exact .whole present ⟨document, spelled, (iff document value).1 told⟩

theorem extension_taken (record : Record) :
    Taken TellsExtension .empty (record.extensions.get? PodExtension.key) record.podExtension :=
  taken_of_read extension_ofJson?_iff _ _

/-- Where a destination is repeated, its last source counts. -/
theorem volumes_taken (record : Record) :
    ∃ mounts, Taken TellsMounts [] record.spec mounts ∧
      ∀ destination, record.volumes.get? destination = Table.find? destination mounts.reverse := by
  have taken := taken_of_read volumesOf?_iff .empty record.spec
  change Taken _ _ _ record.volumes at taken
  generalize record.volumes = volumes at taken ⊢
  cases taken with
  | whole present told =>
    obtain ⟨document, spelled, mounts, tells, rfl⟩ := told
    exact ⟨mounts, .whole present ⟨document, spelled, tells⟩, Table.get?_ofList mounts⟩
  | nothing silent =>
    refine ⟨[], .nothing ?_, fun _ => rfl⟩
    rintro bytes mounts present ⟨document, spelled, tells⟩
    exact silent bytes _ present ⟨document, spelled, mounts, tells, rfl⟩

theorem ports_taken (record : Record) :
    Taken (ListOf TellsPort) [] ((record.metadata.annotations.get? Kubernetes.portsAnnotation).map Text.utf8)
      record.metadata.ports := by
  have same : record.metadata.ports =
      ((((record.metadata.annotations.get? Kubernetes.portsAnnotation).map Text.utf8).bind Json.parse?).bind
        (Json.listOf? portOf?)).getD [] := by
    rw [Option.bind_map, Option.bind_assoc]
    rfl
  rw [same]
  exact taken_of_read (Json.listOf?_eq_some_iff portOf?_iff) [] _

/-! ### Records -/

/-- The record with the payloads of another one. -/
def Record.withPayloadsOf (record other : Record) : Record :=
  { record with spec := other.spec, extensions := other.extensions }

theorem podExtension_congr {record other : Record}
    (same : record.extensions.get? PodExtension.key = other.extensions.get? PodExtension.key) :
    record.podExtension = other.podExtension := by
  rw [Record.podExtension, Record.podExtension, same]

/-- Other payloads leave the id, the labels, the image and the time of creation as they are.  The volumes follow the
runtime specification, the name, the log path and the annotations follow what Kubernetes stores, and the ports follow
their annotation, in whatever else records differ.  Each of the three payloads is taken as a whole or not at all. -/
theorem payloads_kept_apart (record other : Record) :
    ((record.withPayloadsOf other).metadata.id = record.metadata.id ∧
        (record.withPayloadsOf other).metadata.labels = record.metadata.labels ∧
        (record.withPayloadsOf other).metadata.image = record.metadata.image ∧
        (record.withPayloadsOf other).metadata.created = record.metadata.created) ∧
      (record.spec = other.spec → record.metadata.volumes = other.metadata.volumes) ∧
      (record.extensions.get? PodExtension.key = other.extensions.get? PodExtension.key →
        record.metadata.name = other.metadata.name ∧ record.metadata.logPath = other.metadata.logPath ∧
          record.metadata.annotations = other.metadata.annotations) ∧
      (record.metadata.annotations.get? Kubernetes.portsAnnotation =
          other.metadata.annotations.get? Kubernetes.portsAnnotation →
        record.metadata.ports = other.metadata.ports) ∧
      (∃ mounts, Taken TellsMounts [] record.spec mounts ∧
        ∀ destination, record.metadata.volumes.get? destination = Table.find? destination mounts.reverse) ∧
      Taken TellsExtension .empty (record.extensions.get? PodExtension.key)
        ⟨record.metadata.name, record.metadata.logPath, record.metadata.annotations⟩ ∧
      Taken (ListOf TellsPort) [] ((record.metadata.annotations.get? Kubernetes.portsAnnotation).map Text.utf8)
        record.metadata.ports := by
  refine ⟨⟨rfl, rfl, rfl, rfl⟩, ?_, ?_, ?_, volumes_taken record, extension_taken record, ports_taken record⟩
  · intro same
    change record.volumes = other.volumes
    rw [Record.volumes, Record.volumes, same]
  · intro same
    have extensions := podExtension_congr same
    exact ⟨congrArg PodExtension.name extensions, congrArg PodExtension.logPath extensions,
      congrArg PodExtension.annotations extensions⟩
  · intro same
    change record.podExtension.ports?.getD [] = other.podExtension.ports?.getD []
    change record.podExtension.annotations.get? _ = other.podExtension.annotations.get? _ at same
    rw [PodExtension.ports?, PodExtension.ports?, same]

/-- Two mounts of one destination, and an annotation of ports that breaks off. -/
def mountedTwice : Record :=
  { Record.empty with
    spec := some (Text.utf8
      "\x7b\"mounts\":[\x7b\"destination\":\"/data\",\"source\":\"/a\"\x7d,\x7b\"source\":\"/b\",\"destination\":\"/data\"\x7d]\x7d")
    extensions := .ofList [(PodExtension.key, Text.utf8
      "\x7b\"Metadata\":\x7b\"Name\":\"web\",\"Config\":\x7b\"Annotations\":\x7b\"io.kubernetes.container.ports\":\"[\x7b\"\x7d\x7d\x7d\x7d")] }

/-- The same, with a runtime specification that breaks off. -/
def brokenSpec : Record :=
  { mountedTwice with spec := some (Text.utf8 "\x7b\"mounts\":[]") }

theorem brokenSpec_kept_apart :
    mountedTwice.extensions.get? PodExtension.key = brokenSpec.extensions.get? PodExtension.key ∧
      mountedTwice.metadata.volumes.get? "/data" = some "/b" ∧ brokenSpec.metadata.volumes.get? "/data" = none ∧
      mountedTwice.metadata.name = brokenSpec.metadata.name ∧ brokenSpec.metadata.name = "web" ∧
      brokenSpec.metadata.ports = [] := by
  have apart := payloads_kept_apart mountedTwice brokenSpec
  exact ⟨rfl, by decide +kernel, by decide +kernel, (apart.2.2.1 rfl).1, by decide +kernel, by decide +kernel⟩

end Attribution.Containerd
