import Attribution.Container.Identity
import Attribution.Json.Fields
import Attribution.Json.Parser
import Attribution.Timestamp
import Attribution.Wire.Message

/-!
What containerd says about a container: its records, how they travel, and the metadata in them.

Two parts of a record are JSON documents of other programs. One that is malformed is left out, and
the rest of the record still counts.
-/

namespace Attribution.Containerd

/-- A record of the containers service. -/
structure Record where
  id : String
  labels : Table String String
  image : String
  /-- The runtime specification. -/
  spec : Option Bytes
  createdAt : Option Timestamp
  /-- What other programs have stored with the container. -/
  extensions : Table String Bytes

def Record.empty : Record :=
  ⟨"", .empty, "", none, none, .empty⟩

instance : Inhabited Record := ⟨.empty⟩

/-! ### Documents inside a record -/

/-- Destination and source of a mount. -/
def mountOf? (document : Json) : Option (String × String) := do
  let fields ← document.fields? [["destination"], ["source"]]
  match fields with
  | [destination, source] =>
    return (← Json.fieldOr "" Json.text? destination, ← Json.fieldOr "" Json.text? source)
  | _ => none

/-- The mounts of a runtime specification, by destination; the last one counts. -/
def volumesOf? (document : Json) : Option (Table String String) := do
  let fields ← document.fields? [["mounts"]]
  match fields with
  | [mounts] => (Json.fieldOr [] (Json.listOf? mountOf?) mounts).map Table.ofList
  | _ => none

/-- What the Kubernetes side of containerd stores with a container. -/
structure PodExtension where
  name : String
  logPath : String
  annotations : Table String String

namespace PodExtension

/-- The name under which it is stored. -/
def key : String := "io.cri-containerd.container.metadata"

def empty : PodExtension := ⟨"", "", .empty⟩

def annotationsOf? (document : Json) : Option (Table String String) := do
  let fields ← document.fields? [["annotations", "Annotations"]]
  match fields with
  | [annotations] => Json.fieldOr .empty Json.textTable? annotations
  | _ => none

def bodyOf? (document : Json) : Option PodExtension := do
  let fields ← document.fields? [["Name"], ["LogPath"], ["Config"]]
  match fields with
  | [name, logPath, config] =>
    return ⟨← Json.fieldOr "" Json.text? name, ← Json.fieldOr "" Json.text? logPath,
      ← Json.fieldOr .empty annotationsOf? config⟩
  | _ => none

def ofJson? (document : Json) : Option PodExtension := do
  let fields ← document.fields? [["Metadata"]]
  match fields with
  | [body] => Json.fieldOr empty bodyOf? body
  | _ => none

end PodExtension

def wordOf? (document : Json) : Option UInt32 :=
  (document.nat? (UInt32.size - 1)).map UInt32.ofNat

/-- A port as the annotation of a pod declares it. -/
def portOf? (document : Json) : Option ContainerPort := do
  let fields ← document.fields? [["name"], ["containerPort"], ["protocol"], ["hostPort"]]
  match fields with
  | [name, containerPort, protocol, hostPort] =>
    return ⟨← Json.fieldOr "" Json.text? name, ← Json.fieldOr 0 wordOf? containerPort,
      ← Json.fieldOr "" Json.text? protocol, ← Json.fieldOr 0 wordOf? hostPort⟩
  | _ => none

/-- The declared ports, if there is a well-formed declaration. -/
def PodExtension.ports? (extension : PodExtension) : Option (List ContainerPort) := do
  let written ← extension.annotations.get? Kubernetes.portsAnnotation
  Json.listOf? portOf? (← Json.parse? (Text.utf8 written))

namespace Record

def volumes (record : Record) : Table String String :=
  ((record.spec.bind Json.parse?).bind volumesOf?).getD .empty

def podExtension (record : Record) : PodExtension :=
  (((record.extensions.get? PodExtension.key).bind Json.parse?).bind PodExtension.ofJson?).getD .empty

/-- A record in the terms that all engines share. -/
def metadata (record : Record) : Metadata :=
  let extension := record.podExtension
  { Metadata.empty with
    name := extension.name
    id := record.id
    labels := record.labels
    annotations := extension.annotations
    volumes := record.volumes
    created := (record.createdAt.map Timestamp.render).getD ""
    logPath := extension.logPath
    image := record.image
    ports := extension.ports?.getD [] }

end Record

/-! ### Messages -/

open Wire (Merge)

/-- Reads the number of a varint as a signed one of the given width. -/
def signed (width : Nat) (value : Nat) : Int :=
  (BitVec.ofNat width value).toInt

/-- The value of a typed payload; its type does not matter, but has to be a text. -/
def mergePayload : Merge Bytes := fun depth value number layout bytes =>
  match number with
  | 1 => (Wire.text layout bytes).map fun (_, rest) => (value, rest)
  | 2 => Wire.raw layout bytes
  | _ => (Wire.skipField depth number layout bytes).map fun rest => (value, rest)

def mergeTimestamp : Merge Timestamp := fun depth time number layout bytes =>
  match number with
  | 1 => (Wire.word layout bytes).map fun (value, rest) => ({ time with seconds := signed 64 value }, rest)
  | 2 => (Wire.word layout bytes).map fun (value, rest) => ({ time with nanos := signed 32 value }, rest)
  | _ => (Wire.skipField depth number layout bytes).map fun rest => (time, rest)

def mergeLabel : Merge (String × String) :=
  Wire.mergeEntry fun _ _ layout bytes => Wire.text layout bytes

def mergeExtension : Merge (String × Bytes) :=
  Wire.mergeEntry (Wire.message mergePayload)

/-- Takes in a field of a record. Entries of maps are read as messages whatever their layout. -/
def mergeRecord : Merge Record := fun depth record number layout bytes =>
  match number with
  | 1 => (Wire.text layout bytes).map fun (id, rest) => ({ record with id := id }, rest)
  | 2 =>
    (Wire.nested mergeLabel depth ("", "") bytes).map fun ((name, value), rest) =>
      ({ record with labels := record.labels.insert name value }, rest)
  | 3 => (Wire.text layout bytes).map fun (image, rest) => ({ record with image := image }, rest)
  | 5 =>
    (Wire.message mergePayload depth (record.spec.getD []) layout bytes).map fun (spec, rest) =>
      ({ record with spec := some spec }, rest)
  | 8 =>
    (Wire.message mergeTimestamp depth (record.createdAt.getD ⟨0, 0⟩) layout bytes).map
      fun (time, rest) => ({ record with createdAt := some time }, rest)
  | 10 =>
    (Wire.nested mergeExtension depth ("", []) bytes).map fun ((name, value), rest) =>
      ({ record with extensions := record.extensions.insert name value }, rest)
  | _ => (Wire.skipField depth number layout bytes).map fun rest => (record, rest)

/-- Takes in a field of the answer about one container. -/
def mergeAnswer : Merge (Option Record) := fun depth answer number layout bytes =>
  match number with
  | 1 =>
    (Wire.message mergeRecord depth (answer.getD .empty) layout bytes).map fun (record, rest) =>
      (some record, rest)
  | _ => (Wire.skipField depth number layout bytes).map fun rest => (answer, rest)

/-- Takes in a field of the list of all containers. -/
def mergeListing : Merge (List Record) := fun depth records number layout bytes =>
  match number with
  | 1 =>
    (Wire.message mergeRecord depth .empty layout bytes).map fun (record, rest) =>
      (records ++ [record], rest)
  | _ => (Wire.skipField depth number layout bytes).map fun rest => (records, rest)

/-- The record in an answer, if it has one; nothing for bytes that are no answer. -/
def readAnswer? (bytes : Bytes) : Option (Option Record) :=
  Wire.read? mergeAnswer none bytes

def readListing? (bytes : Bytes) : Option (List Record) :=
  Wire.read? mergeListing [] bytes

/-- The request for a container. -/
def writeRequest (id : String) : Bytes :=
  Wire.encodeText 1 id

end Attribution.Containerd
