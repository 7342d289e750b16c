import Attribution.Engine.Docker
import Attribution.Proofs.Text.Pieces
import Attribution.Proofs.Tracker.Summaries
import Mathlib.Data.List.ReduceOption

/-!
What docker is understood to forward.

A binding of a port is told twice: among the container's ports, and, if it is one of TCP at an address of the
host, among the addresses at which the host listens.  Main statement: every binding is told once in either
list and nothing else is, and the order in which a document lists its ports shows in nothing but the order of
ports that agree in both their numbers.
-/

namespace Attribution

/-- Rearranged items have the same keys in order, whatever becomes of items with equal keys. -/
theorem map_sortBy_congr {α : Type} {key : α → List Nat} {items others : List α} (same : items.Perm others) :
    (sortBy key items).map key = (sortBy key others).map key := by
  have ascending (items : List α) : ((sortBy key items).map key).Pairwise fun a b => keyLe a b :=
    List.pairwise_map.2 (sortBy_pairwise key items)
  have keys : ((sortBy key items).map key).Perm ((sortBy key others).map key) :=
    ((sortBy_perm key items).trans (same.trans (sortBy_perm key others).symm)).map key
  exact List.Perm.eq_of_pairwise (fun _ _ _ _ ab ba => keyLe_antisymm ab ba) (ascending items) (ascending others) keys

namespace Docker

/-! ### Ports as they are written -/

/-- The number and the protocol that a port is written with.  The first slash stands between them, and without one
the protocol is TCP. -/
inductive Spelled (port : String) : List Char → String → Prop
  | alone (whole : '/' ∉ port.toList) : Spelled port port.toList "tcp"
  | marked {number protocol : List Char} (first : '/' ∉ number) (parts : port.toList = number ++ '/' :: protocol) :
      Spelled port number (String.ofList protocol)

variable {port protocol : String} {number : List Char}

theorem exists_spelled (port : String) : ∃ number protocol, Spelled port number protocol := by
  by_cases marked : '/' ∈ port.toList
  · obtain ⟨number, protocol, parts, first⟩ := List.eq_append_cons_of_mem marked
    exact ⟨number, _, .marked first parts⟩
  · exact ⟨port.toList, _, .alone marked⟩

theorem portOf_of_spelled (spelled : Spelled port number protocol) :
    portOf port = ((Text.readUInt32? number).getD 0, protocol) := by
  unfold portOf
  cases spelled with
  | alone whole =>
    have uncut : Text.cut '/' port.toList = none := by
      rw [Option.eq_none_iff_forall_ne_some]
      rintro ⟨before, after⟩ parts
      rw [Text.eq_of_cut parts] at whole
      exact whole (by simp)
    rw [uncut]
  | marked first parts => rw [parts, Text.cut_append first]

def IsTcp (port : String) : Prop :=
  ∃ number, Spelled port number "tcp"

theorem isTcp_iff : IsTcp port ↔ (portOf port).2 = "tcp" := by
  constructor
  · rintro ⟨number, spelled⟩
    rw [portOf_of_spelled spelled]
  · intro tcp
    obtain ⟨number, protocol, spelled⟩ := exists_spelled port
    rw [portOf_of_spelled spelled] at tcp
    obtain rfl : protocol = "tcp" := tcp
    exact ⟨number, spelled⟩

/-! ### Bindings -/

/-- The address of the host that a text names.  The empty text names all of version 4. -/
inductive Names (text : String) : Ip → Prop
  | all (empty : text = "") : Names text (.v4 0)
  | one {ip : Ip} (written : text ≠ "") (parsed : Ip.parse? text.toList = some ip) : Names text ip

/-- Whether the host listens at an address for a binding.  Port and address have to be readable, and an address that
is left out is as good as the empty one. -/
def Binding.ListensAt (binding : Binding) (address : Address) : Prop :=
  ∃ text port ip, binding.hostPort = some text ∧ Text.readUInt16? text.toList = some port ∧
    Names (binding.hostIp.getD "") ip ∧ ip.address port = address

theorem names_iff {text : String} {ip : Ip} :
    Names text ip ↔ (if text = "" then some (Ip.v4 0) else Ip.parse? text.toList) = some ip := by
  constructor
  · rintro (empty | ⟨written, parsed⟩)
    · rw [if_pos empty]
    · rw [if_neg written, parsed]
  · intro named
    split at named
    · rename_i empty
      cases named
      exact .all empty
    · rename_i written
      exact .one written named

theorem listen?_eq (binding : Binding) : binding.listen? =
    binding.port?.bind fun port =>
      (if binding.hostIp.getD "" = "" then some (Ip.v4 0) else Ip.parse? (binding.hostIp.getD "").toList).bind
        fun ip => some (ip.address port) := by
  unfold Binding.listen?
  by_cases empty : binding.hostIp.getD "" = "" <;> simp [empty]

theorem listen?_eq_some_iff {binding : Binding} {address : Address} :
    binding.listen? = some address ↔ binding.ListensAt address := by
  simp only [listen?_eq, Binding.port?, Option.bind_eq_some_iff, Option.some.injEq, ← names_iff, Binding.ListensAt]
  constructor
  · rintro ⟨port, ⟨text, written, read⟩, ip, named, same⟩
    exact ⟨text, port, ip, written, read, named, same⟩
  · rintro ⟨text, port, ip, written, read, named, same⟩
    exact ⟨port, ⟨text, written, read⟩, ip, named, same⟩

/-! ### What is told -/

/-- Every binding with the port that it belongs to, port by port. -/
def NetworkSettings.forwards (settings : NetworkSettings) : List (String × Binding) :=
  settings.ports.entries.flatMap fun (port, bindings) => bindings.map (port, ·)

theorem bindings_eq (settings : NetworkSettings) :
    settings.bindings = settings.forwards.map fun forward => (portOf forward.1, forward.2) := by
  rw [NetworkSettings.bindings, NetworkSettings.forwards, List.map_flatMap]
  simp only [List.map_map, Function.comp_def]

/-- The address at which the host listens for a port, if it does. -/
def Hears (forward : String × Binding) (address : Option Address) : Prop :=
  ∀ place, address = some place ↔ IsTcp forward.1 ∧ forward.2.ListensAt place

/-- A binding among the ports of a container.  Numbers that cannot be read are zero. -/
structure Declares (forward : String × Binding) (port : ContainerPort) : Prop where
  unnamed : port.name = ""
  spelled : ∃ number, Spelled forward.1 number port.protocol ∧
    port.containerPort = (Text.readUInt32? number).getD 0
  hostPort : port.hostPort =
    ((forward.2.hostPort.bind fun text => Text.readUInt16? text.toList).map UInt16.toUInt32).getD 0

/-- Every binding is told once, in either list that it belongs to, and both lists are in order. -/
structure Told (forwards : List (String × Binding)) (listens : List Address) (ports : List ContainerPort) : Prop where
  listens_ascending : listens.Pairwise fun a b => a.Before b ∨ a = b
  listens_once : ∃ heard, List.Forall₂ Hears forwards heard ∧ listens.Perm heard.reduceOption
  ports_ascending : ports.Pairwise fun a b =>
    a.containerPort < b.containerPort ∨ a.containerPort = b.containerPort ∧ a.hostPort ≤ b.hostPort
  ports_once : ∃ declared, List.Forall₂ Declares forwards declared ∧ ports.Perm declared

theorem listens_ascending (settings : NetworkSettings) :
    settings.listens.Pairwise fun a b => a.Before b ∨ a = b := by
  refine (sortBy_pairwise Address.sortKey _).imp ?_
  intro a b before
  by_cases same : a = b
  · exact .inr same
  · exact .inl (Address.before_iff.2 ⟨before, fun keys => same (Address.sortKey_injective keys)⟩)

/-- The address that a forwarded port contributes. -/
def heardOf (forward : String × Binding) : Option Address :=
  if (portOf forward.1).2 = "tcp" then forward.2.listen? else none

theorem hears_heardOf (forward : String × Binding) : Hears forward (heardOf forward) := by
  intro address
  unfold heardOf
  rw [isTcp_iff]
  by_cases tcp : (portOf forward.1).2 = "tcp"
  · rw [if_pos tcp, listen?_eq_some_iff, and_iff_right tcp]
  · simp [tcp]

theorem listens_eq (settings : NetworkSettings) :
    settings.listens = sortBy Address.sortKey (settings.forwards.filterMap heardOf) := by
  rw [NetworkSettings.listens, bindings_eq, List.filterMap_map]
  rfl

/-- The container's port that a binding contributes. -/
def declaredOf (forward : String × Binding) : ContainerPort :=
  ⟨"", (portOf forward.1).1, (portOf forward.1).2, (forward.2.port?.map UInt16.toUInt32).getD 0⟩

theorem declares_declaredOf (forward : String × Binding) : Declares forward (declaredOf forward) where
  unnamed := rfl
  spelled := by
    obtain ⟨number, protocol, spelled⟩ := exists_spelled forward.1
    refine ⟨number, ?_, ?_⟩
    · rw [declaredOf, portOf_of_spelled spelled]
      exact spelled
    · rw [declaredOf, portOf_of_spelled spelled]
  hostPort := rfl

def numbers (port : ContainerPort) : List Nat :=
  [port.containerPort.toNat, port.hostPort.toNat]

theorem containerPorts_eq (settings : NetworkSettings) :
    settings.containerPorts = sortBy numbers (settings.forwards.map declaredOf) := by
  rw [NetworkSettings.containerPorts, bindings_eq, List.map_map]
  rfl

theorem ports_ascending (settings : NetworkSettings) :
    settings.containerPorts.Pairwise fun a b =>
      a.containerPort < b.containerPort ∨ a.containerPort = b.containerPort ∧ a.hostPort ≤ b.hostPort := by
  rw [containerPorts_eq]
  refine (sortBy_pairwise numbers _).imp ?_
  intro a b before
  simpa [numbers, keyLe, UInt32.lt_iff_toNat_lt, UInt32.le_iff_toNat_le, UInt32.toNat_inj, Nat.le_iff_lt_or_eq] using before

theorem told (settings : NetworkSettings) : Told settings.forwards settings.listens settings.containerPorts where
  listens_ascending := listens_ascending settings
  listens_once := by
    refine ⟨settings.forwards.map heardOf, ?_, ?_⟩
    · rw [List.forall₂_map_right_iff, List.forall₂_same]
      exact fun forward _ => hears_heardOf forward
    · rw [listens_eq, List.reduceOption, List.filterMap_map]
      exact sortBy_perm _ _
  ports_ascending := ports_ascending settings
  ports_once := by
    refine ⟨settings.forwards.map declaredOf, ?_, ?_⟩
    · rw [List.forall₂_map_right_iff, List.forall₂_same]
      exact fun forward _ => declares_declaredOf forward
    · rw [containerPorts_eq]
      exact sortBy_perm _ _

/-! ### In whatever order -/

/-- The same ports and networks, with the ports in another order. -/
structure NetworkSettings.Rearranged (settings other : NetworkSettings) : Prop where
  ports : settings.ports.entries.Perm other.ports.entries
  networks : settings.networks = other.networks

/-- The same document, with its ports in another order. -/
inductive Inspect.Rearranged (inspect : Inspect) : Inspect → Prop
  | silent (silent : inspect.network = none) : Rearranged inspect inspect
  | turned {settings others : NetworkSettings} (network : inspect.network = some settings)
      (rearranged : settings.Rearranged others) : Rearranged inspect { inspect with network := some others }

variable {settings others : NetworkSettings}

theorem forwards_perm (same : settings.Rearranged others) : settings.forwards.Perm others.forwards :=
  same.ports.flatMap_right _

theorem listens_congr (same : settings.Rearranged others) : settings.listens = others.listens := by
  rw [listens_eq, listens_eq]
  exact sortBy_congr (fun _ _ _ _ => Address.sortKey_injective) ((forwards_perm same).filterMap heardOf)

theorem containerPorts_perm (same : settings.Rearranged others) :
    settings.containerPorts.Perm others.containerPorts := by
  rw [containerPorts_eq, containerPorts_eq]
  exact (sortBy_perm _ _).trans (((forwards_perm same).map declaredOf).trans (sortBy_perm _ _).symm)

theorem containerPorts_numbers (same : settings.Rearranged others) :
    settings.containerPorts.map numbers = others.containerPorts.map numbers := by
  rw [containerPorts_eq, containerPorts_eq]
  exact map_sortBy_congr ((forwards_perm same).map declaredOf)

theorem metadata_of_silent {inspect : Inspect} (silent : inspect.network = none) :
    inspect.metadata.hostListens = .empty ∧ inspect.metadata.ports = [] := by
  rw [Inspect.metadata, silent]
  exact ⟨rfl, rfl⟩

theorem metadata_of_network {inspect : Inspect} (network : inspect.network = some settings) :
    inspect.metadata.hostListens = .ofList [(listensKey, settings.listens)] ∧
      inspect.metadata.ports = settings.containerPorts := by
  rw [Inspect.metadata, network]
  exact ⟨rfl, rfl⟩

/-- Every binding of a document is told once in either list that it belongs to, and nothing else is.  Documents that
differ in the order of their ports differ in the order of what is told of ports with equal numbers, and nowhere else. -/
theorem forwarding_in_any_order {inspect other : Inspect} (same : inspect.Rearranged other) :
    { inspect.metadata with ports := other.metadata.ports } = other.metadata ∧
      inspect.metadata.ports.Perm other.metadata.ports ∧
      inspect.metadata.ports.map numbers = other.metadata.ports.map numbers ∧
      (inspect.network = none → inspect.metadata.hostListens = .empty ∧ inspect.metadata.ports = []) ∧
      ∀ settings, inspect.network = some settings →
        ∃ listens, inspect.metadata.hostListens = .ofList [(listensKey, listens)] ∧
          Told settings.forwards listens inspect.metadata.ports := by
  have each (settings : NetworkSettings) (network : inspect.network = some settings) :
      ∃ listens, inspect.metadata.hostListens = .ofList [(listensKey, listens)] ∧
        Told settings.forwards listens inspect.metadata.ports := by
    obtain ⟨listens, ports⟩ := metadata_of_network network
    rw [ports]
    exact ⟨settings.listens, listens, told settings⟩
  cases same with
  | silent _ => exact ⟨rfl, .refl _, rfl, metadata_of_silent, each⟩
  | @turned settings others network rearranged =>
    have ports := (metadata_of_network network).2
    have portsTurned : { inspect with network := some others }.metadata.ports = others.containerPorts := rfl
    rw [ports, portsTurned]
    refine ⟨?_, containerPorts_perm rearranged, containerPorts_numbers rearranged, ?_, ports ▸ each⟩
    · simp [Inspect.metadata, Inspect.logFile, network, listens_congr rearranged, rearranged.networks]
    · intro silent
      rw [network] at silent
      cases silent

/-- Ports of three protocols.  Two of them have one number and no host port that can be read. -/
def published : Inspect :=
  { Inspect.blank with
    network := some
      { ports := ⟨[("80/udp", [⟨none, some "x"⟩]), ("80/sctp", [⟨some "10.0.0.2", none⟩]),
          ("80/tcp", [⟨some "", some "8080"⟩, ⟨some "here", some "8081"⟩])], by decide⟩
        networks := .empty } }

def publishedTurned : Inspect :=
  { Inspect.blank with
    network := some
      { ports := ⟨[("80/tcp", [⟨some "", some "8080"⟩, ⟨some "here", some "8081"⟩]),
          ("80/sctp", [⟨some "10.0.0.2", none⟩]), ("80/udp", [⟨none, some "x"⟩])], by decide⟩
        networks := .empty } }

theorem published_in_two_orders :
    published.Rearranged publishedTurned ∧
      published.metadata.ports.Perm publishedTurned.metadata.ports ∧
      published.metadata.ports.map numbers = [[80, 0], [80, 0], [80, 8080], [80, 8081]] ∧
      published.metadata.ports.map (·.protocol) = ["udp", "sctp", "tcp", "tcp"] ∧
      publishedTurned.metadata.ports.map (·.protocol) = ["sctp", "udp", "tcp", "tcp"] ∧
      publishedTurned.metadata.hostListens.entries = [(listensKey, [.v4 0 8080])] := by
  have same : published.Rearranged publishedTurned := .turned rfl ⟨by decide, rfl⟩
  exact ⟨same, (forwarding_in_any_order same).2.1, by cbv, by cbv, by cbv, by cbv⟩

end Docker

end Attribution
