import Attribution.Proofs.Registry.Ownership
import Mathlib.Data.List.Forall2
import Mathlib.Data.List.Nodup
import Mathlib.Data.List.Perm.Basic
import Mathlib.Data.Nat.Basic
import Mathlib.Data.String.Basic

/-!
What is shown of the containers.

The index of identities has no order, so its containers are sorted by their names before they are shown.
No two of them have one name, so there is one way to sort them.
-/

namespace Attribution

open Kernel (Pid)

/-! ### Processes in order -/

theorem keyLe_singleton {a b : Nat} : keyLe [a] [b] = true ↔ a ≤ b := by
  simp only [keyLe, Bool.and_true, Bool.or_eq_true, decide_eq_true_eq, beq_iff_eq]
  omega

namespace Snapshot

variable {container : Container} {pid : Pid}

theorem mem_pids_ofContainer : pid ∈ (ofContainer container).pids ↔ pid ∈ container.pids :=
  (sortBy_perm _ container.pids.members).mem_iff

theorem ascending_pids (container : Container) : (ofContainer container).pids.Pairwise (· < ·) := by
  have sorted := sortBy_pairwise (fun pid : Pid => [pid.toNat]) container.pids.members
  have distinct : (ofContainer container).pids.Nodup :=
    (sortBy_perm _ container.pids.members).nodup_iff.2 container.pids.nodup
  refine sorted.imp₂ ?_ distinct
  intro a b before other
  rw [keyLe_singleton] at before
  exact UInt32.lt_iff_toNat_lt.2 (lt_of_le_of_ne before fun same => other (UInt32.toNat_inj.1 same))

end Snapshot

namespace Registry

variable {registry : Registry} {number : Nat}

/-! ### Containers in the index -/

theorem Linked.nodup_values (linked : registry.Linked) : registry.byIdentity.values.Nodup := by
  apply List.Nodup.map_on _ (List.Nodup.of_map Prod.fst registry.byIdentity.nodup)
  rintro ⟨first, number⟩ here ⟨second, _⟩ there rfl
  obtain ⟨container, found, rfl, _⟩ := linked.own_identity (Table.get?_eq_some_iff.2 here)
  obtain ⟨_, again, rfl, _⟩ := linked.own_identity (Table.get?_eq_some_iff.2 there)
  cases found.symm.trans again
  rfl

theorem Consistent.mem_values_iff (consistent : registry.Consistent) :
    number ∈ registry.byIdentity.values ↔ ∃ pid, registry.byPid.get? pid = some (.mapped number) := by
  rw [Table.mem_values_iff]
  constructor
  · intro indexed
    obtain ⟨pid, hosts⟩ := consistent.inhabited indexed
    exact ⟨pid, consistent.mapped_iff_hosts.2 hosts⟩
  · rintro ⟨pid, mapped⟩
    exact consistent.hosts_indexed (consistent.mapped_iff_hosts.1 mapped)

/-! ### Containers in order -/

/-- An entry of the index leads to a container of its identity, and this is what is shown of it. -/
def Shows (registry : Registry) (entry : Identity × Nat) (snapshot : Snapshot) : Prop :=
  ∃ container, registry.container? entry.2 = some container ∧ container.identity = entry.1 ∧
    snapshot = .ofContainer container

theorem Linked.shows_entries (linked : registry.Linked) :
    List.Forall₂ registry.Shows registry.byIdentity.entries
      (registry.containers.map Snapshot.ofContainer) := by
  have leads : ∀ entry ∈ registry.byIdentity.entries,
      ∃ container, registry.container? entry.2 = some container ∧ container.identity = entry.1 := by
    intro entry member
    obtain ⟨container, here, own, _⟩ := linked.own_identity (Table.get?_eq_some_iff.2 member)
    exact ⟨container, here, own⟩
  unfold containers Table.values
  generalize registry.byIdentity.entries = entries at leads ⊢
  induction entries with
  | nil => exact .nil
  | cons entry rest ih =>
    obtain ⟨container, here, own⟩ := leads entry List.mem_cons_self
    rw [List.map_cons, List.filterMap_cons_some here, List.map_cons]
    exact .cons ⟨container, here, own, rfl⟩ (ih fun other member => leads other (List.mem_cons_of_mem entry member))

theorem snapshots_perm (registry : Registry) :
    registry.snapshots.Perm (registry.containers.map Snapshot.ofContainer) :=
  List.mergeSort_perm _ _

/-- The entries of the index can be arranged so that they lead to the snapshots one by one. -/
theorem Linked.shows_snapshots (linked : registry.Linked) :
    ∃ entries, entries.Perm registry.byIdentity.entries ∧
      List.Forall₂ registry.Shows entries registry.snapshots := by
  have shown : Relation.Comp (List.Forall₂ registry.Shows) List.Perm registry.byIdentity.entries
      registry.snapshots := ⟨_, linked.shows_entries, (snapshots_perm registry).symm⟩
  rw [List.forall₂_comp_perm_eq_perm_comp_forall₂] at shown
  obtain ⟨entries, arranged, shows⟩ := shown
  exact ⟨entries, arranged.symm, shows⟩

theorem Linked.identities_snapshots (linked : registry.Linked) :
    (registry.snapshots.map (·.identity)).Nodup := by
  obtain ⟨entries, arranged, shows⟩ := linked.shows_snapshots
  have identities : entries.map Prod.fst = registry.snapshots.map (·.identity) := by
    rw [← List.forall₂_eq_eq_eq, List.forall₂_map_left_iff, List.forall₂_map_right_iff]
    refine shows.imp ?_
    rintro entry snapshot ⟨container, -, own, rfl⟩
    exact own.symm
  rw [← identities]
  exact (arranged.map Prod.fst).nodup_iff.2 registry.byIdentity.nodup

theorem ordered_snapshots (registry : Registry) :
    registry.snapshots.Pairwise fun a b => a.identity.text ≤ b.identity.text := by
  refine (List.pairwise_mergeSort ?_ ?_ _).imp of_decide_eq_true
  · intro a b c first second
    rw [decide_eq_true_eq] at first second ⊢
    exact first.trans second
  · intro a b
    rw [Bool.or_eq_true, decide_eq_true_eq, decide_eq_true_eq]
    exact le_total _ _

theorem Linked.ascending_snapshots (linked : registry.Linked) :
    registry.snapshots.Pairwise fun a b => a.identity.text < b.identity.text := by
  have distinct := List.pairwise_map.1 linked.identities_snapshots
  refine registry.ordered_snapshots.imp₂ ?_ distinct
  intro a b before other
  exact lt_of_le_of_ne before fun same => other (congrArg Identity.mk same)

theorem Linked.snapshots_congr (linked : registry.Linked) {index : Table Identity Nat}
    (same : index.entries.Perm registry.byIdentity.entries) :
    snapshots { registry with byIdentity := index } = registry.snapshots := by
  have containers : (Registry.containers { registry with byIdentity := index }).Perm registry.containers :=
    (same.map Prod.snd).filterMap _
  have perm : (snapshots { registry with byIdentity := index }).Perm registry.snapshots :=
    (snapshots_perm _).trans ((containers.map _).trans (snapshots_perm registry).symm)
  refine List.Perm.eq_of_pairwise ?_ (ordered_snapshots _) registry.ordered_snapshots perm
  intro a b first second before after
  have named : a.identity = b.identity := congrArg Identity.mk (le_antisymm before after)
  exact List.inj_on_of_nodup_map linked.identities_snapshots (perm.mem_iff.1 first) second named

end Registry

/-! ### Open sockets -/

namespace Container

/-- The sockets that hold a connection. -/
def openSockets (container : Container) : Roster Socket :=
  ⟨container.tracker.held.keys, container.tracker.held.nodup⟩

theorem openCount_snapshot (container : Container) :
    (Snapshot.ofContainer container).connections.openCount = container.openSockets.size :=
  (List.length_map _).symm

end Container

theorem Registry.mem_openSockets {registry : Registry} {number : Nat} {container : Container}
    (here : registry.container? number = some container) (socket : Socket) :
    socket ∈ container.openSockets ↔ ∃ connection, registry.held? number socket = some connection := by
  change socket ∈ container.tracker.held.keys ↔ _
  rw [← Table.contains_iff, Table.contains, Option.isSome_iff_exists, held?, tracker?, here]
  rfl

end Attribution
