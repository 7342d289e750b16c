import Attribution.Proofs.Registry.Trackers

/-!
Purges that come before another purge.

What has expired stays expired, so a later purge takes whatever an earlier one would have taken, and
the counters that the earlier one has left are judged by the later one alone.  Main statement: the later
of two purges leaves what it would have left without the earlier one, and together they drop as many
connections as it would have dropped; earlier purges of a registry leave no trace in it.
-/

namespace Attribution

namespace Table

variable {α β : Type} {table : Table α β} {keep more : α → β → Bool}

theorem filter_filter_of_imp (within : ∀ key value, keep key value = true → more key value = true) :
    (table.filter more).filter keep = table.filter keep := by
  have entries : (table.entries.filter fun entry => more entry.1 entry.2).filter
      (fun entry => keep entry.1 entry.2) = table.entries.filter fun entry => keep entry.1 entry.2 := by
    rw [List.filter_filter]
    apply List.filter_congr
    intro (key, value) _
    rw [Bool.and_eq_left_iff_imp]
    exact within key value
  simp only [filter, entries]

theorem size_filter_le (keep : α → β → Bool) (table : Table α β) : (table.filter keep).size ≤ table.size :=
  List.length_filter_le _ _

theorem contains_of_contains_filter [DecidableEq α] {key : α}
    (present : (table.filter keep).contains key = true) : table.contains key = true := by
  rw [contains, get?_filter, Option.isSome_filter] at present
  exact Option.isSome_of_any present

end Table

namespace Tracker

variable {early late ttl moment : Instant}

theorem isExpired_mono (ordered : early ≤ late) (expired : isExpired early ttl moment = true) :
    isExpired late ttl moment = true := by
  have old : ttl ≤ early - moment := of_decide_eq_true expired
  exact decide_eq_true (Nat.le_trans old (Nat.sub_le_sub_right ordered moment))

theorem any_isExpired_mono (ordered : early ≤ late) {closed : Option Instant}
    (expired : closed.any (isExpired early ttl) = true) : closed.any (isExpired late ttl) = true := by
  cases closed with
  | none => cases expired
  | some moment => exact isExpired_mono ordered expired

theorem active_purge_purge (tracker : Tracker) (ordered : early ≤ late) (ttl : Instant) :
    ((tracker.purge early ttl).2.purge late ttl).2.active = (tracker.purge late ttl).2.active := by
  simp only [purge]
  apply Table.filter_filter_of_imp
  intro _ connection kept
  rw [Bool.not_eq_true', ← Bool.not_eq_true] at kept ⊢
  exact mt (any_isExpired_mono ordered) kept

theorem lastAttempt_purge_purge (tracker : Tracker) (ordered : early ≤ late) (ttl : Instant) :
    ((tracker.purge early ttl).2.purge late ttl).2.lastAttempt = (tracker.purge late ttl).2.lastAttempt := by
  simp only [purge]
  apply Table.filter_filter_of_imp
  intro _ moment kept
  rw [Bool.not_eq_true', ← Bool.not_eq_true] at kept ⊢
  exact mt (isExpired_mono ordered) kept

/-- Counters go with the keys of another table.  What is left of that table later was there earlier, so
the earlier loss of counters does not show. -/
theorem filter_contains_filter {α β γ : Type} [DecidableEq α] (counts : Table α γ) {kept last : Table α β}
    {keep : α → β → Bool} (same : kept.filter keep = last) :
    (counts.filter fun key _ => kept.contains key).filter (fun key _ => last.contains key) =
      counts.filter fun key _ => last.contains key := by
  apply Table.filter_filter_of_imp
  intro key _ present
  rw [← same] at present
  exact Table.contains_of_contains_filter present

theorem purge_purge (tracker : Tracker) (ordered : early ≤ late) (ttl : Instant) :
    ((tracker.purge early ttl).2.purge late ttl).2 = (tracker.purge late ttl).2 := by
  have active := active_purge_purge tracker ordered ttl
  have lastAttempt := lastAttempt_purge_purge tracker ordered ttl
  simp only [purge] at active lastAttempt ⊢
  have successful := filter_contains_filter tracker.successful active
  have failed := filter_contains_filter tracker.failed lastAttempt
  rw [active, lastAttempt, successful, failed]

theorem dropped_purge_purge (tracker : Tracker) (ordered : early ≤ late) (ttl : Instant) :
    (tracker.purge early ttl).1 + ((tracker.purge early ttl).2.purge late ttl).1 = (tracker.purge late ttl).1 := by
  have dropped (tracker : Tracker) (now : Instant) :
      (tracker.purge now ttl).1 = tracker.active.size - (tracker.purge now ttl).2.active.size := rfl
  have first : (tracker.purge early ttl).2.active.size ≤ tracker.active.size := Table.size_filter_le _ _
  have second : ((tracker.purge early ttl).2.purge late ttl).2.active.size ≤
      (tracker.purge early ttl).2.active.size := Table.size_filter_le _ _
  rw [dropped, dropped, dropped, ← active_purge_purge tracker ordered ttl]
  omega

end Tracker

namespace Registry

variable {registry : Registry} {early late ttl : Instant}

theorem purge_eq (registry : Registry) (now ttl : Instant) :
    registry.purge now ttl = { registry with created := (registry.purge now ttl).created } := by
  refine purge_induction (fun next => next = { registry with created := next.created }) now ttl rfl ?_
  intro next number same
  rw [same]
  rfl

/-- A purge is a purge of every container in the index, however many identities lead to it. -/
theorem container?_purge (registry : Registry) (now ttl : Instant) (number : Nat) :
    (registry.purge now ttl).container? number =
      if number ∈ registry.byIdentity.values then
        (registry.container? number).map (·.track fun tracker => (tracker.purge now ttl).2)
      else registry.container? number := by
  unfold purge
  generalize registry.byIdentity.values = numbers
  induction numbers generalizing registry with
  | nil => rfl
  | cons first rest ih =>
    rw [List.foldl_cons, ih, track, container?_change]
    by_cases here : number = first
    · have again : (fun container : Container => (container.track fun tracker => (tracker.purge now ttl).2).track
          fun tracker => (tracker.purge now ttl).2) = (·.track fun tracker => (tracker.purge now ttl).2) := by
        funext container
        simp only [Container.track, Tracker.purge_purge _ (Nat.le_refl now)]
      split
      · simp [here, Function.comp_def, again]
      · simp [here]
    · simp [here]

theorem purge_purge (registry : Registry) (ordered : early ≤ late) (ttl : Instant) :
    (registry.purge early ttl).purge late ttl = registry.purge late ttl := by
  have created : ((registry.purge early ttl).purge late ttl).created = (registry.purge late ttl).created := by
    apply List.ext_getElem?
    intro number
    change container? _ number = container? _ number
    have index : (registry.purge early ttl).byIdentity = registry.byIdentity := by rw [purge_eq]
    rw [container?_purge, container?_purge, container?_purge, index]
    split
    · rw [Option.map_map]
      congr 1
      funext container
      simp only [Function.comp, Container.track, Tracker.purge_purge _ ordered]
    · rfl
  rw [purge_eq (registry.purge early ttl), created, purge_eq registry early, purge_eq registry late]

theorem purge_foldl_purge (registry : Registry) {moments : List Instant} (ordered : ∀ moment ∈ moments, moment ≤ late)
    (ttl : Instant) : (moments.foldl (·.purge · ttl) registry).purge late ttl = registry.purge late ttl := by
  induction moments generalizing registry with
  | nil => rfl
  | cons first rest ih =>
    rw [List.forall_mem_cons] at ordered
    rw [List.foldl_cons, ih _ ordered.2, purge_purge registry ordered.1]

end Registry

/-- The later of two purges makes up for the earlier one: the tracker is left as if there had been the
later one alone, and as many connections are dropped.  So however often a registry was purged before, it is
left as its latest purge alone would leave it. -/
theorem later_purge_absorbs (ttl late : Instant) :
    (∀ (tracker : Tracker) (early : Instant), early ≤ late →
        ((tracker.purge early ttl).2.purge late ttl).2 = (tracker.purge late ttl).2 ∧
          (tracker.purge early ttl).1 + ((tracker.purge early ttl).2.purge late ttl).1 =
            (tracker.purge late ttl).1) ∧
      ∀ (registry : Registry) (moments : List Instant), (∀ moment ∈ moments, moment ≤ late) →
        (moments.foldl (·.purge · ttl) registry).purge late ttl = registry.purge late ttl :=
  ⟨fun tracker _ ordered => ⟨tracker.purge_purge ordered ttl, tracker.dropped_purge_purge ordered ttl⟩,
    fun registry _ ordered => registry.purge_foldl_purge ordered ttl⟩

/-! ### Three closed connections -/

/-- Connections that are closed at three moments, the last of them far ahead of the others. -/
def closedInTurn : Tracker :=
  Tracker.after [.opened ⟨.v4 0x0A000002 40000, .v4 0x0A000009 80, .v4 0x0A000009 80, 7, 3, 100⟩ 1000,
    .opened ⟨.v4 0x0A000002 40001, .v4 0x0A000009 80, .v4 0x0A000009 80, 7, 4, 200⟩ 1000,
    .opened ⟨.v4 0x0A000002 40002, .v4 0x0A000009 80, .v4 0x0A000009 80, 7, 5, 300⟩ 1000,
    .close ⟨7, 3⟩ 100 2000, .close ⟨7, 4⟩ 200 90000, .close ⟨7, 5⟩ 300 500000]

def closingService : Registry :=
  (Registry.empty.create 7 ⟨"/system.slice/nginx.service"⟩
    ⟨"/system.slice/nginx.service", .v2, .systemd, "/system.slice/nginx.service", .empty⟩ none).track 0
      fun _ => closedInTurn

theorem one_dropped_by_each_purge :
    (closedInTurn.purge 302000 300000).1 = 1 ∧ (closedInTurn.purge 400000 300000).1 = 2 ∧
      ((closedInTurn.purge 302000 300000).2.purge 400000 300000).2 = (closedInTurn.purge 400000 300000).2 ∧
      (closedInTurn.purge 302000 300000).1 + ((closedInTurn.purge 302000 300000).2.purge 400000 300000).1 =
        (closedInTurn.purge 400000 300000).1 ∧
      ([302000, 150000].foldl (·.purge · 300000) closingService).purge 400000 300000 =
        closingService.purge 400000 300000 := by
  have absorbs := later_purge_absorbs 300000 400000
  obtain ⟨state, dropped⟩ := absorbs.1 closedInTurn 302000 (by decide)
  exact ⟨by decide, by decide, state, dropped, absorbs.2 closingService [302000, 150000] (by decide)⟩

end Attribution
