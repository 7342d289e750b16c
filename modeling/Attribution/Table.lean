/-!
Finite maps as entries without repeated keys.  Each operation is described by what `get?` finds
after it.
-/

namespace Attribution

/-- A finite map; no key occurs twice among its entries. -/
structure Table (α β : Type) where
  entries : List (α × β)
  nodup : (entries.map Prod.fst).Nodup

namespace Table

variable {α β : Type}

def empty : Table α β where
  entries := []
  nodup := by simp

instance : Inhabited (Table α β) := ⟨empty⟩

def keys (table : Table α β) : List α :=
  table.entries.map Prod.fst

def values (table : Table α β) : List β :=
  table.entries.map Prod.snd

def size (table : Table α β) : Nat :=
  table.entries.length

/-- Keeps the entries that pass a test. -/
def filter (keep : α → β → Bool) (table : Table α β) : Table α β where
  entries := table.entries.filter fun (key, value) => keep key value
  nodup := table.nodup.sublist ((List.filter_sublist).map Prod.fst)

variable [DecidableEq α]

/-- The first value stored under a key in a list of entries. -/
def find? (key : α) : List (α × β) → Option β
  | [] => none
  | (k, value) :: rest => if k = key then some value else find? key rest

def get? (table : Table α β) (key : α) : Option β :=
  find? key table.entries

def getD (table : Table α β) (key : α) (default : β) : β :=
  (table.get? key).getD default

def contains (table : Table α β) (key : α) : Bool :=
  (table.get? key).isSome

def erase (table : Table α β) (key : α) : Table α β :=
  table.filter fun k _ => k ≠ key

/-- Stores a value in the place of the key's old entry, or as a new first entry. -/
def store (key : α) (value : β) (entries : List (α × β)) : List (α × β) :=
  if key ∈ entries.map Prod.fst then
    entries.map fun entry => if entry.1 = key then (key, value) else entry
  else (key, value) :: entries

theorem map_fst_replace (key : α) (value : β) (entries : List (α × β)) :
    (entries.map fun entry => if entry.1 = key then (key, value) else entry).map Prod.fst =
      entries.map Prod.fst := by
  rw [List.map_map]
  apply List.map_congr_left
  intro entry _
  simp only [Function.comp]
  split
  · rename_i same; exact same.symm
  · rfl

theorem nodup_store {key : α} {value : β} {entries : List (α × β)}
    (nodup : (entries.map Prod.fst).Nodup) : ((store key value entries).map Prod.fst).Nodup := by
  unfold store
  split
  · rw [map_fst_replace]; exact nodup
  · rename_i fresh
    rw [List.map_cons]
    exact List.nodup_cons.2 ⟨fresh, nodup⟩

def insert (table : Table α β) (key : α) (value : β) : Table α β where
  entries := store key value table.entries
  nodup := nodup_store table.nodup

/-- Changes the value under a key, or removes or adds it. -/
def alter (table : Table α β) (key : α) (change : Option β → Option β) : Table α β :=
  match change (table.get? key) with
  | some value => table.insert key value
  | none => table.erase key

/-- Changes the value under a key that is present. -/
def adjust (table : Table α β) (key : α) (change : β → β) : Table α β :=
  match table.get? key with
  | some value => table.insert key (change value)
  | none => table

/-- Stores pairs one after the other, so the last value of a key wins. -/
def ofList (pairs : List (α × β)) : Table α β :=
  pairs.foldl (fun table (key, value) => table.insert key value) empty

/-! ### What `get?` finds -/

theorem find?_eq_none_iff {key : α} {entries : List (α × β)} :
    find? key entries = none ↔ key ∉ entries.map Prod.fst := by
  induction entries with
  | nil => simp [find?]
  | cons entry rest ih =>
    obtain ⟨k, value⟩ := entry
    by_cases same : k = key
    · subst same; simp [find?]
    · have other : ¬ key = k := fun h => same h.symm
      simp [find?, same, other, ih]

theorem find?_eq_some_iff {key : α} {value : β} {entries : List (α × β)}
    (nodup : (entries.map Prod.fst).Nodup) :
    find? key entries = some value ↔ (key, value) ∈ entries := by
  induction entries with
  | nil => simp [find?]
  | cons entry rest ih =>
    obtain ⟨k, stored⟩ := entry
    rw [List.map_cons, List.nodup_cons] at nodup
    have ih := ih nodup.2
    by_cases same : k = key
    · subst same
      have absent : (k, value) ∉ rest := fun member =>
        nodup.1 (List.mem_map.2 ⟨(k, value), member, rfl⟩)
      simp [find?, absent, eq_comm]
    · have other : ¬ key = k := fun h => same h.symm
      simp [find?, same, other, ih]

theorem get?_eq_some_iff {table : Table α β} {key : α} {value : β} :
    table.get? key = some value ↔ (key, value) ∈ table.entries :=
  find?_eq_some_iff table.nodup

theorem get?_eq_none_iff {table : Table α β} {key : α} :
    table.get? key = none ↔ key ∉ table.keys :=
  find?_eq_none_iff

@[simp] theorem get?_empty (key : α) : (empty : Table α β).get? key = none := rfl

theorem find?_replace (key : α) (value : β) (other : α) (entries : List (α × β)) :
    find? other (entries.map fun entry => if entry.1 = key then (key, value) else entry) =
      if other = key ∧ key ∈ entries.map Prod.fst then some value else find? other entries := by
  induction entries with
  | nil => simp [find?]
  | cons entry rest ih =>
    obtain ⟨k, stored⟩ := entry
    by_cases same : k = key
    · subst same
      by_cases asked : k = other
      · subst asked; simp [find?]
      · have asked' : ¬ other = k := fun h => asked h.symm
        simp [find?, asked, asked', ih]
    · by_cases asked : k = other
      · subst asked
        simp [find?, same]
      · have same' : ¬ key = k := fun h => same h.symm
        have member : key ∈ ((k, stored) :: rest).map Prod.fst ↔ key ∈ rest.map Prod.fst := by
          simp [same']
        simp only [List.map_cons, find?, if_neg same, if_neg asked, ih]
        rw [List.map_cons] at member
        simp only [member]

theorem find?_store (key : α) (value : β) (other : α) (entries : List (α × β)) :
    find? other (store key value entries) = if other = key then some value else find? other entries := by
  unfold store
  split
  · rename_i present
    rw [find?_replace]
    simp [present]
  · by_cases same : key = other
    · subst same; simp [find?]
    · have same' : ¬ other = key := fun h => same h.symm
      simp [find?, same, same']

theorem get?_insert (table : Table α β) (key : α) (value : β) (other : α) :
    (table.insert key value).get? other = if other = key then some value else table.get? other :=
  find?_store key value other table.entries

@[simp] theorem get?_insert_self (table : Table α β) (key : α) (value : β) :
    (table.insert key value).get? key = some value := by
  simp [get?_insert]

theorem get?_filter (table : Table α β) (keep : α → β → Bool) (key : α) :
    (table.filter keep).get? key = (table.get? key).filter (keep key) := by
  cases found : table.get? key with
  | none =>
    have absent := get?_eq_none_iff.1 found
    simp only [Option.filter_none]
    rw [get?_eq_none_iff]
    exact fun member => absent (((List.filter_sublist).map Prod.fst).subset member)
  | some value =>
    have member := get?_eq_some_iff.1 found
    by_cases kept : keep key value
    · simp only [Option.filter_some, kept, if_true]
      rw [get?_eq_some_iff]
      exact List.mem_filter.2 ⟨member, by simpa using kept⟩
    · simp only [Option.filter_some, kept]
      rw [if_neg (by simp), get?_eq_none_iff]
      intro present
      obtain ⟨entry, inside, same⟩ := List.mem_map.1 present
      obtain ⟨stored, passes⟩ := List.mem_filter.1 inside
      obtain ⟨k, v⟩ := entry
      have same : k = key := same
      subst same
      have : table.get? k = some v := get?_eq_some_iff.2 stored
      rw [found] at this
      cases this
      exact kept (by simpa using passes)

theorem get?_erase (table : Table α β) (key other : α) :
    (table.erase key).get? other = if other = key then none else table.get? other := by
  unfold erase
  rw [get?_filter]
  by_cases same : other = key
  · cases found : table.get? other <;> simp [same]
  · cases found : table.get? other <;> simp [same]

@[simp] theorem get?_erase_self (table : Table α β) (key : α) :
    (table.erase key).get? key = none := by
  simp [get?_erase]

theorem get?_alter (table : Table α β) (key : α) (change : Option β → Option β) (other : α) :
    (table.alter key change).get? other =
      if other = key then change (table.get? key) else table.get? other := by
  unfold alter
  split
  · rename_i value changed; simp [get?_insert, changed]
  · rename_i changed; simp [get?_erase, changed]

theorem get?_adjust (table : Table α β) (key : α) (change : β → β) (other : α) :
    (table.adjust key change).get? other =
      if other = key then (table.get? key).map change else table.get? other := by
  unfold adjust
  split
  · rename_i value found; simp [get?_insert, found]
  · rename_i found
    by_cases same : other = key
    · simp [same, found]
    · simp [same]

/-- Of several pairs with one key, the last is stored. -/
theorem get?_ofList (pairs : List (α × β)) (key : α) : (ofList pairs).get? key = find? key pairs.reverse := by
  rw [← List.reverse_reverse pairs]
  generalize pairs.reverse = reversed
  rw [List.reverse_reverse]
  induction reversed with
  | nil => rfl
  | cons pair rest ih =>
    have stored : ofList (pair :: rest).reverse = (ofList rest.reverse).insert pair.1 pair.2 := by
      rw [ofList, List.reverse_cons, List.foldl_append]
      rfl
    rw [stored, get?_insert, ih]
    by_cases same : key = pair.1
    · simp [find?, same]
    · simp [find?, same, Ne.symm same]

theorem contains_iff {table : Table α β} {key : α} : table.contains key = true ↔ key ∈ table.keys := by
  unfold contains
  cases found : table.get? key with
  | none => simpa using get?_eq_none_iff.1 found
  | some value =>
    simp only [Option.isSome_some, true_iff]
    exact List.mem_map.2 ⟨(key, value), get?_eq_some_iff.1 found, rfl⟩

theorem mem_values_iff {table : Table α β} {value : β} :
    value ∈ table.values ↔ ∃ key, table.get? key = some value := by
  simp only [values, List.mem_map, get?_eq_some_iff, Prod.exists, exists_eq_right]

/-- A table is known by what is found in it, and nothing is found in the empty one alone. -/
theorem eq_empty_iff {table : Table α β} : table = empty ↔ ∀ key, table.get? key = none := by
  constructor
  · intro none key
    rw [none, get?_empty]
  · intro absent
    have void : table.entries = [] := by
      rw [List.eq_nil_iff_forall_not_mem]
      intro (key, value) member
      have found := get?_eq_some_iff.2 member
      rw [absent key] at found
      cases found
    obtain ⟨entries, nodup⟩ := table
    subst void
    rfl

end Table

end Attribution
