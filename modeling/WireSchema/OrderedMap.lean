/-
WireSchema.OrderedMap — maps that keep the order in which keys were first inserted.

Inserting under a key that is present replaces the value and leaves the key where it is. No key
occurs twice, so `get?` and the entries agree: `get?_eq_some_iff`.
-/

namespace WireSchema

/-- Keys with values, in the order of first insertion. -/
structure OrderedMap (κ : Type) (α : Type) where
  entries : List (κ × α) := []
  nodup : (entries.map (·.1)).Nodup := by exact List.nodup_nil
  deriving DecidableEq

namespace OrderedMap

variable {κ α : Type} [DecidableEq κ]

/-- The value stored under a key. -/
def get? (m : OrderedMap κ α) (key : κ) : Option α :=
  m.entries.lookup key

/-- Whether a key is present. -/
def contains (m : OrderedMap κ α) (key : κ) : Bool :=
  m.entries.any fun entry => entry.1 == key

/-- Replacing values keeps the keys. -/
theorem map_fst_replace (entries : List (κ × α)) (key : κ) (value : α) :
    (entries.map fun entry => if entry.1 == key then (entry.1, value) else entry).map (·.1) =
      entries.map (·.1) := by
  rw [List.map_map]
  apply List.map_congr_left
  intro entry _
  simp only [Function.comp_apply]
  split <;> rfl

/-- A new key at the end keeps the keys distinct. -/
theorem nodup_append_fresh {m : OrderedMap κ α} {key : κ} (value : α)
    (h : ¬ m.contains key = true) : ((m.entries ++ [(key, value)]).map (·.1)).Nodup := by
  simp only [contains, List.any_eq_true, beq_iff_eq, not_exists, not_and] at h
  simp only [List.map_append, List.map_cons, List.map_nil]
  rw [List.nodup_append]
  refine ⟨m.nodup, by simp, ?_⟩
  intro a ha b hb
  obtain ⟨entry, hentry, rfl⟩ := List.mem_map.mp ha
  rw [List.mem_singleton.mp hb]
  exact h entry hentry

/-- Replaces the value under a key, or adds the key at the end. -/
def insert (m : OrderedMap κ α) (key : κ) (value : α) : OrderedMap κ α :=
  if h : m.contains key then
    ⟨m.entries.map fun entry => if entry.1 == key then (entry.1, value) else entry,
      map_fst_replace m.entries key value ▸ m.nodup⟩
  else ⟨m.entries ++ [(key, value)], nodup_append_fresh value h⟩

/-- Removes a key; the others keep their order. -/
def erase (m : OrderedMap κ α) (key : κ) : OrderedMap κ α :=
  ⟨m.entries.filter fun entry => entry.1 != key,
    (List.filter_sublist.map Prod.fst).nodup m.nodup⟩

/-- The keys in order. -/
def keys (m : OrderedMap κ α) : List κ :=
  m.entries.map (·.1)

/-- The values in the order of their keys. -/
def values (m : OrderedMap κ α) : List α :=
  m.entries.map (·.2)

/-- How many keys there are. -/
def size (m : OrderedMap κ α) : Nat :=
  m.entries.length

omit [DecidableEq κ] in
theorem eq_of_entries {m n : OrderedMap κ α} (h : m.entries = n.entries) : m = n := by
  cases m
  cases n
  simp_all

/-! ## Looking up -/

theorem lookup_cons_ne {key k : κ} (h : key ≠ k) (v : α) (rest : List (κ × α)) :
    ((k, v) :: rest).lookup key = rest.lookup key := by
  rw [List.lookup_cons, beq_false_of_ne h]

theorem lookup_eq_some_iff {entries : List (κ × α)} (hnodup : (entries.map (·.1)).Nodup)
    {key : κ} {value : α} : entries.lookup key = some value ↔ (key, value) ∈ entries := by
  induction entries with
  | nil => simp
  | cons entry rest ih =>
    obtain ⟨k, v⟩ := entry
    simp only [List.map_cons, List.nodup_cons] at hnodup
    rw [List.mem_cons]
    by_cases hk : key = k
    · subst hk
      have hfresh : (key, value) ∉ rest := fun hmem =>
        hnodup.1 (List.mem_map.mpr ⟨_, hmem, rfl⟩)
      simp [hfresh, eq_comm]
    · simp [lookup_cons_ne hk, hk, ih hnodup.2]

/-- A key has the value of its only entry. -/
theorem get?_eq_some_iff {m : OrderedMap κ α} {key : κ} {value : α} :
    m.get? key = some value ↔ (key, value) ∈ m.entries :=
  lookup_eq_some_iff m.nodup

theorem mem_keys_iff {m : OrderedMap κ α} {key : κ} :
    key ∈ m.keys ↔ ∃ value, m.get? key = some value := by
  simp only [get?_eq_some_iff, keys, List.mem_map]
  constructor
  · rintro ⟨entry, hmem, rfl⟩
    exact ⟨entry.2, hmem⟩
  · rintro ⟨value, hmem⟩
    exact ⟨_, hmem, rfl⟩

theorem get?_eq_none_iff {m : OrderedMap κ α} {key : κ} : m.get? key = none ↔ key ∉ m.keys := by
  rw [mem_keys_iff, not_exists]
  constructor
  · intro h value
    simp [h]
  · intro h
    exact Option.eq_none_iff_forall_ne_some.mpr h

theorem contains_iff {m : OrderedMap κ α} {key : κ} : m.contains key = true ↔ key ∈ m.keys := by
  simp [contains, keys]

theorem mem_values_iff {m : OrderedMap κ α} {value : α} :
    value ∈ m.values ↔ ∃ key, m.get? key = some value := by
  simp only [get?_eq_some_iff, values, List.mem_map]
  constructor
  · rintro ⟨entry, hmem, rfl⟩
    exact ⟨entry.1, hmem⟩
  · rintro ⟨key, hmem⟩
    exact ⟨_, hmem, rfl⟩

/-! ## Inserting -/

theorem entries_insert_fresh {m : OrderedMap κ α} {key : κ} (value : α) (h : key ∉ m.keys) :
    (m.insert key value).entries = m.entries ++ [(key, value)] := by
  rw [insert, dif_neg (by rwa [contains_iff])]

theorem lookup_replace (entries : List (κ × α)) (key name : κ) (value : α) :
    (entries.map fun entry => if entry.1 == key then (entry.1, value) else entry).lookup name =
      if name = key then (entries.lookup key).map (fun _ => value) else entries.lookup name := by
  induction entries with
  | nil => simp
  | cons entry rest ih =>
    obtain ⟨k, v⟩ := entry
    simp only [beq_iff_eq] at ih ⊢
    by_cases hk : k = key
    · subst hk
      by_cases hn : name = k
      · simp [hn]
      · simp [hn, lookup_cons_ne hn, ih]
    · by_cases hn : name = k
      · subst hn
        simp [hk]
      · simp [hk, lookup_cons_ne hn, lookup_cons_ne (Ne.symm hk), ih]

@[simp] theorem get?_insert (m : OrderedMap κ α) (key name : κ) (value : α) :
    (m.insert key value).get? name = if name = key then some value else m.get? name := by
  by_cases h : key ∈ m.keys
  · obtain ⟨old, hold⟩ := mem_keys_iff.mp h
    simp only [insert, dif_pos (contains_iff.mpr h), get?, lookup_replace]
    rw [show m.entries.lookup key = some old from hold]
    rfl
  · simp only [get?, entries_insert_fresh value h, List.lookup_append]
    by_cases hn : name = key
    · subst hn
      rw [show m.entries.lookup name = none from get?_eq_none_iff.mpr h]
      simp
    · simp [hn, lookup_cons_ne hn]

@[simp] theorem get?_empty (key : κ) : ({} : OrderedMap κ α).get? key = none := rfl

theorem mem_keys_insert {m : OrderedMap κ α} {key name : κ} {value : α} :
    name ∈ (m.insert key value).keys ↔ name = key ∨ name ∈ m.keys := by
  simp only [mem_keys_iff, get?_insert]
  by_cases h : name = key <;> simp [h]

/-! ## Erasing -/

theorem mem_keys_erase {m : OrderedMap κ α} {key name : κ} :
    name ∈ (m.erase key).keys ↔ name ≠ key ∧ name ∈ m.keys := by
  simp only [keys, erase, List.mem_map, List.mem_filter, bne_iff_ne]
  constructor
  · rintro ⟨entry, ⟨hmem, hne⟩, rfl⟩
    exact ⟨hne, entry, hmem, rfl⟩
  · rintro ⟨hne, entry, hmem, rfl⟩
    exact ⟨entry, ⟨hmem, hne⟩, rfl⟩

theorem get?_erase_of_ne {m : OrderedMap κ α} {key name : κ} (h : name ≠ key) :
    (m.erase key).get? name = m.get? name := by
  refine Option.ext fun value => ?_
  simp [get?_eq_some_iff, erase, h]

end OrderedMap

end WireSchema
