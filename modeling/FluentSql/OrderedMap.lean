/-!
# `FluentSql.OrderedMap` — maps that remember the order of insertion

A map from keys to values whose entries stay in the order in which their keys were first put in.
Putting a value under a present key keeps the key's place. Payloads, parameters, sort orders and
aggregates are all such maps.

* `keys_insert` — the keys after an insertion;
* `get?_insert` — what is found after an insertion.
-/

namespace FluentSql

/-- **A map in insertion order.** -/
structure OrderedMap (κ υ : Type) where
  entries : List (κ × υ) := []
  deriving DecidableEq, Inhabited

namespace OrderedMap

variable {κ υ : Type} [DecidableEq κ]

/-! ## Operations -/

/-- The value of the first entry with this key. -/
def lookup (key : κ) : List (κ × υ) → Option υ
  | [] => none
  | (k, v) :: rest => if k = key then some v else lookup key rest

/-- The value under the first entry with this key replaced, or a new entry at the end. -/
def put (key : κ) (value : υ) : List (κ × υ) → List (κ × υ)
  | [] => [(key, value)]
  | (k, v) :: rest => if k = key then (k, value) :: rest else (k, v) :: put key value rest

/-- The first entry with this key left out. -/
def without (key : κ) : List (κ × υ) → List (κ × υ)
  | [] => []
  | (k, v) :: rest => if k = key then rest else (k, v) :: without key rest

/-- No entries. -/
def empty : OrderedMap κ υ := ⟨[]⟩

/-- **Looking up** a key. -/
def get? (m : OrderedMap κ υ) (key : κ) : Option υ := lookup key m.entries

/-- Whether a key is present. -/
def contains (m : OrderedMap κ υ) (key : κ) : Bool := (m.get? key).isSome

/-- **Putting a value** under a key: a present key keeps its place, a new one goes to the end. -/
def insert (m : OrderedMap κ υ) (key : κ) (value : υ) : OrderedMap κ υ := ⟨put key value m.entries⟩

/-- **Removing** a key. -/
def erase (m : OrderedMap κ υ) (key : κ) : OrderedMap κ υ := ⟨without key m.entries⟩

/-- The keys in order. -/
def keys (m : OrderedMap κ υ) : List κ := m.entries.map Prod.fst

/-- The values in order. -/
def values (m : OrderedMap κ υ) : List υ := m.entries.map Prod.snd

/-- The number of entries. -/
def size (m : OrderedMap κ υ) : Nat := m.entries.length

/-- Whether there is no entry. -/
def isEmpty (m : OrderedMap κ υ) : Bool := m.entries.isEmpty

/-- **Putting in** several entries, one after the other. -/
def insertAll (m : OrderedMap κ υ) (pairs : List (κ × υ)) : OrderedMap κ υ :=
  pairs.foldl (fun m (k, v) => m.insert k v) m

/-- The map of a list of entries; later values of a key win. -/
def ofList (pairs : List (κ × υ)) : OrderedMap κ υ := insertAll empty pairs

/-! ## Laws -/

theorem lookup_put (key key' : κ) (value : υ) (l : List (κ × υ)) :
    lookup key' (put key value l) = if key = key' then some value else lookup key' l := by
  induction l with
  | nil => simp [put, lookup]
  | cons e rest ih =>
    obtain ⟨k, v⟩ := e
    by_cases hk : k = key
    · subst hk
      by_cases hk' : k = key' <;> simp [put, lookup, hk']
    · by_cases hk' : k = key'
      · subst hk'
        simp [put, lookup, hk, Ne.symm hk]
      · simp [put, lookup, hk, hk', ih]

/-- **What is found after an insertion**: the new value under its key, the old values elsewhere. -/
theorem get?_insert (m : OrderedMap κ υ) (key key' : κ) (value : υ) :
    (m.insert key value).get? key' = if key = key' then some value else m.get? key' :=
  lookup_put key key' value m.entries

theorem map_fst_put (key : κ) (value : υ) (l : List (κ × υ)) :
    (put key value l).map Prod.fst =
      if key ∈ l.map Prod.fst then l.map Prod.fst else l.map Prod.fst ++ [key] := by
  induction l with
  | nil => simp [put]
  | cons e rest ih =>
    obtain ⟨k, v⟩ := e
    by_cases hk : k = key
    · simp [put, hk]
    · simp only [put, if_neg hk, List.map_cons, ih, List.mem_cons]
      by_cases hm : key ∈ rest.map Prod.fst
      · simp [hm]
      · simp [hm, Ne.symm hk]

/-- **The keys after an insertion**: unchanged for a present key, else with the new key at the end. -/
theorem keys_insert (m : OrderedMap κ υ) (key : κ) (value : υ) :
    (m.insert key value).keys = if key ∈ m.keys then m.keys else m.keys ++ [key] :=
  map_fst_put key value m.entries

theorem lookup_isSome_iff (key : κ) (l : List (κ × υ)) :
    (lookup key l).isSome = true ↔ key ∈ l.map Prod.fst := by
  induction l with
  | nil => simp [lookup]
  | cons e rest ih =>
    obtain ⟨k, v⟩ := e
    by_cases hk : k = key
    · simp [lookup, hk]
    · simp [lookup, hk, ih, Ne.symm hk]

/-- **Every entry is found** where the keys are apart. -/
theorem lookup_of_mem {l : List (κ × υ)} (h : (l.map Prod.fst).Nodup) {key : κ} {value : υ}
    (hmem : (key, value) ∈ l) : lookup key l = some value := by
  induction l with
  | nil => exact absurd hmem List.not_mem_nil
  | cons e rest ih =>
    obtain ⟨hfirst, hrest⟩ := List.nodup_cons.mp h
    rcases List.mem_cons.mp hmem with rfl | hmem
    · exact if_pos rfl
    · have hne : e.1 ≠ key := fun heq => hfirst (heq ▸ List.mem_map_of_mem hmem)
      exact (if_neg hne).trans (ih hrest hmem)

/-- A key is contained iff it is among the keys. -/
theorem contains_iff_mem_keys (m : OrderedMap κ υ) (key : κ) :
    m.contains key = true ↔ key ∈ m.keys :=
  lookup_isSome_iff key m.entries

/-- Insertion keeps keys apart. -/
theorem nodup_keys_insert {m : OrderedMap κ υ} (h : m.keys.Nodup) (key : κ) (value : υ) :
    (m.insert key value).keys.Nodup := by
  rw [keys_insert]
  by_cases hm : key ∈ m.keys
  · simpa [hm] using h
  · rw [if_neg hm]
    refine List.nodup_append.mpr ⟨h, by simp, ?_⟩
    intro a ha b hb
    simp only [List.mem_singleton] at hb
    exact fun hab => hm (hb ▸ hab ▸ ha)

end OrderedMap

end FluentSql
