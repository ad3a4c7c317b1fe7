import FluentSql.OrderedMap
import Mathlib.Data.List.Induction
import Mathlib.Data.List.Nodup
/-!
# `FluentSql.Proofs.OrderedMaps` — further laws of maps in insertion order

The entries of a map are a list, and its laws hold where the keys in this list are apart. Insertion
keeps them apart (`OrderedMap.nodup_keys_insert`), and so does removal.

* `keys_erase`, `get?_erase` — what is left after a removal;
* `insertAll_entries` — the entries of a map, put in one after the other, are the map;
* `keys_ofList`, `get?_ofList` — the keys in the order of their first insertion, and the values put in
  last;
* `insertAll_assoc`, `insertAll_self` — maps are put into each other as into one list.
-/

namespace FluentSql
namespace OrderedMap

variable {κ υ : Type} [DecidableEq κ]

/-! ## Looking up -/

/-- What is put behind entries of other keys is found. -/
theorem lookup_append_of_not_mem {key : κ} {front back : List (κ × υ)}
    (h : key ∉ front.map Prod.fst) : lookup key (front ++ back) = lookup key back := by
  induction front with
  | nil => rfl
  | cons e front ih =>
    rw [List.map_cons, List.mem_cons, not_or] at h
    rw [List.cons_append, lookup, if_neg fun heq => h.1 heq.symm]
    exact ih h.2

/-- What is found is an entry. -/
theorem mem_of_lookup {key : κ} {value : υ} {entries : List (κ × υ)}
    (h : lookup key entries = some value) : (key, value) ∈ entries := by
  induction entries with
  | nil => cases h
  | cons e entries ih =>
    obtain ⟨k, v⟩ := e
    rw [lookup] at h
    split at h
    · rename_i hk
      cases h
      rw [hk]
      exact List.mem_cons_self
    · exact List.mem_cons_of_mem _ (ih h)

theorem lookup_eq_none {key : κ} {entries : List (κ × υ)} (h : key ∉ entries.map Prod.fst) :
    lookup key entries = none := by
  rw [← Option.not_isSome_iff_eq_none]
  intro hsome
  exact h ((lookup_isSome_iff key entries).mp hsome)

/-- The values may be converted before or after one of them is looked up. -/
theorem lookup_map {ω : Type} (key : κ) (f : υ → ω) (entries : List (κ × υ)) :
    lookup key (entries.map (Prod.map id f)) = (lookup key entries).map f := by
  induction entries with
  | nil => rfl
  | cons e entries ih =>
    obtain ⟨k, v⟩ := e
    show (if k = key then some (f v) else lookup key (entries.map (Prod.map id f))) = _
    rw [ih, lookup]
    split <;> rfl

/-! ## Removing -/

theorem lookup_without {key : κ} {entries : List (κ × υ)} (h : (entries.map Prod.fst).Nodup)
    (key' : κ) :
    lookup key' (without key entries) = if key = key' then none else lookup key' entries := by
  induction entries with
  | nil => simp [without, lookup]
  | cons e entries ih =>
    obtain ⟨k, v⟩ := e
    obtain ⟨hfirst, hrest⟩ := List.nodup_cons.mp h
    by_cases hk : k = key
    · subst hk
      rw [without, if_pos rfl, lookup]
      by_cases hk' : k = key'
      · subst hk'
        rw [if_pos rfl, lookup_eq_none hfirst]
      · rw [if_neg hk', if_neg hk']
    · rw [without, if_neg hk, lookup, ih hrest, lookup]
      by_cases hk' : key = key'
      · subst hk'
        rw [if_pos rfl, if_pos rfl, if_neg hk]
      · rw [if_neg hk', if_neg hk']

/-- **What is found after a removal**: nothing under its key, the old values elsewhere. -/
theorem get?_erase {m : OrderedMap κ υ} (h : m.keys.Nodup) (key key' : κ) :
    (m.erase key).get? key' = if key = key' then none else m.get? key' :=
  lookup_without h key'

theorem map_fst_without {key : κ} {entries : List (κ × υ)} (h : (entries.map Prod.fst).Nodup) :
    (without key entries).map Prod.fst = (entries.map Prod.fst).filter (· ≠ key) := by
  induction entries with
  | nil => rfl
  | cons e entries ih =>
    obtain ⟨k, v⟩ := e
    obtain ⟨hfirst, hrest⟩ := List.nodup_cons.mp h
    by_cases hk : k = key
    · subst hk
      have hall : (entries.map Prod.fst).filter (· ≠ k) = entries.map Prod.fst := by
        refine List.filter_eq_self.mpr fun other hother => ?_
        have hne : other ≠ k := fun heq => hfirst (heq ▸ hother)
        simp [hne]
      rw [without, if_pos rfl, List.map_cons, List.filter_cons_of_neg (by simp), hall]
    · rw [without, if_neg hk, List.map_cons, List.map_cons, List.filter_cons_of_pos (by simp [hk]),
        ih hrest]

/-- **The keys after a removal** are the others, in their order. -/
theorem keys_erase {m : OrderedMap κ υ} (h : m.keys.Nodup) (key : κ) :
    (m.erase key).keys = m.keys.filter (· ≠ key) :=
  map_fst_without h

/-- Removal keeps keys apart. -/
theorem nodup_keys_erase {m : OrderedMap κ υ} (h : m.keys.Nodup) (key : κ) :
    (m.erase key).keys.Nodup := by
  rw [keys_erase h]
  exact h.filter _

/-! ## Putting in -/

/-- A new key goes to the end. -/
theorem put_of_not_mem {key : κ} {entries : List (κ × υ)} (h : key ∉ entries.map Prod.fst)
    (value : υ) : put key value entries = entries ++ [(key, value)] := by
  induction entries with
  | nil => rfl
  | cons e entries ih =>
    obtain ⟨k, v⟩ := e
    rw [List.map_cons, List.mem_cons, not_or] at h
    rw [put, if_neg fun heq => h.1 heq.symm, ih h.2]
    rfl

/-- New keys go to the end, one after the other. -/
theorem insertAll_of_nodup (front : List (κ × υ)) {entries : List (κ × υ)}
    (h : ((front ++ entries).map Prod.fst).Nodup) :
    insertAll ⟨front⟩ entries = ⟨front ++ entries⟩ := by
  induction entries generalizing front with
  | nil => rw [List.append_nil]; rfl
  | cons e entries ih =>
    obtain ⟨k, v⟩ := e
    have hnew : k ∉ front.map Prod.fst := by
      rw [List.map_append, List.map_cons] at h
      intro hmem
      exact (List.nodup_append.mp h).2.2 k hmem k List.mem_cons_self rfl
    show insertAll ⟨put k v front⟩ entries = _
    rw [put_of_not_mem hnew, ih _ (by rwa [List.append_assoc]), List.append_assoc]
    rfl

/-- **The entries of a map**, put in one after the other, are the map. -/
theorem insertAll_entries {m : OrderedMap κ υ} (h : m.keys.Nodup) :
    insertAll {} m.entries = m :=
  insertAll_of_nodup [] h

theorem insertAll_append (m : OrderedMap κ υ) (front back : List (κ × υ)) :
    m.insertAll (front ++ back) = (m.insertAll front).insertAll back := by
  rw [insertAll, List.foldl_append]
  rfl

theorem ofList_concat (pairs : List (κ × υ)) (key : κ) (value : υ) :
    ofList (pairs ++ [(key, value)]) = (ofList pairs).insert key value :=
  insertAll_append empty pairs [(key, value)]

/-- **The keys** are those that were put in, in the order in which they first were. -/
theorem keys_ofList (pairs : List (κ × υ)) :
    (ofList pairs).keys = (pairs.map Prod.fst).eraseDups := by
  induction pairs using List.reverseRecOn with
  | nil => rfl
  | append_singleton pairs e ih =>
    obtain ⟨key, value⟩ := e
    rw [ofList_concat, keys_insert, ih, List.map_append, List.eraseDups_append]
    by_cases hmem : key ∈ pairs.map Prod.fst
    · simp [hmem, List.removeAll]
    · simp [hmem, List.removeAll, List.eraseDups_cons]

/-- **The value of a key** is the one that was put in last. -/
theorem get?_ofList (pairs : List (κ × υ)) (key : κ) :
    (ofList pairs).get? key = lookup key pairs.reverse := by
  induction pairs using List.reverseRecOn with
  | nil => rfl
  | append_singleton pairs e ih =>
    rw [ofList_concat, get?_insert, ih, List.reverse_concat, lookup]

/-- **What is found** after entries of different keys were put in: the value of the entry, else what was
    there. -/
theorem get?_insertAll (m : OrderedMap κ υ) {pairs : List (κ × υ)} (h : (pairs.map Prod.fst).Nodup)
    (key : κ) : (m.insertAll pairs).get? key = (lookup key pairs).or (m.get? key) := by
  induction pairs generalizing m with
  | nil => rfl
  | cons e pairs ih =>
    obtain ⟨k, v⟩ := e
    obtain ⟨hfirst, hrest⟩ := List.nodup_cons.mp h
    show ((m.insert k v).insertAll pairs).get? key = _
    rw [ih _ hrest, get?_insert, lookup]
    by_cases hk : k = key
    · subst hk
      rw [if_pos rfl, if_pos rfl, lookup_eq_none hfirst]
      rfl
    · rw [if_neg hk, if_neg hk]

/-- What is there already changes nothing. -/
theorem put_of_lookup {key : κ} {value : υ} {entries : List (κ × υ)}
    (h : lookup key entries = some value) : put key value entries = entries := by
  induction entries with
  | nil => cases h
  | cons e entries ih =>
    obtain ⟨k, v⟩ := e
    rw [lookup] at h
    rw [put]
    split at h
    · rename_i hk
      cases h
      rw [if_pos hk]
    · rename_i hk
      rw [if_neg hk, ih h]

/-- **Entries that are there already** change nothing. -/
theorem insertAll_of_get? {m : OrderedMap κ υ} {pairs : List (κ × υ)}
    (h : ∀ e ∈ pairs, m.get? e.1 = some e.2) : m.insertAll pairs = m := by
  induction pairs with
  | nil => rfl
  | cons e pairs ih =>
    have hput : m.insert e.1 e.2 = m := congrArg mk (put_of_lookup (h e List.mem_cons_self))
    show (m.insert e.1 e.2).insertAll pairs = m
    rw [hput]
    exact ih fun e' he' => h e' (List.mem_cons_of_mem e he')

/-- A map put into itself is the map. -/
theorem insertAll_self {m : OrderedMap κ υ} (h : m.keys.Nodup) : m.insertAll m.entries = m :=
  insertAll_of_get? fun _ he => lookup_of_mem h he

/-! ## The order of insertions -/

/-- Of two values under one key the second stays. -/
theorem put_put (key : κ) (v w : υ) (entries : List (κ × υ)) :
    put key w (put key v entries) = put key w entries := by
  induction entries with
  | nil => exact if_pos rfl
  | cons e entries ih =>
    obtain ⟨k, u⟩ := e
    by_cases hk : k = key
    · rw [put, if_pos hk, put, if_pos hk, put, if_pos hk]
    · rw [put, if_neg hk, put, if_neg hk, put, if_neg hk, ih]

/-- A value under a present key may be put in before or after one under another key: neither takes the
    other's place. -/
theorem put_comm {key key' : κ} (h : key ≠ key') (v w : υ) {entries : List (κ × υ)}
    (hmem : key ∈ entries.map Prod.fst) :
    put key' w (put key v entries) = put key v (put key' w entries) := by
  induction entries with
  | nil => exact absurd hmem List.not_mem_nil
  | cons e entries ih =>
    obtain ⟨k, u⟩ := e
    by_cases hk : k = key
    · subst hk
      rw [put, if_pos rfl, put, if_neg h, put, if_neg h, put, if_pos rfl]
    · have hrest : key ∈ entries.map Prod.fst := (List.mem_cons.mp hmem).resolve_left (Ne.symm hk)
      by_cases hk' : k = key'
      · subst hk'
        rw [put, if_neg hk, put, if_pos rfl, put, if_pos rfl, put, if_neg hk]
      · rw [put, if_neg hk, put, if_neg hk', put, if_neg hk', put, if_neg hk, ih hrest]

/-- A value under a present key may be put in before or after entries of other keys. -/
theorem insert_insertAll {m : OrderedMap κ υ} {key : κ} (hmem : key ∈ m.keys) (value : υ)
    {pairs : List (κ × υ)} (h : key ∉ pairs.map Prod.fst) :
    (m.insert key value).insertAll pairs = (m.insertAll pairs).insert key value := by
  induction pairs generalizing m with
  | nil => rfl
  | cons e pairs ih =>
    obtain ⟨k, v⟩ := e
    rw [List.map_cons, List.mem_cons, not_or] at h
    have hcomm : (m.insert key value).insert k v = (m.insert k v).insert key value :=
      congrArg mk (put_comm h.1 value v hmem)
    have hstill : key ∈ (m.insert k v).keys := by
      rw [keys_insert]
      split
      · exact hmem
      · exact List.mem_append_left _ hmem
    show ((m.insert key value).insert k v).insertAll pairs = _
    rw [hcomm, ih hstill h.2]
    rfl

/-- A key that was put in is there. -/
theorem mem_keys_insert (m : OrderedMap κ υ) (key : κ) (value : υ) :
    key ∈ (m.insert key value).keys := by
  rw [keys_insert]
  split
  · assumption
  · exact List.mem_append_right _ List.mem_cons_self

/-- **A list with one more value put in**, put into a map: the same as the list and then the value. -/
theorem insertAll_put (m : OrderedMap κ υ) (key : κ) (value : υ) {entries : List (κ × υ)}
    (h : (entries.map Prod.fst).Nodup) :
    m.insertAll (put key value entries) = (m.insertAll entries).insert key value := by
  induction entries generalizing m with
  | nil => rfl
  | cons e entries ih =>
    obtain ⟨k, v⟩ := e
    obtain ⟨hfirst, hrest⟩ := List.nodup_cons.mp h
    by_cases hk : k = key
    · -- the value takes the place of an older one, which is put in first and replaced in the end
      subst hk
      rw [put, if_pos rfl]
      have hreplaced : (m.insert k v).insert k value = m.insert k value :=
        congrArg mk (put_put k v value m.entries)
      calc (m.insert k value).insertAll entries
          = ((m.insert k v).insert k value).insertAll entries := by rw [hreplaced]
        _ = ((m.insert k v).insertAll entries).insert k value :=
            insert_insertAll (mem_keys_insert m k v) value hfirst
    · rw [put, if_neg hk]
      exact ih (m.insert k v) hrest

theorem nodup_keys_ofList (pairs : List (κ × υ)) : (ofList pairs).keys.Nodup := by
  induction pairs using List.reverseRecOn with
  | nil => exact List.nodup_nil
  | append_singleton pairs e ih =>
    rw [ofList_concat]
    exact nodup_keys_insert ih e.1 e.2

/-- **A list may be made a map** before it is put into one. -/
theorem insertAll_ofList (m : OrderedMap κ υ) (pairs : List (κ × υ)) :
    m.insertAll (ofList pairs).entries = m.insertAll pairs := by
  induction pairs using List.reverseRecOn with
  | nil => rfl
  | append_singleton pairs e ih =>
    rw [ofList_concat, insertAll_append, ← ih]
    exact insertAll_put m e.1 e.2 (nodup_keys_ofList pairs)

/-- **Putting maps into each other** is associative. -/
theorem insertAll_assoc (m : OrderedMap κ υ) {n : OrderedMap κ υ} (h : n.keys.Nodup)
    (pairs : List (κ × υ)) :
    (m.insertAll n.entries).insertAll pairs = m.insertAll (n.insertAll pairs).entries := by
  have hn : n.insertAll pairs = ofList (n.entries ++ pairs) := by
    rw [ofList, insertAll_append]
    exact congrArg (insertAll · pairs) (insertAll_entries h).symm
  rw [hn, insertAll_ofList, insertAll_append]

/-- The first entry is that of the first key. -/
theorem head?_entries (m : OrderedMap κ υ) :
    m.entries.head? = m.keys.head?.bind fun key => (m.get? key).map (key, ·) := by
  unfold keys get?
  cases m.entries with
  | nil => rfl
  | cons e entries => simp [lookup]

end OrderedMap

end FluentSql
