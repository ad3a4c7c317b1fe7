import FluentSql.Proofs.OrderedMaps
/-!
# `FluentSql.Proofs.MapHistories` — maps in insertion order against their histories

A value is put in under a key, a key is removed, everything is forgotten: what a map holds after such
changes can be read off them without a map. A put counts unless its key is dropped later on
(`OrderedMap.live`). The keys stand in the order of the first put that counts, and the last one has the
value (`OrderedMap.current`).

* `OrderedMap.replay` — a history, one change after the other;
* `OrderedMap.Follows` — a map holds what its history says;
* `OrderedMap.follows_replay` — so it is after every history, by induction on the last change.
-/

namespace FluentSql
namespace OrderedMap

variable {κ υ : Type} [DecidableEq κ]

/-! ## Histories -/

/-- **A change of a map.** -/
inductive Change (κ υ : Type) where
  | put (key : κ) (value : υ)
  | remove (key : κ)
  | clear

/-- Whether a key is absent after a change, whatever was there. -/
def Change.drops (key : κ) : Change κ υ → Bool
  | .put _ _ => false
  | .remove other => other = key
  | .clear => true

/-- Whether a change decides what is found under a key. -/
def Change.concerns (key : κ) : Change κ υ → Bool
  | .put other _ => other = key
  | .remove other => other = key
  | .clear => true

/-- A change made. -/
def apply (m : OrderedMap κ υ) : Change κ υ → OrderedMap κ υ
  | .put key value => m.insert key value
  | .remove key => m.erase key
  | .clear => empty

/-- **A history**, one change after the other. -/
def replay (m : OrderedMap κ υ) (history : List (Change κ υ)) : OrderedMap κ υ :=
  history.foldl apply m

/-- The changes of pairs that are put in, one after the other. -/
def puts (pairs : List (κ × υ)) : List (Change κ υ) := pairs.map fun (key, value) => .put key value

/-- **The puts that count**: those of a key since it was last absent. -/
def live : List (Change κ υ) → List (κ × υ)
  | [] => []
  | .put key value :: later =>
    if later.any (Change.drops key) then live later else (key, value) :: live later
  | .remove _ :: later => live later
  | .clear :: later => live later

/-- **What a history leaves**: each key at the place of its first put that counts, with the value of the
    last one. -/
def current (history : List (Change κ υ)) : List (κ × υ) :=
  ((live history).map Prod.fst).eraseDups.filterMap fun key =>
    (lookup key (live history).reverse).map (key, ·)

/-- **A map follows a history.** -/
structure Follows (m : OrderedMap κ υ) (history : List (Change κ υ)) : Prop where
  /-- No key is there twice. -/
  nodup : m.keys.Nodup
  /-- The keys are in the order of their first insertion since they were last absent. -/
  keys : m.keys = ((live history).map Prod.fst).eraseDups
  /-- What is found under a key is the value that was put in last, and nothing dropped it since. -/
  get?_iff : ∀ key value, m.get? key = some value ↔
    ∃ before after, history = before ++ .put key value :: after ∧ ∀ e ∈ after, e.concerns key = false
  /-- The entries are the present ones, and nothing else. -/
  entries : m.entries = current history

/-! ## One more change -/

theorem live_concat_put (history : List (Change κ υ)) (key : κ) (value : υ) :
    live (history ++ [.put key value]) = live history ++ [(key, value)] := by
  induction history with
  | nil => rfl
  | cons e history ih =>
    cases e with
    | put k v =>
      -- a put drops no key, so the puts before it count as they did
      have hdrops : (history ++ [Change.put key value]).any (Change.drops k) =
          history.any (Change.drops k) := by
        simp [Change.drops]
      rw [List.cons_append, live, live, hdrops, ih]
      split <;> rfl
    | remove k => exact ih
    | clear => exact ih

theorem live_concat_remove (history : List (Change κ υ)) (key : κ) :
    live (history ++ [.remove key]) = (live history).filter (·.1 ≠ key) := by
  induction history with
  | nil => rfl
  | cons e history ih =>
    cases e with
    | put k v =>
      have hdrops : (history ++ [Change.remove key]).any (Change.drops k) =
          (history.any (Change.drops k) || decide (key = k)) := by
        simp [Change.drops]
      rw [List.cons_append, live, live, hdrops, ih]
      by_cases hk : key = k
      · subst hk
        cases history.any (Change.drops key) <;> simp
      · have hk' : ¬k = key := fun heq => hk heq.symm
        cases history.any (Change.drops k) <;> simp [hk, hk']
    | remove k => exact ih
    | clear => exact ih

theorem live_concat_clear (history : List (Change κ υ)) : live (history ++ [.clear]) = [] := by
  induction history with
  | nil => rfl
  | cons e history ih =>
    cases e with
    | put k v =>
      have hdrops : (history ++ [Change.clear]).any (Change.drops k) = true := by simp [Change.drops]
      rw [List.cons_append, live, if_pos hdrops, ih]
    | remove k => exact ih
    | clear => exact ih

theorem replay_concat (m : OrderedMap κ υ) (history : List (Change κ υ)) (e : Change κ υ) :
    m.replay (history ++ [e]) = (m.replay history).apply e := by
  rw [replay, List.foldl_append]
  rfl

theorem replay_append (m : OrderedMap κ υ) (front back : List (Change κ υ)) :
    m.replay (front ++ back) = (m.replay front).replay back :=
  List.foldl_append

/-- Entries that are put in are as many changes. -/
theorem insertAll_eq_replay (m : OrderedMap κ υ) (pairs : List (κ × υ)) :
    m.insertAll pairs = m.replay (puts pairs) := by
  rw [replay, puts, List.foldl_map]
  rfl

/-- **A map in a state** that calls change step by step follows the changes of the calls. -/
theorem replay_flatMap {σ ι : Type} {step : σ → ι → σ} (view : σ → OrderedMap κ υ)
    {changes : ι → List (Change κ υ)}
    (h : ∀ s call, view (step s call) = (view s).replay (changes call)) (s : σ) (calls : List ι) :
    view (calls.foldl step s) = (view s).replay (calls.flatMap changes) := by
  induction calls generalizing s with
  | nil => rfl
  | cons call calls ih => rw [List.foldl_cons, ih, h, List.flatMap_cons, replay_append]

/-! ## The run of a history -/

/-- A key that is put in and removed again leaves what its removal leaves; other keys do not care. -/
theorem without_put (key other : κ) (value : υ) (entries : List (κ × υ)) :
    without key (put other value entries) =
      if other = key then without key entries else put other value (without key entries) := by
  induction entries with
  | nil => by_cases h : other = key <;> simp [put, without, h]
  | cons e entries ih =>
    obtain ⟨k, v⟩ := e
    by_cases hother : k = other
    · subst hother
      by_cases hk : k = key
      · rw [put, if_pos rfl, without, if_pos hk, if_pos hk, without, if_pos hk]
      · rw [put, if_pos rfl, without, if_neg hk, if_neg hk, without, if_neg hk, put, if_pos rfl]
    · by_cases hk : k = key
      · subst hk
        rw [put, if_neg hother, without, if_pos rfl, if_neg fun heq => hother heq.symm, without,
          if_pos rfl]
      · rw [put, if_neg hother, without, if_neg hk, ih, without, if_neg hk]
        by_cases h : other = key
        · rw [if_pos h, if_pos h]
        · rw [if_neg h, if_neg h, put, if_neg hother]

/-- **A removed key** leaves the map of the other pairs. -/
theorem erase_ofList (pairs : List (κ × υ)) (key : κ) :
    (ofList pairs).erase key = ofList (pairs.filter (·.1 ≠ key)) := by
  induction pairs using List.reverseRecOn with
  | nil => rfl
  | append_singleton pairs e ih =>
    obtain ⟨k, v⟩ := e
    have hput : (ofList (pairs ++ [(k, v)])).erase key =
        if k = key then (ofList pairs).erase key else ((ofList pairs).erase key).insert k v := by
      rw [ofList_concat]
      show mk (without key (put k v (ofList pairs).entries)) = _
      rw [without_put]
      split <;> rfl
    rw [hput, ih, List.filter_append]
    by_cases hk : k = key
    · simp [hk]
    · simp [hk, ofList_concat]

/-- **The run of a history** puts in what counts of it. -/
theorem replay_eq_ofList (history : List (Change κ υ)) :
    replay empty history = ofList (live history) := by
  induction history using List.reverseRecOn with
  | nil => rfl
  | append_singleton history e ih =>
    rw [replay_concat, ih]
    cases e with
    | put key value => rw [live_concat_put, ofList_concat]; rfl
    | remove key => rw [live_concat_remove, ← erase_ofList]; rfl
    | clear => rw [live_concat_clear]; rfl

theorem nodup_keys_replay (history : List (Change κ υ)) : (replay empty history).keys.Nodup := by
  rw [replay_eq_ofList]
  exact nodup_keys_ofList (live history)

/-- One change decides what is found under the keys that it concerns. -/
theorem get?_apply {m : OrderedMap κ υ} (h : m.keys.Nodup) (e : Change κ υ) (key : κ) (value : υ) :
    (m.apply e).get? key = some value ↔
      e = .put key value ∨ (e.concerns key = false ∧ m.get? key = some value) := by
  cases e with
  | put k v =>
    rw [apply, get?_insert]
    by_cases hk : k = key <;> simp [hk, Change.concerns]
  | remove k =>
    rw [apply, get?_erase h]
    by_cases hk : k = key <;> simp [hk, Change.concerns]
  | clear => simp [apply, Change.concerns, get?, empty, lookup]

/-- **What is found** is what was put in last. -/
theorem get?_replay_iff (history : List (Change κ υ)) (key : κ) (value : υ) :
    (replay empty history).get? key = some value ↔
      ∃ before after, history = before ++ .put key value :: after ∧
        ∀ e ∈ after, e.concerns key = false := by
  induction history using List.reverseRecOn with
  | nil =>
    constructor
    · intro h
      cases h
    · rintro ⟨before, after, h, -⟩
      exact absurd h (by simp)
  | append_singleton history e ih =>
    rw [replay_concat, get?_apply (nodup_keys_replay history), ih]
    constructor
    · rintro (rfl | ⟨he, before, after, rfl, hafter⟩)
      · exact ⟨history, [], rfl, fun e he => absurd he List.not_mem_nil⟩
      · refine ⟨before, after ++ [e], by simp, fun e' he' => ?_⟩
        rcases List.mem_append.mp he' with hmem | hmem
        · exact hafter e' hmem
        · rw [List.mem_singleton.mp hmem]
          exact he
    · rintro ⟨before, after, heq, hafter⟩
      rcases List.eq_nil_or_concat after with rfl | ⟨after, last, rfl⟩
      · obtain ⟨-, he⟩ := List.append_inj' heq rfl
        exact .inl (List.singleton_inj.mp he)
      · have hsplit : history ++ [e] = (before ++ .put key value :: after) ++ [last] := by
          simpa using heq
        obtain ⟨rfl, he⟩ := List.append_inj' hsplit rfl
        obtain rfl := List.singleton_inj.mp he
        exact .inr ⟨hafter e (by simp), before, after, rfl, fun e' he' => hafter e' (by simp [he'])⟩

/-- The entries of a map are its keys with what is found under them. -/
theorem entries_eq_filterMap {m : OrderedMap κ υ} (h : m.keys.Nodup) :
    m.entries = m.keys.filterMap fun key => (m.get? key).map (key, ·) := by
  have hfound : ∀ e ∈ m.entries, (m.get? e.1).map (e.1, ·) = some e := by
    intro e he
    rw [get?, lookup_of_mem h he]
    rfl
  rw [keys, List.filterMap_map]
  calc m.entries = m.entries.filterMap some := List.filterMap_some.symm
    _ = m.entries.filterMap ((fun key => (m.get? key).map (key, ·)) ∘ Prod.fst) :=
        List.filterMap_congr fun e he => (hfound e he).symm

/-- **The run of a history follows it.** -/
theorem follows_replay (history : List (Change κ υ)) : Follows (replay empty history) history where
  nodup := nodup_keys_replay history
  keys := by rw [replay_eq_ofList, keys_ofList]
  get?_iff := get?_replay_iff history
  entries := by
    rw [entries_eq_filterMap (nodup_keys_replay history), replay_eq_ofList, keys_ofList, current]
    simp only [get?_ofList]

theorem follows_of_eq {m : OrderedMap κ υ} {history : List (Change κ υ)}
    (h : m = replay empty history) : m.Follows history :=
  h ▸ follows_replay history

/-- A key that was removed comes back at the end, and a replaced value keeps its place. -/
example : current [Change.put "a" 1, .put "b" 2, .remove "a", .put "a" 3, .put "b" 4] =
    [("b", 4), ("a", 3)] := by
  decide

end OrderedMap
end FluentSql
