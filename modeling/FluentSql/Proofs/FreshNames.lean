import FluentSql.Proofs.Naming
import FluentSql.Proofs.OrderedMaps
/-!
# `FluentSql.Proofs.FreshNames` — a value always finds a free name

A generated name ends in a number. The number is searched for, from the count of parameters on, until
the name is free; nothing bounds the search but that there are fewer names than numbers to try.

* `Params.Search` — the search, one number after the other;
* `Params.search_iff` — it ends at the least number whose name is free, and `Params.freshSuffix` is
  where it ends;
* `Params.bind_takes_first_free` — what this makes of one value, and of all names after any calls.
-/

namespace FluentSql
namespace Params

variable {ps : Params} {table column : String}

/-! ## The search for a number -/

/-- **The search for a free name** of a column: `ps.Search table column start n` says that it comes to an
    end at `n` if it is at `start`. -/
inductive Search (ps : Params) (table column : String) : Nat → Nat → Prop where
  | free {n : Nat} (h : ps.contains (placeholderName table column n) = false) :
      Search ps table column n n
  | taken {n last : Nat} (h : ps.contains (placeholderName table column n) = true)
      (hrest : Search ps table column (n + 1) last) : Search ps table column n last

/-- **The first free number** from a number on. -/
structure IsFirstFree (ps : Params) (table column : String) (start n : Nat) : Prop where
  start_le : start ≤ n
  free : ps.contains (placeholderName table column n) = false
  taken : ∀ k, start ≤ k → k < n → ps.contains (placeholderName table column k) = true

theorem IsFirstFree.unique {start m n : Nat} (hm : ps.IsFirstFree table column start m)
    (hn : ps.IsFirstFree table column start n) : m = n := by
  rcases Nat.lt_trichotomy m n with hlt | heq | hlt
  · have htaken := hn.taken m hm.start_le hlt
    rw [hm.free] at htaken
    cases htaken
  · exact heq
  · have htaken := hm.taken n hn.start_le hlt
    rw [hn.free] at htaken
    cases htaken

/-- **The search ends at the first free number**, and nowhere else. -/
theorem search_iff {start n : Nat} :
    ps.Search table column start n ↔ ps.IsFirstFree table column start n := by
  constructor
  · intro hsearch
    induction hsearch with
    | free h => exact ⟨Nat.le_refl _, h, fun k hle hlt => absurd hle (Nat.not_le.mpr hlt)⟩
    | @taken start n h hrest ih =>
      refine ⟨by have := ih.start_le; omega, ih.free, fun k hle hlt => ?_⟩
      rcases Nat.eq_or_lt_of_le hle with rfl | hlt'
      · exact h
      · exact ih.taken k hlt' hlt
  · intro hfirst
    -- the number of steps is how far the first free number is away
    obtain ⟨steps, rfl⟩ := Nat.exists_eq_add_of_le hfirst.start_le
    induction steps generalizing start with
    | zero => exact .free hfirst.free
    | succ steps ih =>
      have hnext : start + (steps + 1) = start + 1 + steps := by omega
      refine .taken (hfirst.taken start (Nat.le_refl _) (by omega)) ?_
      rw [hnext] at hfirst ⊢
      exact ih ⟨by omega, hfirst.free, fun k hle hlt => hfirst.taken k (by omega) hlt⟩

/-- **The suffix is the first free number**, and at most twice the count of parameters. -/
theorem isFirstFree_freshSuffix (ps : Params) (table column : String) :
    ps.IsFirstFree table column ps.size (ps.freshSuffix table column) ∧
      ps.freshSuffix table column ≤ 2 * ps.size := by
  obtain ⟨n, hn⟩ := ps.exists_freshSuffix table column
  have hsuffix : ps.freshSuffix table column = n := by
    rw [freshSuffix, hn, Option.getD_some]
  obtain ⟨hfree, hmem, hearlier⟩ := List.find?_range'_eq_some.mp hn
  obtain ⟨hle, hlt⟩ := List.mem_range'_1.mp hmem
  rw [hsuffix]
  refine ⟨⟨hle, by simpa using hfree, fun k hk hkn => ?_⟩, by omega⟩
  simpa using hearlier k hk hkn

/-! ## Calls on parameters -/

/-- **A call** on parameters. -/
inductive Operation where
  | add (name : String) (value : Value)
  | bind (table column : String) (value : Value)
  | merge (other : Params)
  | reset

/-- A call made. -/
def operate (ps : Params) : Operation → Params
  | .add name value => ps.add name value
  | .bind table column value => (ps.bind table column value).2
  | .merge other => ps.merge other
  | .reset => .empty

/-- **Proper names**: they begin with a colon, and none is there twice. -/
structure IsProper (ps : Params) : Prop where
  nodup : ps.names.Nodup
  colon : ∀ name ∈ ps.names, ∃ cs, name.toList = ':' :: cs

theorem isProper_empty : empty.IsProper := ⟨List.nodup_nil, fun _ h => absurd h List.not_mem_nil⟩

/-- A value under any name keeps names proper. -/
theorem IsProper.add (h : ps.IsProper) (name : String) (value : Value) : (ps.add name value).IsProper := by
  constructor
  · exact OrderedMap.nodup_keys_insert h.nodup (colonName name) value
  · intro other hother
    rw [names_add, withName] at hother
    split at hother
    · exact h.colon other hother
    · rcases List.mem_append.mp hother with hmem | hmem
      · exact h.colon other hmem
      · rw [List.mem_singleton.mp hmem]
        exact exists_toList_colonName name

/-- A value under a generated name keeps names proper. -/
theorem IsProper.bind (h : ps.IsProper) (table column : String) (value : Value) :
    (ps.bind table column value).2.IsProper := by
  constructor
  · rw [names_bind]
    exact List.nodup_append.mpr ⟨h.nodup, List.nodup_singleton _, fun name hname other hother heq =>
      ps.bind_fst_not_mem table column value (List.mem_singleton.mp hother ▸ heq ▸ hname)⟩
  · intro name hname
    rw [names_bind] at hname
    rcases List.mem_append.mp hname with hmem | hmem
    · exact h.colon name hmem
    · rw [List.mem_singleton.mp hmem]
      exact ⟨_, toList_placeholderName table column _⟩

/-- **One call keeps names proper**, whatever is merged. -/
theorem IsProper.operate (h : ps.IsProper) (call : Operation) : (ps.operate call).IsProper := by
  cases call with
  | add name value => exact h.add name value
  | bind table column value => exact h.bind table column value
  | merge other =>
    rw [Params.operate, Params.merge]
    generalize other.entries = added
    induction added generalizing ps with
    | nil => exact h
    | cons e added ih => exact ih (h.add e.1 e.2)
  | reset => exact isProper_empty

/-- **Names are proper after any calls.** -/
theorem isProper_foldl (calls : List Operation) : (calls.foldl operate empty).IsProper := by
  have hrun : ∀ ps : Params, ps.IsProper → (calls.foldl operate ps).IsProper := by
    induction calls with
    | nil => exact fun ps h => h
    | cons call calls ih => exact fun ps h => ih _ (h.operate call)
  exact hrun empty isProper_empty

/-- **A value is bound under the first free name.** For any parameters, whatever their names are, the
    search for a number comes to an end, at one number only: the least one from the count of parameters
    on whose name is free, and it is at most twice the count. The name was not there before, the entries
    stay what and where they are, the new one comes after them, and its value is found under its name.

    So after any calls names begin with a colon, and none is there twice. -/
theorem bind_takes_first_free :
    (∀ (ps : Params) (table column : String) (value : Value), ∃ n,
      (∀ last, ps.Search table column ps.size last ↔ last = n) ∧
      (ps.bind table column value).1 = placeholderName table column n ∧
      ps.size ≤ n ∧ n ≤ 2 * ps.size ∧
      (∀ k, ps.size ≤ k → k < n → placeholderName table column k ∈ ps.names) ∧
      (ps.bind table column value).1 ∉ ps.names ∧
      (ps.bind table column value).2.entries =
        ps.entries ++ [((ps.bind table column value).1, value)] ∧
      (ps.bind table column value).2.get? (ps.bind table column value).1 = some value) ∧
    ∀ calls : List Operation,
      (calls.foldl operate empty).names.Nodup ∧
        ∀ name ∈ (calls.foldl operate empty).names, ∃ cs, name.toList = ':' :: cs := by
  constructor
  · intro ps table column value
    obtain ⟨hfirst, hmost⟩ := ps.isFirstFree_freshSuffix table column
    have hnew := ps.bind_fst_not_mem table column value
    refine ⟨ps.freshSuffix table column, fun last => ?_, rfl, hfirst.start_le, hmost, ?_, hnew, rfl, ?_⟩
    · rw [search_iff]
      exact ⟨fun hlast => hlast.unique hfirst, fun heq => heq ▸ hfirst⟩
    · intro k hle hlt
      have htaken := hfirst.taken k hle hlt
      rwa [contains_eq, decide_eq_true_iff] at htaken
    · have hcolon : colonName (ps.bind table column value).1 = (ps.bind table column value).1 :=
        colonName_of_cons (toList_placeholderName table column _)
      have hfront : (ps.bind table column value).1 ∉ ps.entries.map Prod.fst := hnew
      rw [get?, hcolon, OrderedMap.get?]
      show OrderedMap.lookup _ (ps.bind table column value).2.entries = some value
      rw [entries_bind, OrderedMap.lookup_append_of_not_mem hfront]
      exact if_pos rfl
  · intro calls
    exact ⟨(isProper_foldl calls).nodup, (isProper_foldl calls).colon⟩

/-- A caller took the name that the first value would get. -/
example : ((empty.add ":t_a_1" (.int 10)).bind "t" "a" (.int 20)).1 = ":t_a_2" := by decide

end Params
end FluentSql
