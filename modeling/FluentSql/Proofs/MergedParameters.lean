import FluentSql.Proofs.FreshNames
/-!
# `FluentSql.Proofs.MergedParameters` — merging as an operation on stores

Raw fragments bring parameters of their own, and a statement merges them into those it has bound so far; a
caller merges more. That the grouping of merges does not matter rests on what every built store satisfies
(`Params.IsProper`): names begin with a colon, and none is there twice. A merge is then a run of insertions
(`Params.merge_eq`), and its laws are those of `OrderedMap.insertAll`.

* `Params.built` — the store of some calls;
* `Params.get?_merge` — what is found in two merged stores;
* `Params.merge_is_idempotent_monoid` — the laws, for all stores that calls can build.
-/

namespace FluentSql
namespace Params

/-! ## Stores that calls build -/

/-- **The store of some calls**, made one after the other on an empty one. -/
def built (calls : List Operation) : Params := calls.foldl operate empty

theorem isProper_built (calls : List Operation) : (built calls).IsProper := isProper_foldl calls

/-- One more merge is one more call. -/
theorem built_concat_merge (calls : List Operation) (other : Params) :
    built (calls ++ [.merge other]) = (built calls).merge other := by
  rw [built, List.foldl_append]
  rfl

/-! ## A merge as insertions -/

variable {ps other : Params}

/-- A name that is there begins with a colon, so it is its own name with a colon. -/
theorem IsProper.colonName_eq (h : ps.IsProper) {name : String} (hname : name ∈ ps.names) :
    colonName name = name := by
  obtain ⟨cs, hcs⟩ := h.colon name hname
  exact colonName_of_cons hcs

/-- **A merge puts in the entries as they are**, where they already have their colons. -/
theorem merge_eq (ps : Params) (h : other.IsProper) :
    ps.merge other = ⟨ps.map.insertAll other.entries⟩ := by
  have hcolon : ∀ e ∈ other.entries, colonName e.1 = e.1 :=
    fun e he => h.colonName_eq (List.mem_map_of_mem he)
  clear h
  unfold merge
  generalize other.entries = added at hcolon
  induction added generalizing ps with
  | nil => rfl
  | cons e added ih =>
    have hadd : ps.add e.1 e.2 = ⟨ps.map.insert e.1 e.2⟩ := by
      rw [add, hcolon e List.mem_cons_self]
    show added.foldl _ (ps.add e.1 e.2) = _
    rw [ih _ fun e' he' => hcolon e' (List.mem_cons_of_mem e he'), hadd]
    rfl

theorem IsProper.merge (h : ps.IsProper) (other : Params) : (ps.merge other).IsProper :=
  h.operate (.merge other)

/-! ## The laws -/

theorem merge_assoc (as : Params) {bs cs : Params} (hb : bs.IsProper) (hc : cs.IsProper) :
    (as.merge bs).merge cs = as.merge (bs.merge cs) := by
  rw [merge_eq as (hb.merge cs), merge_eq (as.merge bs) hc, merge_eq as hb, merge_eq bs hc]
  exact congrArg mk (OrderedMap.insertAll_assoc as.map hb.nodup cs.entries)

theorem empty_merge (h : ps.IsProper) : empty.merge ps = ps := by
  rw [merge_eq empty h]
  exact congrArg mk (OrderedMap.insertAll_entries h.nodup)

theorem merge_self (h : ps.IsProper) : ps.merge ps = ps := by
  rw [merge_eq ps h]
  exact congrArg mk (OrderedMap.insertAll_self h.nodup)

/-- A name is present iff something is found under it, with or without its colon. -/
theorem isSome_get?_iff (ps : Params) (name : String) :
    (ps.get? name).isSome = true ↔ colonName name ∈ ps.names :=
  OrderedMap.contains_iff_mem_keys ps.map (colonName name)

theorem get?_colonName (ps : Params) (name : String) : ps.get? (colonName name) = ps.get? name := by
  rw [get?, get?, colonName_colonName]

/-- **What is found in two merged stores**: the answer of the second, if it has the name. -/
theorem get?_merge (ps : Params) (h : other.IsProper) (name : String) :
    (ps.merge other).get? name =
      if colonName name ∈ other.names then other.get? name else ps.get? name := by
  have hor : (ps.merge other).get? name = (other.get? name).or (ps.get? name) := by
    rw [merge_eq ps h]
    exact OrderedMap.get?_insertAll ps.map h.nodup (colonName name)
  rw [hor]
  split
  · rename_i hmem
    obtain ⟨value, hvalue⟩ := Option.isSome_iff_exists.mp ((isSome_get?_iff other name).mpr hmem)
    rw [hvalue]
    rfl
  · rename_i hmem
    have hnone : other.get? name = none := by
      rw [← Option.not_isSome_iff_eq_none, isSome_get?_iff]
      exact hmem
    rw [hnone]
    rfl

/-- **Merging is an idempotent monoid** on the stores that calls build: the merge of two can be built, it
    is associative — names, values and their order —, the empty store is neutral on either side, and a
    store merged into itself changes nothing. A lookup in a merge is answered by the second store if it has
    the name, else by the first, and the colon of the name may be left out. -/
theorem merge_is_idempotent_monoid (as bs cs : List Operation) :
    (∃ calls, built calls = (built as).merge (built bs)) ∧
    ((built as).merge (built bs)).merge (built cs) = (built as).merge ((built bs).merge (built cs)) ∧
    (built as).merge empty = built as ∧
    empty.merge (built as) = built as ∧
    (built as).merge (built as) = built as ∧
    ∀ name,
      ((built as).merge (built bs)).get? name =
        (if colonName name ∈ (built bs).names then (built bs).get? name else (built as).get? name) ∧
      ((built as).merge (built bs)).get? (colonName name) = ((built as).merge (built bs)).get? name := by
  have ha := isProper_built as
  have hb := isProper_built bs
  have hc := isProper_built cs
  exact ⟨⟨as ++ [.merge (built bs)], built_concat_merge as (built bs)⟩, merge_assoc _ hb hc,
    merge_empty _, empty_merge ha, merge_self ha,
    fun name => ⟨get?_merge _ hb name, get?_colonName _ name⟩⟩

/-- A name without its colon, which no calls leave: the store is not its own merge with the empty one. -/
example : empty.merge ⟨⟨[("x", .int 1)]⟩⟩ ≠ ⟨⟨[("x", .int 1)]⟩⟩ := by decide

end Params
end FluentSql
