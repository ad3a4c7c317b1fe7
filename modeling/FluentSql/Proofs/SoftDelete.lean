import FluentSql.Proofs.Recording
import FluentSql.Proofs.WhereClause
/-!
# `FluentSql.Proofs.SoftDelete` — the filter for softly deleted rows

A query of a model with a delete column puts its filter in front of the caller's conditions, which
become one group (`ModelQuery.scopedWhere`). Here is what this makes of the statements that are run:

* `Frame.assemble_filtered` — the filter, and then the text of the conditions in parentheses, which
  is the text they compile to without the filter at the same place;
* `Conditions.holds_filtered` — the filter holds of every row for which the conditions hold;
* `ModelMethod.sends_filter_first` — both, for what every method of a query hands to the executor.
-/

namespace FluentSql

open FluentSql.Text Template

variable {σ α : Type}

/-! ## Conditions behind a filter -/

/-- Conditions as a group behind a test of a column for null. -/
def Conditions.filtered (column : Column) (wanted : Bool) (conditions : Conditions) : Conditions :=
  ⟨none, nullTest column wanted⟩ ::
    if conditions.isEmpty then [] else [⟨some .and, .group conditions⟩]

/-- The text of the test. -/
def filterText (st : Style) (column : Column) (wanted : Bool) : String :=
  st.quoteColumn column ++ if wanted then " IS NULL" else " IS NOT NULL"

theorem template_nullTest (st : Style) (table : String) (column : Column) (wanted : Bool) :
    (nullTest column wanted).template st .wheres table = text (filterText st column wanted) := by
  cases wanted <;> simp [nullTest, Predicate.template, compareTemplate, conditionColumn, filterText,
    Operator.sql, String.append_assoc]

/-- **What stands behind the filter**: the text of the conditions in parentheses, or nothing. -/
def behindFilter (body : List Char) : List Char :=
  if body = [] then [] else " AND (".toList ++ body ++ ")".toList

/-- A group after something that shows. -/
theorem assemble_templateFrom_group (st : Style) (ps : Params) (table : String)
    (conditions : Conditions) :
    assemble ps (Conditions.templateFrom st .wheres table true [⟨some .and, .group conditions⟩]) =
      (behindFilter (assemble ps (Conditions.template st .wheres table conditions)).1,
        (assemble ps (Conditions.template st .wheres table conditions)).2) := by
  unfold Conditions.template behindFilter
  simp only [Conditions.templateFrom, Predicate.template, List.append_nil]
  generalize Conditions.templateFrom st .wheres table false conditions = body
  rw [isEmpty_enclosed, isEmpty_eq_isEmpty_assemble ps body]
  -- a group that shows nothing is skipped, but what it merges into the parameters is kept
  by_cases h : (assemble ps body).1 = []
  · rw [if_pos (by rw [h]; rfl), if_pos h, assemble_enclosed, if_pos h]
  · rw [if_neg (by simpa using h), if_neg h, if_pos trivial, assemble_append, assemble_text,
      assemble_enclosed, if_neg h]
    rfl

/-- **The text of conditions behind a filter**: that of the filter, and in parentheses the text that
    they compile to alone. The filter binds nothing. -/
theorem Conditions.assemble_filtered (st : Style) (ps : Params) (table : String) (column : Column)
    (wanted : Bool) (conditions : Conditions) :
    assemble ps (Conditions.template st .wheres table (conditions.filtered column wanted)) =
      ((filterText st column wanted).toList ++
        behindFilter (assemble ps (Conditions.template st .wheres table conditions)).1,
        (assemble ps (Conditions.template st .wheres table conditions)).2) := by
  have hshown : (text (filterText st column wanted)).isEmpty = false := by
    rw [← template_nullTest st table, Predicate.isEmpty_template]
    rfl
  have hfirst : Conditions.template st .wheres table (conditions.filtered column wanted) =
      text (filterText st column wanted) ++ Conditions.templateFrom st .wheres table true
        (if conditions.isEmpty then [] else [⟨some .and, .group conditions⟩]) := by
    simp only [Conditions.template, filtered, templateFrom, template_nullTest, hshown]
    rfl
  rw [hfirst, assemble_append, assemble_text]
  cases conditions with
  | nil => rfl
  | cons condition conditions =>
    rw [List.isEmpty_cons, if_neg Bool.false_ne_true, assemble_templateFrom_group]

/-- **A filter in front** holds of every row for which the conditions hold: no OR among the caller's
    conditions can undo it. -/
theorem Conditions.holds_filtered (truth : Predicate → Bool) (column : Column) (wanted : Bool)
    (conditions : Conditions) :
    Conditions.holds truth (conditions.filtered column wanted) =
      (truth (nullTest column wanted) &&
        (!Conditions.anyWritten conditions || truth (.group conditions))) := by
  have hwritten : (nullTest column wanted).isWritten = true := rfl
  cases conditions with
  | nil => simp [holds, filtered, holdsFrom, hwritten, Conditions.anyWritten]
  | cons condition conditions =>
    have hgroup : (Predicate.group (condition :: conditions)).isWritten =
        Conditions.anyWritten (condition :: conditions) := by
      rw [Predicate.isWritten]
    cases hw : Conditions.anyWritten (condition :: conditions) <;>
      simp [holds, filtered, holdsFrom, hwritten, hgroup, hw]

/-! ## The statements of a query -/

/-- The delete column, qualified by the table. -/
def Schema.qualified (s : Schema) (column : String) : Column := .name (s.table ++ "." ++ column)

/-- A filter and a group behind it; a group of nothing is dropped. -/
theorem WhereClause.conditions_filter_pushGroup (column : Column) (wanted : Bool)
    (clause : WhereClause) :
    ((WhereClause.empty.push .and (nullTest column wanted)).pushGroup .and clause).conditions =
      Conditions.filtered column wanted clause.conditions := by
  obtain ⟨conditions, misuse⟩ := clause
  cases conditions <;> rfl

/-- The filter is a test of a column for null. -/
theorem ModelQuery.trashFilter_eq {q : ModelQuery} {filter : Predicate}
    (h : q.trashFilter = some filter) : ∃ name wanted, filter = nullTest (.name name) wanted := by
  unfold trashFilter at h
  split at h
  · cases h
  · cases h
  · cases h
    exact ⟨_, _, rfl⟩
  · cases h
    exact ⟨_, _, rfl⟩

/-- **The scoped conditions**: the caller's own if there is no filter, else these behind the filter. -/
theorem ModelQuery.scopedWhere_cases (q : ModelQuery) :
    (q.trashFilter = none ∧ q.scopedWhere.conditions = q.select.wheres.conditions) ∨
      ∃ name wanted, q.trashFilter = some (nullTest (.name name) wanted) ∧
        q.scopedWhere.conditions =
          Conditions.filtered (.name name) wanted q.select.wheres.conditions := by
  unfold scopedWhere
  cases hfilter : q.trashFilter with
  | none => exact .inl ⟨rfl, rfl⟩
  | some filter =>
    obtain ⟨name, wanted, rfl⟩ := trashFilter_eq hfilter
    exact .inr ⟨name, wanted, rfl, WhereClause.conditions_filter_pushGroup _ wanted q.select.wheres⟩

theorem ModelQuery.conditions_scopedWhere {q : ModelQuery} {column : String}
    (hsoft : q.schema.softDelete = some column) (hmode : q.trashed ≠ .included) :
    q.scopedWhere.conditions =
      Conditions.filtered (q.schema.qualified column) (q.trashed == .excluded)
        q.select.wheres.conditions := by
  unfold scopedWhere trashFilter
  rw [hsoft]
  cases ht : q.trashed with
  | excluded => exact WhereClause.conditions_filter_pushGroup _ true q.select.wheres
  | included => exact absurd ht hmode
  | only => exact WhereClause.conditions_filter_pushGroup _ false q.select.wheres

/-- **The query that a method runs**: `find` adds its own condition, `restore` looks for deleted rows
    only. -/
def ModelMethod.query (q : ModelQuery) : ModelMethod → ModelQuery
  | .find id => q.found id
  | .restore => { q with trashed := .only }
  | _ => q

/-- **Every statement has the scoped conditions** of the method's query. -/
theorem ModelMethod.frame_of_softDelete (st : Style) (now : DateTime) {q : ModelQuery}
    {column : String} (hsoft : q.schema.softDelete = some column) (method : ModelMethod) :
    ∃ s f, method.statement? now q = some s ∧ s.frame? st = some f ∧
      f.conditions = (method.query q).scopedWhere.conditions := by
  -- only these two look at the delete column before they make their statement
  cases method with
  | delete =>
    refine ⟨.update (q.touching now (OrderedMap.empty.insert column (.ofDateTime now))), _, ?_, rfl,
      rfl⟩
    rw [statement?, ModelQuery.deleting, hsoft]
  | restore =>
    refine ⟨.update ((query q restore).touching now (OrderedMap.empty.insert column .null)), _, ?_,
      rfl, rfl⟩
    rw [statement?, ModelQuery.restoring?, hsoft]
    rfl
  | _ => exact ⟨_, _, rfl, rfl, rfl⟩

/-! ## What is handed over -/

/-- **A frame around filtered conditions**: the WHERE clause is the filter, and in parentheses what
    the conditions compile to at their place; everything else is as without the filter. -/
theorem Frame.assemble_filtered (st : Style) (ps : Params) {f : Frame} {column : Column}
    {wanted : Bool} {conditions : Conditions}
    (hf : f.conditions = Conditions.filtered column wanted conditions) :
    assemble ps (f.template st) =
      (squeezeChars (f.textBefore ps ++ "WHERE ".toList ++ (filterText st column wanted).toList ++
        behindFilter ((f.withConditions conditions).compiled st ps) ++
        (f.withConditions conditions).textAfter st ps),
        (f.withConditions conditions).params st ps) := by
  -- the filter leaves the parameters as they are, so all that follows is named as without it
  have hassemble := Conditions.assemble_filtered st (f.paramsBefore ps) f.table column wanted
    conditions
  rw [← hf] at hassemble
  have hcompiled : f.compiled st ps = (filterText st column wanted).toList ++
      behindFilter ((f.withConditions conditions).compiled st ps) :=
    congrArg Prod.fst hassemble
  have hafter : f.paramsAfter st ps = (f.withConditions conditions).paramsAfter st ps := by
    rw [paramsAfter, hassemble]
    rfl
  have hwritten : f.compiled st ps ≠ [] := by
    rw [Ne, compiled_eq_nil_iff, hf]
    simp [Conditions.filtered, Conditions.anyWritten, nullTest, Predicate.isWritten]
  rw [assemble_template, whereText, if_neg hwritten, hcompiled, textAfter, params, hafter]
  simp only [List.append_assoc]
  rfl

/-- **What a method of a query hands over.** In a model with a delete column, unless deleted rows are
    included: the WHERE clause begins with the filter on the qualified delete column, which binds
    nothing, and goes on with the caller's conditions in parentheses, as they compile to at that place
    without the filter, or with nothing if they compile to nothing. Read as SQL does, the clause
    holds of a row if and only if the filter does and what is in parentheses does. -/
theorem ModelMethod.sends_filter_first {c : Connection (σ × List RecordedCall)} {e : Executor σ}
    (hc : c.executor = some e.recording) (m : Model α) {q : ModelQuery} {column : String}
    (hsoft : q.schema.softDelete = some column) (method : ModelMethod)
    (hmode : (method.query q).trashed ≠ .included) (session : Session (σ × List RecordedCall)) :
    ∃ s f, method.statement? session.now q = some s ∧ s.frame? c.style = some f ∧
      (let own := f.withConditions (method.query q).select.wheres.conditions
       let filter := filterText c.style (q.schema.qualified column)
        ((method.query q).trashed == .excluded)
       (method.run m c q).record session = session.record ++
        match s.check c.style with
        | .error _ => []
        | .ok _ => [method.entry
            (String.ofList (squeezeChars (f.textBefore .empty ++ "WHERE ".toList ++ filter.toList ++
              behindFilter (own.compiled c.style .empty) ++ own.textAfter c.style .empty)))
            (Bind.ofParams (own.params c.style .empty))]) ∧
      ∀ truth : Predicate → Bool, Conditions.holds truth f.conditions =
        (truth (nullTest (q.schema.qualified column) ((method.query q).trashed == .excluded)) &&
          (!Conditions.anyWritten (method.query q).select.wheres.conditions ||
            truth (.group (method.query q).select.wheres.conditions))) := by
  obtain ⟨s, f, hs, hframe, hconditions⟩ :=
    frame_of_softDelete c.style session.now hsoft method
  have hschema : (method.query q).schema = q.schema := by
    cases method <;> rfl
  have hfiltered : f.conditions = Conditions.filtered (q.schema.qualified column)
      ((method.query q).trashed == .excluded) (method.query q).select.wheres.conditions := by
    rw [hconditions, ModelQuery.conditions_scopedWhere (hschema ▸ hsoft) hmode, hschema]
  refine ⟨s, f, hs, hframe, ?_, fun truth => ?_⟩
  · rw [record_run hc, hs]
    show session.record ++ s.handedOver c.style method.entry = _
    rw [Statement.handedOver]
    cases hcheck : s.check c.style with
    | error error => rfl
    | ok built =>
      obtain ⟨-, hsql, rfl⟩ := Statement.check_eq_ok_iff.mp hcheck
      have hbuild := Statement.build_eq_frame hframe hsql
      rw [Frame.assemble_filtered c.style .empty hfiltered] at hbuild
      rw [hbuild]
  · rw [hfiltered]
    exact Conditions.holds_filtered truth _ _ _

/-- A model whose rows are deleted softly. -/
def Model.tasks : Model Payload where
  table := "tasks"
  softDelete := some "deleted_at"
  ofRow _ := .ok .empty
  attributes data := data
  setId data id := data.insert "id" id

/-- Deleted tasks that are done, or have a title. -/
def ModelQuery.doneOrTitled : ModelQuery :=
  (((ModelQuery.ofSchema Model.tasks.toSchema).step (.trashed .only)).step
    (.filter (.compare .and (.name "done") .equal (.bool true)))).step
    (.filter (.compare .or (.name "title") .equal (.text "x")))

/-- Removing them for good leaves all other tasks alone, in spite of the OR. -/
theorem ModelMethod.removal_behind_filter :
    ModelQuery.doneOrTitled.schema.softDelete = some "deleted_at" ∧
      (forceDelete.query ModelQuery.doneOrTitled).trashed ≠ .included ∧
      (forceDelete.run Model.tasks Connection.scripted ModelQuery.doneOrTitled).record
          Session.scripted =
        [.execute ("DELETE FROM \x60tasks\x60 WHERE \x60tasks\x60.\x60deleted_at\x60 IS NOT NULL"
              ++ " AND (\x60done\x60 = :tasks_done_0 OR \x60title\x60 = :tasks_title_1)")
          [⟨":tasks_done_0", .bool true⟩, ⟨":tasks_title_1", .text "x"⟩]] := by
  have hmode : (forceDelete.query ModelQuery.doneOrTitled).trashed ≠ .included := by
    decide
  refine ⟨rfl, hmode, ?_⟩
  obtain ⟨s, f, hs, hframe, hrecord, -⟩ :=
    ModelMethod.sends_filter_first (c := Connection.scripted) rfl Model.tasks
      (q := ModelQuery.doneOrTitled) rfl forceDelete hmode Session.scripted
  cases hs
  cases hframe
  rw [hrecord]
  decide +kernel

end FluentSql
