import FluentSql.Proofs.FindByKey
import FluentSql.Proofs.Precedence
/-!
# `FluentSql.Proofs.Writes` — which calls of a chain restrict a write

An update or a deletion of the rows of a query takes over its joins and its conditions. The other
clauses of a query are about its rows as they are read, and a write has no place for them.

* `ModelQuery.conditions_prefix_steps` — calls of a chain forget no condition;
* `ModelQuery.Agree.steps` — calls that restrict no write make no difference to one;
* `ModelMethod.write_keeps_joins_and_conditions` — what a write after a chain of calls is restricted
  by, and what it hands to the executor.
-/

namespace FluentSql

open Template

variable {σ α : Type}

/-! ## Chains -/

/-- **Whether a call restricts writes**: joins, conditions, and the choice of deleted rows do. -/
def ModelStep.restrictsWrites : ModelStep → Bool
  | .filter _ | .join _ | .trashed _ | .related _ _ => true
  | .having _ | .group _ | .order _ _ | .limit _ | .offset _ => false

namespace ModelQuery

/-- **Queries that a write cannot tell apart.** -/
structure Agree (q q' : ModelQuery) : Prop where
  schema : q.schema = q'.schema
  trashed : q.trashed = q'.trashed
  joins : q.select.joins = q'.select.joins
  wheres : q.select.wheres = q'.select.wheres

namespace Agree

variable {q q' : ModelQuery}

theorem refl (q : ModelQuery) : Agree q q := ⟨rfl, rfl, rfl, rfl⟩

/-- A call that restricts no write makes no difference to one. -/
theorem step_left (h : Agree q q') {step : ModelStep} (hs : step.restrictsWrites = false) :
    Agree (q.step step) q' := by
  cases step with
  | having _ => exact ⟨h.schema, h.trashed, h.joins, h.wheres⟩
  | group _ => exact ⟨h.schema, h.trashed, h.joins, h.wheres⟩
  | order _ _ => exact ⟨h.schema, h.trashed, h.joins, h.wheres⟩
  | limit _ => exact ⟨h.schema, h.trashed, h.joins, h.wheres⟩
  | offset _ => exact ⟨h.schema, h.trashed, h.joins, h.wheres⟩
  | filter _ => cases hs
  | join _ => cases hs
  | trashed _ => cases hs
  | related _ _ => cases hs

/-- The same call keeps two queries in step. -/
theorem step (h : Agree q q') (step : ModelStep) : Agree (q.step step) (q'.step step) := by
  cases step with
  | filter step => exact ⟨h.schema, h.trashed, h.joins, congrArg (·.step step) h.wheres⟩
  | join step => exact ⟨h.schema, h.trashed, congrArg (·.step step) h.joins, h.wheres⟩
  | trashed which => exact ⟨h.schema, rfl, h.joins, h.wheres⟩
  | related other wanted =>
    refine ⟨h.schema, h.trashed, h.joins, ?_⟩
    show q.select.wheres.step (.related .and other.table none (some q.schema.primaryKey) wanted) =
      q'.select.wheres.step (.related .and other.table none (some q'.schema.primaryKey) wanted)
    rw [h.wheres, h.schema]
  | having _ => exact ⟨h.schema, h.trashed, h.joins, h.wheres⟩
  | group _ => exact ⟨h.schema, h.trashed, h.joins, h.wheres⟩
  | order _ _ => exact ⟨h.schema, h.trashed, h.joins, h.wheres⟩
  | limit _ => exact ⟨h.schema, h.trashed, h.joins, h.wheres⟩
  | offset _ => exact ⟨h.schema, h.trashed, h.joins, h.wheres⟩

/-- **A chain and its restricting calls alone** are the same to a write. -/
theorem steps (h : Agree q q') (steps : List ModelStep) :
    Agree (steps.foldl ModelQuery.step q)
      ((steps.filter ModelStep.restrictsWrites).foldl ModelQuery.step q') := by
  induction steps generalizing q q' with
  | nil => exact h
  | cons step steps ih =>
    cases hs : step.restrictsWrites with
    | true =>
      rw [List.filter_cons_of_pos hs]
      exact ih (h.step step)
    | false =>
      rw [List.filter_cons_of_neg (Bool.not_eq_true _ ▸ hs)]
      exact ih (h.step_left hs)

theorem updating (h : Agree q q') (data : Payload) : q.updating data = q'.updating data := by
  simp only [ModelQuery.updating, scopedWhere, trashFilter, h.schema, h.trashed, h.joins, h.wheres]

theorem touching (h : Agree q q') (now : DateTime) (data : Payload) :
    q.touching now data = q'.touching now data := by
  rw [ModelQuery.touching, ModelQuery.touching, h.schema, h.updating]

theorem forceDeleting (h : Agree q q') : q.forceDeleting = q'.forceDeleting := by
  simp only [ModelQuery.forceDeleting, scopedWhere, trashFilter, h.schema, h.trashed, h.joins,
    h.wheres]

end Agree

/-! ## What a chain keeps -/

theorem schema_step (q : ModelQuery) (step : ModelStep) : (q.step step).schema = q.schema := by
  cases step <;> rfl

/-- No call points a query at other rows. -/
theorem schema_steps (q : ModelQuery) (steps : List ModelStep) :
    (steps.foldl ModelQuery.step q).schema = q.schema := by
  induction steps generalizing q with
  | nil => rfl
  | cons step steps ih => rw [List.foldl_cons, ih, schema_step]

end ModelQuery

/-- A condition at the end leaves those before it as they are. -/
theorem Conditions.prefix_push (conditions : Conditions) (joiner : Conjunction)
    (predicate : Predicate) : conditions <+: Conditions.push conditions joiner predicate := by
  unfold Conditions.push
  split
  · exact List.prefix_rfl
  · exact List.prefix_append _ _

/-- A call about conditions adds to them at most. -/
theorem WhereClause.conditions_prefix_step (clause : WhereClause) (step : WhereStep) :
    clause.conditions <+: (clause.step step).conditions := by
  have hpush : ∀ joiner predicate,
      clause.conditions <+: (clause.push joiner predicate).conditions :=
    Conditions.prefix_push clause.conditions
  cases step with
  | compareBy column operator value =>
    rw [WhereClause.step]
    cases Operator.ofText? operator with
    | some op => exact hpush _ _
    | none => exact List.prefix_rfl
  | subquery steps wanted =>
    rw [WhereClause.step, WhereClause.pushSubquery]
    cases (Select.steps .empty steps).misuse? with
    | some misuse => exact Conditions.prefix_push clause.conditions .and (.subquery _ wanted)
    | none => exact hpush _ _
  | group joiner steps =>
    rw [WhereClause.step]
    exact Conditions.prefix_push _ _ _
  | _ =>
    rw [WhereClause.step]
    exact hpush _ _

namespace ModelQuery

theorem conditions_prefix_step (q : ModelQuery) (step : ModelStep) :
    q.select.wheres.conditions <+: (q.step step).select.wheres.conditions := by
  cases step with
  | filter step => exact WhereClause.conditions_prefix_step _ step
  | related other wanted => exact WhereClause.conditions_prefix_step _ _
  | _ => exact List.prefix_rfl

/-- **Calls of a chain forget no condition.** -/
theorem conditions_prefix_steps (q : ModelQuery) (steps : List ModelStep) :
    q.select.wheres.conditions <+: (steps.foldl ModelQuery.step q).select.wheres.conditions := by
  induction steps generalizing q with
  | nil => exact List.prefix_rfl
  | cons step steps ih => exact (q.conditions_prefix_step step).trans (ih (q.step step))

end ModelQuery

/-! ## Writes -/

/-- **The rows that a write is about**: those of a table, its joins, and its conditions. -/
structure Scope where
  table : String
  joins : JoinClause
  wheres : WhereClause

/-- The scope of an update or a removal. -/
def Statement.scope? : Statement → Option Scope
  | .update q => some ⟨q.table, q.joins, q.wheres⟩
  | .delete q => some ⟨q.table, q.joins, q.wheres⟩
  | _ => none

/-- **A write shows its scope**: the joins, and after all else the conditions. -/
theorem Statement.template_of_scope {st : Style} {s : Statement} {scope : Scope}
    (hs : s.scope? = some scope) (htable : scope.table.isEmpty = false) :
    ∃ before between, s.template st =
      squeeze (before ++ text (scope.joins.sql st scope.table) ++ between
        ++ scope.wheres.template st scope.table) := by
  cases s with
  | update q =>
    cases hs
    refine ⟨text ("UPDATE " ++ st.quote q.table ++ " "),
      text " SET " ++ (joined ", " (q.data.entries.map fun e =>
        Update.assignmentTemplate st q.table e.1 e.2) ++ text " "), ?_⟩
    show q.template st = _
    rw [Update.template, if_neg (Bool.not_eq_true _ ▸ htable)]
    simp only [text, String.toList_append, List.map_append, List.append_assoc]
  | delete q =>
    cases hs
    refine ⟨text ("DELETE " ++ (if (q.joins.sql st q.table).isEmpty then "" else st.quote q.table)
      ++ " FROM " ++ st.quote q.table ++ " "), text " ", ?_⟩
    show q.template st = _
    rw [Delete.template, if_neg (Bool.not_eq_true _ ▸ htable)]
    simp only [text, String.toList_append, List.map_append, List.append_assoc]
  | select q => cases hs
  | insert q => cases hs
  | raw q => cases hs

namespace ModelMethod

/-- Whether a method writes. -/
def writes : ModelMethod → Bool
  | .update _ | .delete | .forceDelete | .restore => true
  | _ => false

/-- Queries that a write cannot tell apart make the same statement. -/
theorem statement?_of_agree {method : ModelMethod} (hm : method.writes = true) (now : DateTime)
    {q q' : ModelQuery} (h : q.Agree q') : method.statement? now q = method.statement? now q' := by
  cases method with
  | update data => rw [statement?, statement?, h.touching]
  | delete =>
    rw [statement?, statement?, ModelQuery.deleting, ModelQuery.deleting, h.schema,
      h.forceDeleting]
    cases q'.schema.softDelete with
    | some column => simp only [h.touching]
    | none => rfl
  | forceDelete => rw [statement?, statement?, h.forceDeleting]
  | restore =>
    have hdeleted : ModelQuery.Agree ⟨q'.schema, q.select, .only⟩ ⟨q'.schema, q'.select, .only⟩ :=
      ⟨rfl, rfl, h.joins, h.wheres⟩
    simp only [statement?, ModelQuery.restoring?, h.schema, hdeleted.touching]
  | _ => cases hm

/-- **The scope of a write**: the model's table, the joins of the query, and its scoped
    conditions. -/
theorem scope_of_writes {method : ModelMethod} (hm : method.writes = true) {now : DateTime}
    {q : ModelQuery} {s : Statement} (hs : method.statement? now q = some s) :
    s.scope? = some ⟨q.schema.table, q.select.joins, (method.query q).scopedWhere⟩ := by
  have htable : (retarget "" none q.schema.table).1 = q.schema.table := by
    rw [retarget_new]
  have hupdate : ∀ (trashed : Trashed) (data : Payload),
      (Statement.update ({ q with trashed := trashed }.updating data)).scope? =
        some ⟨q.schema.table, q.select.joins, { q with trashed := trashed }.scopedWhere⟩ := by
    intro trashed data
    rw [← htable]
    rfl
  have hdelete : (Statement.delete q.forceDeleting).scope? =
      some ⟨q.schema.table, q.select.joins, q.scopedWhere⟩ := by
    rw [← htable]
    rfl
  cases method with
  | update data =>
    cases hs
    exact hupdate q.trashed _
  | delete =>
    rw [statement?, ModelQuery.deleting] at hs
    cases hsoft : q.schema.softDelete with
    | some column =>
      rw [hsoft] at hs
      cases hs
      exact hupdate q.trashed _
    | none =>
      rw [hsoft] at hs
      cases hs
      exact hdelete
  | forceDelete =>
    cases hs
    exact hdelete
  | restore =>
    rw [statement?, ModelQuery.restoring?] at hs
    cases hsoft : q.schema.softDelete with
    | some column =>
      rw [hsoft] at hs
      cases hs
      exact hupdate .only _
    | none =>
      rw [hsoft] at hs
      cases hs
  | _ => cases hm

/-- **A write unfit to be run** ends in its error before the executor is reached. -/
theorem outcome_run_of_error {c : Connection σ} (m : Model α) {q : ModelQuery}
    {method : ModelMethod} (hm : method.writes = true) {session : Session σ} {s : Statement}
    {error : Error} (hs : method.statement? session.now q = some s)
    (hcheck : s.check c.style = .error error) :
    (method.run m c q).outcome session = (.error error, session) := by
  have hexecute : (c.execute s).outcome session = (.error error, session) :=
    Connection.outcome_perform_of_error hcheck Executor.execute session
  cases method with
  | update data =>
    cases hs
    refine Run.outcome_bind_of_error ?_
    rw [ModelQuery.update, Run.outcome_bind, Run.outcome_now]
    exact hexecute
  | delete =>
    cases hs
    refine Run.outcome_bind_of_error ?_
    rw [ModelQuery.delete, Run.outcome_bind, Run.outcome_now]
    exact hexecute
  | forceDelete =>
    cases hs
    exact Run.outcome_bind_of_error hexecute
  | restore =>
    refine Run.outcome_bind_of_error ?_
    rw [ModelQuery.restore, Run.outcome_bind, Run.outcome_now]
    dsimp only
    rw [statement?] at hs
    cases hq : q.restoring? session.now with
    | some update =>
      rw [hq] at hs
      cases hs
      exact hexecute
    | none =>
      rw [hq] at hs
      cases hs
  | _ => cases hm

/-- Only the return of deleted rows may have nothing to do. -/
theorem statement?_eq_none {method : ModelMethod} {now : DateTime} {q : ModelQuery}
    (hs : method.statement? now q = none) : method = .restore ∧ q.schema.softDelete = none := by
  cases method with
  | restore =>
    rw [statement?, ModelQuery.restoring?] at hs
    exact ⟨rfl, Option.map_eq_none_iff.mp (Option.map_eq_none_iff.mp hs)⟩
  | _ => cases hs

/-- **A write after a chain of calls.** It is the write after those calls alone that are about joins,
    conditions or deleted rows, and no condition was forgotten on the way. Its statement is about the
    model's table and shows the joins of the query, and at the end its conditions behind the filter
    for deleted rows; it is handed over if it is fit to be run, else the write ends in its error with
    the session as it was. Without a delete column there is nothing to restore, and nothing is
    handed over. -/
theorem write_keeps_joins_and_conditions {c : Connection (σ × List RecordedCall)} {e : Executor σ}
    (hc : c.executor = some e.recording) (m : Model α) (q : ModelQuery) (steps : List ModelStep)
    {method : ModelMethod} (hm : method.writes = true)
    (session : Session (σ × List RecordedCall)) :
    let chained := steps.foldl ModelQuery.step q
    let restricting := (steps.filter ModelStep.restrictsWrites).foldl ModelQuery.step q
    let asked := method.query chained
    method.statement? session.now chained = method.statement? session.now restricting ∧
      q.select.wheres.conditions <+: chained.select.wheres.conditions ∧
      (∀ truth : Predicate → Bool, Conditions.reads truth asked.scopedWhere.conditions =
        (asked.trashFilter.all truth && Conditions.reads truth chained.select.wheres.conditions)) ∧
      match method.statement? session.now chained with
      | none => method = .restore ∧ q.schema.softDelete = none ∧
          (method.run m c chained).record session = session.record
      | some s => s.scope? = some ⟨q.schema.table, chained.select.joins, asked.scopedWhere⟩ ∧
          (q.schema.table.isEmpty = false → ∃ before between, s.template c.style =
            squeeze (before ++ text (chained.select.joins.sql c.style q.schema.table) ++ between
              ++ asked.scopedWhere.template c.style q.schema.table)) ∧
          match s.check c.style with
          | .ok built => (method.run m c chained).record session =
              session.record ++ [.execute built.sql (Bind.ofParams built.params)]
          | .error error => (method.run m c chained).outcome session = (.error error, session) := by
  intro chained restricting asked
  have hschema : chained.schema = q.schema := q.schema_steps steps
  have hown : asked.select = chained.select := by
    cases method <;> first | rfl | cases hm
  have hentry : method.entry = .execute := by
    cases method <;> first | rfl | cases hm
  have hrecord := record_run hc m chained method session
  refine ⟨statement?_of_agree hm session.now ((ModelQuery.Agree.refl q).steps steps),
    q.conditions_prefix_steps steps, fun truth => ?_, ?_⟩
  · rw [ModelQuery.reads_scopedWhere, hown]
  · cases hs : method.statement? session.now chained with
    | none =>
      obtain ⟨hmethod, hsoft⟩ := statement?_eq_none hs
      rw [hs] at hrecord
      exact ⟨hmethod, hschema ▸ hsoft, hrecord.trans (List.append_nil _)⟩
    | some s =>
      have hscope : s.scope? = some ⟨q.schema.table, chained.select.joins, asked.scopedWhere⟩ :=
        hschema ▸ scope_of_writes hm hs
      refine ⟨hscope, Statement.template_of_scope hscope, ?_⟩
      cases hcheck : s.check c.style with
      | error error => exact outcome_run_of_error m hm hs hcheck
      | ok built =>
        rw [hs, Option.map_some, Option.getD_some, Statement.handedOver, hcheck, hentry] at hrecord
        exact hrecord

end ModelMethod

/-- A chain about one task that is done, by the latest deletion. -/
def ModelQuery.oneDone : List ModelStep :=
  [.trashed .only, .filter (.compare .and (.name "done") .equal (.bool true)),
    .order (.name "deleted_at") .descending, .limit 1]

/-- Its removal is that of all deleted tasks that are done. -/
theorem ModelMethod.removal_keeps_conditions :
    forceDelete.writes = true ∧
      (forceDelete.run Model.tasks Connection.scripted
          (ModelQuery.oneDone.foldl ModelQuery.step (.ofSchema Model.tasks.toSchema))).record
        Session.scripted =
          [.execute ("DELETE FROM \x60tasks\x60 WHERE \x60tasks\x60.\x60deleted_at\x60 IS NOT NULL"
              ++ " AND (\x60done\x60 = :tasks_done_0)")
            [⟨":tasks_done_0", .bool true⟩]] := by
  have hm : forceDelete.writes = true := rfl
  refine ⟨hm, ?_⟩
  obtain ⟨-, -, -, -, -, hwrite⟩ := write_keeps_joins_and_conditions (c := Connection.scripted) rfl
    Model.tasks (.ofSchema Model.tasks.toSchema) ModelQuery.oneDone hm Session.scripted
  exact hwrite.trans (by decide +kernel)

/-- A chain about one adult called Ann, after the first two. -/
def ModelQuery.oneAnn : List ModelStep :=
  [.filter (.compare .and (.name "name") .equal (.text "Ann")),
    .having (.compare .and (.name "age") .atLeast (.int 18)), .limit 1, .offset 2]

/-- The removal of these rows is that of all rows of the name: three, if there are as many. -/
theorem ModelMethod.removal_forgets_limit :
    let q := ModelQuery.oneAnn.foldl ModelQuery.step (.ofSchema Model.users.toSchema)
    let server : Session (Script × List RecordedCall) :=
      { state := ({ responses := [.answer 3 []] }, []), now := default }
    q.select.limit = some 1 ∧ q.select.offset = some 2 ∧ q.select.havings.length = 1 ∧
      (forceDelete.run Model.users Connection.scripted q).record server =
        [.execute "DELETE FROM \x60users\x60 WHERE \x60name\x60 = :users_name_0"
          [⟨":users_name_0", .text "Ann"⟩]] ∧
      ((q.forceDelete Connection.scripted).outcome server).1.toOption = some 3 := by
  refine ⟨rfl, rfl, rfl, ?_, ?_⟩
  · decide +kernel
  · decide +kernel

end FluentSql
