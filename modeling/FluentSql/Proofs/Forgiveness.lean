import FluentSql.Proofs.Recording
/-!
# `FluentSql.Proofs.Forgiveness` — what is built does not depend on what was misused

A statement keeps its first misuse in its own slot, in its WHERE clause and in its JOIN clause, and so
does each statement in it. `Select.forgiven` empties all these slots and leaves the rest as it is. Two
statements that are the same when they are forgiven differ in nothing but what they keep of misuse:
they compile to the same text and parameters, and stay so whatever is called on both.

* `Select.template_forgiven` — misuse is not compiled;
* `Select.forgiven_step`, `Update.forgiven_step`, … — misuse has no part in a call;
* `ModelMethod.forgiven_statement` — nor in the statement of a method of a query.
-/

namespace FluentSql

open Template

/-! ## Emptying the slots -/

/-- **Joins forgiven.** -/
def JoinClause.forgiven (clause : JoinClause) : JoinClause := { clause with misuse := none }

mutual

/-- A test forgiven: the statements in it are. -/
def Predicate.forgiven : Predicate → Predicate
  | .compare column op operand => .compare column op operand
  | .raw sql params => .raw sql params
  | .related table column parent wanted => .related table column parent wanted
  | .subquery query wanted => .subquery (Select.forgiven query) wanted
  | .group conditions => .group (Conditions.forgiven conditions)

/-- Conditions forgiven. -/
def Conditions.forgiven : List Condition → List Condition
  | [] => []
  | ⟨joiner, predicate⟩ :: conditions =>
    ⟨joiner, Predicate.forgiven predicate⟩ :: Conditions.forgiven conditions

/-- **A SELECT statement forgiven.** -/
def Select.forgiven : Select → Select
  | ⟨table, called, columns, distinct, joins, ⟨conditions, _⟩, groups, havings, orders, aggregates,
      unions, limit, offset, _⟩ =>
    ⟨table, called, columns, distinct, joins.forgiven, ⟨Conditions.forgiven conditions, none⟩, groups,
      havings, orders, aggregates, Select.forgivenBranches unions, limit, offset, none⟩

/-- Union branches forgiven. -/
def Select.forgivenBranches : List UnionBranch → List UnionBranch
  | [] => []
  | ⟨all, query⟩ :: unions => ⟨all, Select.forgiven query⟩ :: Select.forgivenBranches unions

end

/-- **A WHERE clause forgiven.** -/
def WhereClause.forgiven (clause : WhereClause) : WhereClause :=
  ⟨Conditions.forgiven clause.conditions, none⟩

/-- An INSERT statement forgiven. -/
def Insert.forgiven (q : Insert) : Insert := { q with misuse := none }

/-- An UPDATE statement forgiven. -/
def Update.forgiven (q : Update) : Update :=
  { q with joins := q.joins.forgiven, wheres := q.wheres.forgiven, misuse := none }

/-- A DELETE statement forgiven. -/
def Delete.forgiven (q : Delete) : Delete :=
  { q with joins := q.joins.forgiven, wheres := q.wheres.forgiven, misuse := none }

/-- A query of a model forgiven. -/
def ModelQuery.forgiven (q : ModelQuery) : ModelQuery := { q with select := q.select.forgiven }

/-- **A statement forgiven.** -/
def Statement.forgiven : Statement → Statement
  | .select q => .select q.forgiven
  | .insert q => .insert q.forgiven
  | .update q => .update q.forgiven
  | .delete q => .delete q.forgiven
  | .raw q => .raw q

theorem Select.forgiven_eq (q : Select) :
    q.forgiven = { q with
      joins := q.joins.forgiven
      wheres := q.wheres.forgiven
      unions := Select.forgivenBranches q.unions
      misuse := none } := by
  obtain ⟨table, called, columns, distinct, joins, ⟨conditions, _⟩, groups, havings, orders,
    aggregates, unions, limit, offset, _⟩ := q
  simp only [Select.forgiven, WhereClause.forgiven]

/-! ## Forgiving twice -/

mutual

theorem Predicate.forgiven_forgiven : ∀ predicate : Predicate,
    predicate.forgiven.forgiven = predicate.forgiven
  | .compare column op operand => rfl
  | .raw sql params => rfl
  | .related table column parent wanted => rfl
  | .subquery query wanted => by
    simp only [Predicate.forgiven, Select.forgiven_forgiven query]
  | .group conditions => by
    simp only [Predicate.forgiven, Conditions.forgiven_forgiven conditions]

theorem Conditions.forgiven_forgiven : ∀ conditions : List Condition,
    Conditions.forgiven (Conditions.forgiven conditions) = Conditions.forgiven conditions
  | [] => rfl
  | ⟨joiner, predicate⟩ :: conditions => by
    simp only [Conditions.forgiven, Predicate.forgiven_forgiven predicate,
      Conditions.forgiven_forgiven conditions]

/-- Nothing is left to forgive. -/
theorem Select.forgiven_forgiven : ∀ q : Select, q.forgiven.forgiven = q.forgiven
  | ⟨table, called, columns, distinct, joins, ⟨conditions, _⟩, groups, havings, orders, aggregates,
      unions, limit, offset, _⟩ => by
    simp only [Select.forgiven, Conditions.forgiven_forgiven conditions,
      Select.forgiven_forgivenBranches unions]
    rfl

theorem Select.forgiven_forgivenBranches : ∀ unions : List UnionBranch,
    Select.forgivenBranches (Select.forgivenBranches unions) = Select.forgivenBranches unions
  | [] => rfl
  | ⟨all, query⟩ :: unions => by
    simp only [Select.forgivenBranches, Select.forgiven_forgiven query,
      Select.forgiven_forgivenBranches unions]

end

theorem WhereClause.forgiven_forgiven (clause : WhereClause) :
    clause.forgiven.forgiven = clause.forgiven := by
  unfold forgiven
  rw [Conditions.forgiven_forgiven]

theorem Select.forgivenBranches_append (front back : List UnionBranch) :
    forgivenBranches (front ++ back) = forgivenBranches front ++ forgivenBranches back := by
  induction front with
  | nil => rfl
  | cons branch front ih =>
    obtain ⟨all, query⟩ := branch
    simp only [List.cons_append, forgivenBranches, ih]

/-! ## Misuse is not compiled -/

mutual

theorem Predicate.template_forgiven (st : Style) (kind : ClauseKind) (table : String) :
    ∀ predicate : Predicate,
      predicate.forgiven.template st kind table = predicate.template st kind table
  | .compare column op operand => rfl
  | .raw sql params => rfl
  | .related other column parent wanted => rfl
  | .subquery query wanted => by
    simp only [Predicate.forgiven, Predicate.template, Select.template_forgiven st query]
  | .group conditions => by
    simp only [Predicate.forgiven, Predicate.template,
      Conditions.templateFrom_forgiven st kind table false conditions]

theorem Conditions.templateFrom_forgiven (st : Style) (kind : ClauseKind) (table : String)
    (started : Bool) : ∀ conditions : List Condition,
      Conditions.templateFrom st kind table started (Conditions.forgiven conditions) =
        Conditions.templateFrom st kind table started conditions
  | [] => rfl
  | ⟨joiner, predicate⟩ :: conditions => by
    simp only [Conditions.forgiven, Conditions.templateFrom,
      Predicate.template_forgiven st kind table predicate,
      Conditions.templateFrom_forgiven st kind table _ conditions]

/-- **A SELECT statement compiles to what it compiles to when it is forgiven.** -/
theorem Select.template_forgiven (st : Style) : ∀ q : Select, q.forgiven.template st = q.template st
  | ⟨table, called, columns, distinct, joins, ⟨conditions, _⟩, groups, havings, orders, aggregates,
      unions, limit, offset, _⟩ => by
    simp only [Select.forgiven, Select.template,
      Conditions.templateFrom_forgiven st .wheres table false conditions,
      Select.branchTemplates_forgiven st unions]
    rfl

theorem Select.branchTemplates_forgiven (st : Style) : ∀ unions : List UnionBranch,
    Select.branchTemplates st (Select.forgivenBranches unions) = Select.branchTemplates st unions
  | [] => rfl
  | ⟨all, query⟩ :: unions => by
    simp only [Select.forgivenBranches, Select.branchTemplates, Select.template_forgiven st query,
      Select.branchTemplates_forgiven st unions]

end

theorem WhereClause.template_forgiven (st : Style) (table : String) (clause : WhereClause) :
    clause.forgiven.template st table = clause.template st table :=
  congrArg (headed "WHERE") (Conditions.templateFrom_forgiven st .wheres table false clause.conditions)

/-- **Misuse is not compiled**, whatever the statement. -/
theorem Statement.template_forgiven (st : Style) (s : Statement) :
    s.forgiven.template st = s.template st := by
  cases s with
  | select q => exact q.template_forgiven st
  | insert q => rfl
  | update q =>
    show q.forgiven.template st = q.template st
    unfold Update.template
    show (if q.table.isEmpty then _ else squeeze (_ ++ q.wheres.forgiven.template st q.table)) = _
    rw [WhereClause.template_forgiven]
    rfl
  | delete q =>
    show q.forgiven.template st = q.template st
    unfold Delete.template
    show (if q.table.isEmpty then _ else squeeze (_ ++ q.wheres.forgiven.template st q.table)) = _
    rw [WhereClause.template_forgiven]
    rfl
  | raw q => rfl

/-! ## Misuse has no part in a call -/

/-- The table that a statement is pointed at. -/
theorem retarget_fst (current : String) (misuse misuse' : Option Misuse) (table : String) :
    (retarget current misuse table).1 = (retarget current misuse' table).1 := by
  unfold retarget
  split
  · rfl
  · split <;> rfl

theorem JoinClause.forgiven_forgiven (clause : JoinClause) : clause.forgiven.forgiven = clause.forgiven :=
  rfl

theorem JoinClause.forgiven_step (clause : JoinClause) (step : JoinStep) :
    (clause.step step).forgiven = (clause.forgiven.step step).forgiven := by
  cases step with
  | join kind table called => rfl
  | on predicate =>
    simp only [step, on, forgiven]
    cases clause.joins.getLast? with
    | none => rfl
    | some last =>
      by_cases hcross : last.kind = .cross
      · simp only [if_pos hcross, record]
      · simp only [if_neg hcross]

theorem Conditions.forgiven_append (front back : List Condition) :
    forgiven (front ++ back) = forgiven front ++ forgiven back := by
  induction front with
  | nil => rfl
  | cons condition front ih =>
    obtain ⟨joiner, predicate⟩ := condition
    simp only [List.cons_append, forgiven, ih]

theorem Conditions.isEmpty_forgiven (conditions : List Condition) :
    (forgiven conditions).isEmpty = conditions.isEmpty := by
  cases conditions with
  | nil => rfl
  | cons condition conditions =>
    obtain ⟨joiner, predicate⟩ := condition
    simp only [forgiven, List.isEmpty_cons]

theorem Conditions.forgiven_push (conditions : Conditions) (joiner : Conjunction)
    (predicate : Predicate) :
    forgiven (conditions.push joiner predicate) =
      push (forgiven conditions) joiner predicate.forgiven := by
  rcases predicate with _ | _ | _ | _ | (_ | ⟨⟨_, _⟩, _⟩) <;>
    simp only [push, Predicate.forgiven, forgiven, forgiven_append, isEmpty_forgiven]

/-- **The test that a call pushes**, with how it is joined; none if its operator does not exist. -/
def WhereStep.pushed? : WhereStep → Option (Conjunction × Predicate)
  | .compare joiner column op value => some (joiner, .compare column op (.single value))
  | .compareBy column text value =>
    (Operator.ofText? text).map fun op => (.and, .compare column op (.single value))
  | .null joiner column wanted => some (joiner, nullTest column wanted)
  | .between joiner column low high wanted => some (joiner, betweenTest column low high wanted)
  | .among joiner column values wanted => some (joiner, amongTest column values wanted)
  | .raw joiner sql bindings => some (joiner, .raw sql (.ofList bindings))
  | .related joiner table column parent wanted => some (joiner, .related table column parent wanted)
  | .subquery steps wanted => some (.and, .subquery (Select.ofSteps steps) wanted)
  | .group joiner steps => some (joiner, .group (WhereClause.empty.steps steps).conditions)

namespace WhereClause

theorem conditions_step (clause : WhereClause) (step : WhereStep) :
    (clause.step step).conditions =
      match step.pushed? with
      | some (joiner, predicate) => Conditions.push clause.conditions joiner predicate
      | none => clause.conditions := by
  cases step with
  | compareBy column text value =>
    simp only [WhereClause.step, WhereStep.pushed?]
    cases Operator.ofText? text <;> rfl
  | subquery steps wanted =>
    simp only [WhereClause.step, WhereStep.pushed?, Select.ofSteps, pushSubquery]
    cases (Select.empty.steps steps).misuse? <;> rfl
  | group joiner steps => simp only [WhereClause.step, WhereStep.pushed?, pushGroup]
  | _ => rfl

/-- **A call about conditions.** -/
theorem forgiven_step (clause : WhereClause) (step : WhereStep) :
    (clause.step step).forgiven = (clause.forgiven.step step).forgiven := by
  unfold forgiven
  rw [conditions_step, conditions_step]
  cases step.pushed? with
  | none => simp only [Conditions.forgiven_forgiven]
  | some test => simp only [Conditions.forgiven_push, Conditions.forgiven_forgiven]

end WhereClause

/-- **A call about a SELECT statement.** -/
theorem Select.forgiven_step (q : Select) (step : SelectStep) :
    (q.step step).forgiven = (q.forgiven.step step).forgiven := by
  rw [(q.step step).forgiven_eq, (q.forgiven.step step).forgiven_eq, q.forgiven_eq]
  cases step with
  | target table =>
    simp only [Select.step, target, retarget_fst q.table q.misuse none, JoinClause.forgiven_forgiven,
      WhereClause.forgiven_forgiven, forgiven_forgivenBranches]
  | targetAs table called =>
    simp only [Select.step, targetAs, target, retarget_fst q.table q.misuse none,
      JoinClause.forgiven_forgiven, WhereClause.forgiven_forgiven, forgiven_forgivenBranches]
  | filter step =>
    simp only [Select.step, WhereClause.forgiven_step q.wheres, JoinClause.forgiven_forgiven,
      forgiven_forgivenBranches]
  | join step =>
    simp only [Select.step, JoinClause.forgiven_step q.joins, WhereClause.forgiven_forgiven,
      forgiven_forgivenBranches]
  | union all steps =>
    simp only [Select.step, union, forgivenBranches_append, JoinClause.forgiven_forgiven,
      WhereClause.forgiven_forgiven, forgiven_forgivenBranches]
  | clean => rfl
  | _ =>
    simp only [Select.step, addColumns, groupBy, orderBy, aggregate, take, skip, page,
      JoinClause.forgiven_forgiven, WhereClause.forgiven_forgiven, forgiven_forgivenBranches]

/-- Statements that are the same when they are forgiven stay so. -/
theorem Select.forgiven_step_congr {q q' : Select} (h : q.forgiven = q'.forgiven) (step : SelectStep) :
    (q.step step).forgiven = (q'.step step).forgiven := by
  rw [q.forgiven_step, h, ← q'.forgiven_step]

/-- A call about an INSERT statement. -/
theorem Insert.forgiven_step (q : Insert) (step : InsertStep) :
    (q.step step).forgiven = (q.forgiven.step step).forgiven := by
  cases step with
  | target table =>
    simp only [Insert.step, target, forgiven, retarget_fst q.table q.misuse none]
  | _ => rfl

/-- A call about an UPDATE statement. -/
theorem Update.forgiven_step (q : Update) (step : UpdateStep) :
    (q.step step).forgiven = (q.forgiven.step step).forgiven := by
  cases step with
  | target table =>
    simp only [Update.step, target, forgiven, retarget_fst q.table q.misuse none,
      JoinClause.forgiven_forgiven, WhereClause.forgiven_forgiven]
  | set data =>
    simp only [Update.step, set, forgiven, JoinClause.forgiven_forgiven,
      WhereClause.forgiven_forgiven]
  | filter step =>
    simp only [Update.step, forgiven, WhereClause.forgiven_step q.wheres,
      JoinClause.forgiven_forgiven]
  | join step =>
    simp only [Update.step, forgiven, JoinClause.forgiven_step q.joins,
      WhereClause.forgiven_forgiven]
  | clean => rfl

/-- A call about a DELETE statement. -/
theorem Delete.forgiven_step (q : Delete) (step : DeleteStep) :
    (q.step step).forgiven = (q.forgiven.step step).forgiven := by
  cases step with
  | target table =>
    simp only [Delete.step, target, forgiven, retarget_fst q.table q.misuse none,
      JoinClause.forgiven_forgiven, WhereClause.forgiven_forgiven]
  | filter step =>
    simp only [Delete.step, forgiven, WhereClause.forgiven_step q.wheres,
      JoinClause.forgiven_forgiven]
  | join step =>
    simp only [Delete.step, forgiven, JoinClause.forgiven_step q.joins,
      WhereClause.forgiven_forgiven]
  | clean => rfl

/-! ## Queries of a model -/

namespace ModelQuery

variable (q : ModelQuery)

theorem forgiven_selectStep (step : SelectStep) :
    (q.selectStep step).forgiven = (q.forgiven.selectStep step).forgiven :=
  congrArg (fun select => ModelQuery.mk q.schema select q.trashed) (q.select.forgiven_step step)

/-- **A call on a query of a model.** -/
theorem forgiven_step (step : ModelStep) :
    (q.step step).forgiven = (q.forgiven.step step).forgiven := by
  cases step with
  | trashed which =>
    exact congrArg (fun select => ModelQuery.mk q.schema select which)
      q.select.forgiven_forgiven.symm
  | _ => exact q.forgiven_selectStep _

theorem joins_forgiven : q.forgiven.select.joins = q.select.joins.forgiven := by
  rw [forgiven, Select.forgiven_eq]

theorem wheres_forgiven : q.forgiven.select.wheres = q.select.wheres.forgiven := by
  rw [forgiven, Select.forgiven_eq]

theorem forgiven_scopedWhere : q.scopedWhere.forgiven = q.forgiven.scopedWhere.forgiven := by
  have hfilter : q.forgiven.trashFilter = q.trashFilter := rfl
  unfold scopedWhere
  rw [hfilter, q.wheres_forgiven]
  cases q.trashFilter with
  | none => exact q.select.wheres.forgiven_forgiven.symm
  | some filter =>
    simp only [WhereClause.forgiven, WhereClause.pushGroup, Conditions.forgiven_push,
      Predicate.forgiven, Conditions.forgiven_forgiven]

theorem forgiven_statement : q.statement.forgiven = q.forgiven.statement.forgiven := by
  have hforgiven : q.forgiven.select = q.select.forgiven := rfl
  rw [q.statement.forgiven_eq, q.forgiven.statement.forgiven_eq]
  simp only [statement, q.forgiven_scopedWhere, hforgiven]
  rw [q.select.forgiven_eq]
  simp only [JoinClause.forgiven_forgiven, Select.forgiven_forgivenBranches]

theorem forgiven_updating (data : Payload) :
    (q.updating data).forgiven = (q.forgiven.updating data).forgiven := by
  simp only [updating, Update.forgiven, q.forgiven_scopedWhere, q.joins_forgiven,
    JoinClause.forgiven_forgiven]
  rfl

theorem forgiven_forceDeleting : q.forceDeleting.forgiven = q.forgiven.forceDeleting.forgiven := by
  simp only [forceDeleting, Delete.forgiven, q.forgiven_scopedWhere, q.joins_forgiven,
    JoinClause.forgiven_forgiven]
  rfl

end ModelQuery

/-- **Misuse has no part in the statement of a method** of a query. -/
theorem ModelMethod.forgiven_statement (method : ModelMethod) (now : DateTime) (q : ModelQuery) :
    (method.statement? now q).map Statement.forgiven =
      (method.statement? now q.forgiven).map Statement.forgiven := by
  have hselect : ∀ {query query' : Select} (_ : query.forgiven = query'.forgiven),
      (some (Statement.select query)).map Statement.forgiven =
        (some (Statement.select query')).map Statement.forgiven :=
    fun h => congrArg (fun query => some (Statement.select query)) h
  have hupdate : ∀ data, Statement.forgiven (.update (q.updating data)) =
      Statement.forgiven (.update (q.forgiven.updating data)) :=
    fun data => congrArg Statement.update (q.forgiven_updating data)
  have hdelete : Statement.forgiven (.delete q.forceDeleting) =
      Statement.forgiven (.delete q.forgiven.forceDeleting) :=
    congrArg Statement.delete q.forgiven_forceDeleting
  have hstatement := q.forgiven_statement
  cases method with
  | get => exact hselect hstatement
  | first => exact hselect (Select.forgiven_step_congr hstatement (.limit 1))
  | last =>
    have hordered := Select.forgiven_step_congr hstatement
      (.order (.name q.schema.primaryKey) .descending)
    exact hselect (Select.forgiven_step_congr hordered (.limit 1))
  | find id =>
    have hfound : (q.found id).statement.forgiven = (q.forgiven.found id).statement.forgiven := by
      rw [ModelQuery.forgiven_statement, (q.forgiven.found id).forgiven_statement]
      exact congrArg (fun query => query.statement.forgiven) (q.forgiven_step _)
    exact hselect (Select.forgiven_step_congr hfound (.limit 1))
  | isInhabited =>
    have hcolumns := Select.forgiven_step_congr hstatement (.columns [⟨.raw "1", none⟩])
    exact hselect (Select.forgiven_step_congr hcolumns (.limit 1))
  | count =>
    exact hselect (Select.forgiven_step_congr hstatement (.aggregate .count _ _))
  | aggregate fn column => exact hselect (Select.forgiven_step_congr hstatement (.aggregate fn _ _))
  | update data => exact congrArg some (hupdate _)
  | delete =>
    show some ((q.deleting now).forgiven) = some ((q.forgiven.deleting now).forgiven)
    have hschema : q.forgiven.schema = q.schema := rfl
    unfold ModelQuery.deleting
    rw [hschema]
    cases q.schema.softDelete with
    | none => exact congrArg some hdelete
    | some column => exact congrArg some (hupdate _)
  | forceDelete => exact congrArg some hdelete
  | restore =>
    have hrestored : ∀ data, Statement.forgiven (.update ({ q with trashed := .only }.updating data)) =
        Statement.forgiven (.update ({ q.forgiven with trashed := .only }.updating data)) :=
      fun data => congrArg Statement.update
        (ModelQuery.forgiven_updating { q with trashed := .only } data)
    show ((q.restoring? now).map _).map _ = ((q.forgiven.restoring? now).map _).map _
    have hschema : q.forgiven.schema = q.schema := rfl
    unfold ModelQuery.restoring?
    rw [hschema]
    cases q.schema.softDelete with
    | none => rfl
    | some column => exact congrArg some (hrestored _)

end FluentSql
