import FluentSql.Proofs.ConditionLists
import FluentSql.Proofs.OperandShapes
import FluentSql.Proofs.SoftDelete
import FluentSql.Proofs.Writes
import Mathlib.Data.List.Forall2
/-!
# `FluentSql.Proofs.ReachedLists` — the lists of conditions inside a statement

A list of conditions stands in a statement, in a group, in a subquery or in a union branch, and the filter
for deleted rows makes two lists of one. Each of them is the list of what some calls of the chain added, so
its first test is joined to nothing, each later one by the conjunction that it came with, and no group in
it is empty.

* `Select.reached`, `Statement.reached` — the lists inside a statement, at any depth;
* `SelectStep.additions`, `StatementChain.additions` — what the calls of a chain add to them, in the same
  order;
* `StatementChain.lists_joined` — the lists are those of what was added.
-/

namespace FluentSql

open Additions

/-! ## Lists inside lists -/

mutual

/-- The lists inside a test. -/
def Predicate.inner : Predicate → List Conditions
  | .group conditions => conditions :: Conditions.inner conditions
  | .subquery query _ => Select.reached query
  | _ => []

/-- The lists inside the tests of a list. -/
def Conditions.inner : List Condition → List Conditions
  | [] => []
  | ⟨_, predicate⟩ :: conditions => Predicate.inner predicate ++ Conditions.inner conditions

/-- **The lists inside a statement**, at any depth: its own two, and those inside them and its
    branches. -/
def Select.reached : Select → List Conditions
  | ⟨_, _, _, _, _, ⟨conditions, _⟩, _, havings, _, _, unions, _, _, _⟩ =>
    conditions :: havings
      :: (Conditions.inner conditions ++ Conditions.inner havings ++ Select.innerOfBranches unions)

/-- The lists inside union branches. -/
def Select.innerOfBranches : List UnionBranch → List Conditions
  | [] => []
  | ⟨_, query⟩ :: unions => Select.reached query ++ Select.innerOfBranches unions

end

mutual

/-- What is added to the list inside a call about HAVING conditions, and to those inside it. -/
def HavingStep.inner : HavingStep → List Additions
  | .group _ steps =>
    if (steps.flatMap HavingStep.addition).isEmpty then []
    else steps.flatMap HavingStep.addition :: HavingStep.allInner steps
  | _ => []

/-- The same of several calls. -/
def HavingStep.allInner : List HavingStep → List Additions
  | [] => []
  | step :: steps => HavingStep.inner step ++ HavingStep.allInner steps

end

theorem HavingStep.allInner_eq (steps : List HavingStep) :
    HavingStep.allInner steps = steps.flatMap HavingStep.inner := by
  induction steps with
  | nil => rfl
  | cons step steps ih => rw [HavingStep.allInner, ih, List.flatMap_cons]

namespace SelectStep

/-- What a chain adds to the two lists of its statement. -/
def own (steps : List SelectStep) : List Additions :=
  [(filters steps).flatMap WhereStep.addition, (havings steps).flatMap HavingStep.addition]

/-- What a chain adds to lists inside HAVING conditions. -/
def innerHavings (steps : List SelectStep) : List Additions := (havings steps).flatMap HavingStep.inner

end SelectStep

mutual

/-- **What is added to the lists inside a call about conditions**; a group in which nothing is added
    makes no list. -/
def WhereStep.inner : WhereStep → List Additions
  | .subquery steps _ =>
    SelectStep.own steps
      ++ (SelectStep.innerFilters steps ++ SelectStep.innerHavings steps
        ++ SelectStep.innerBranches steps)
  | .group _ steps =>
    if (steps.flatMap WhereStep.addition).isEmpty then []
    else steps.flatMap WhereStep.addition :: WhereStep.allInner steps
  | _ => []

/-- The same of several calls. -/
def WhereStep.allInner : List WhereStep → List Additions
  | [] => []
  | step :: steps => WhereStep.inner step ++ WhereStep.allInner steps

/-- What a chain adds to lists inside conditions. -/
def SelectStep.innerFilters : List SelectStep → List Additions
  | [] => []
  | .filter step :: later =>
    if later.any SelectStep.forgets then SelectStep.innerFilters later
    else WhereStep.inner step ++ SelectStep.innerFilters later
  | _ :: later => SelectStep.innerFilters later

/-- What a chain adds to lists in union branches. -/
def SelectStep.innerBranches : List SelectStep → List Additions
  | [] => []
  | .union _ steps :: later =>
    if later.any SelectStep.forgets then SelectStep.innerBranches later
    else
      SelectStep.own steps
        ++ (SelectStep.innerFilters steps ++ SelectStep.innerHavings steps
          ++ SelectStep.innerBranches steps)
        ++ SelectStep.innerBranches later
  | _ :: later => SelectStep.innerBranches later

end

/-- **What a chain adds** to the lists inside its statement, list by list. -/
def SelectStep.additions (steps : List SelectStep) : List Additions :=
  own steps ++ (innerFilters steps ++ innerHavings steps ++ innerBranches steps)

/-! ## The lists are those of what was added -/

theorem Select.reached_eq (q : Select) :
    q.reached = q.wheres.conditions :: q.havings
      :: (Conditions.inner q.wheres.conditions ++ Conditions.inner q.havings
        ++ Select.innerOfBranches q.unions) := by
  obtain ⟨table, called, columns, distinct, joins, ⟨conditions, inConditions⟩, groups, havings,
    orders, aggregates, unions, limit, offset, inTable⟩ := q
  rw [Select.reached]

/-- The lists inside what was added. -/
def Additions.inner (adds : Additions) : List Conditions := adds.flatMap fun add => add.predicate.inner

theorem Additions.inner_append (adds more : Additions) :
    inner (adds ++ more) = inner adds ++ inner more :=
  List.flatMap_append

theorem Conditions.inner_toConditions (adds : Additions) :
    Conditions.inner (toConditions adds) = adds.inner := by
  have hlater : ∀ later : Additions,
      Conditions.inner (later.map fun add => ⟨some add.joiner, add.predicate⟩) =
        Additions.inner later := by
    intro later
    induction later with
    | nil => rfl
    | cons add later ih =>
      rw [List.map_cons, Conditions.inner, ih]
      rfl
  cases adds with
  | nil => rfl
  | cons first later =>
    rw [toConditions, Conditions.inner, hlater]
    rfl

/-- A group of what was added. -/
theorem Additions.inner_single_group (joiner : Conjunction) (adds : Additions) :
    inner (single joiner (.group (toConditions adds))) =
      if adds.isEmpty then [] else toConditions adds :: inner adds := by
  cases adds with
  | nil => rfl
  | cons first later =>
    have hadded : inner (single joiner (.group (toConditions (first :: later)))) =
        Predicate.inner (.group (toConditions (first :: later))) :=
      List.append_nil _
    rw [hadded, Predicate.inner, Conditions.inner_toConditions]
    rfl

mutual

/-- **Lists inside a call about HAVING conditions.** -/
theorem HavingStep.inner_addition : ∀ step : HavingStep,
    Additions.inner step.addition = step.inner.map toConditions
  | .group joiner steps => by
    have hgroup : Conditions.havingSteps [] steps = toConditions (steps.flatMap HavingStep.addition) :=
      Conditions.havingSteps_toConditions [] steps
    rw [HavingStep.addition, HavingStep.pushed, hgroup, Additions.inner_single_group, HavingStep.inner,
      HavingStep.inner_additions steps]
    split <;> rfl
  | .compare joiner column op value => rfl
  | .null column wanted => rfl
  | .between column low high => rfl
  | .among column values => rfl
  | .raw sql => rfl

theorem HavingStep.inner_additions : ∀ steps : List HavingStep,
    Additions.inner (steps.flatMap HavingStep.addition) = (HavingStep.allInner steps).map toConditions
  | [] => rfl
  | step :: steps => by
    rw [List.flatMap_cons, Additions.inner_append, HavingStep.inner_addition step,
      HavingStep.inner_additions steps, HavingStep.allInner, List.map_append]

end

namespace SelectStep

theorem filters_cons (step : SelectStep) (later : List SelectStep) :
    filters (step :: later) =
      if later.any forgets then filters later else step.filter?.toList ++ filters later := by
  cases step with
  | clean =>
    show filters later = _
    split <;> rfl
  | _ => rfl

theorem innerFilters_cons (step : SelectStep) (later : List SelectStep) :
    innerFilters (step :: later) =
      if later.any forgets then innerFilters later
      else step.filter?.toList.flatMap WhereStep.inner ++ innerFilters later := by
  cases step with
  | filter step => simp [innerFilters, filter?]
  | _ => simp [innerFilters, filter?]

theorem branches_cons (step : SelectStep) (later : List SelectStep) :
    branches (step :: later) =
      if later.any forgets then branches later else step.branch?.toList ++ branches later := by
  cases step with
  | clean =>
    show branches later = _
    split <;> rfl
  | _ => rfl

theorem innerBranches_cons (step : SelectStep) (later : List SelectStep) :
    innerBranches (step :: later) =
      if later.any forgets then innerBranches later
      else step.branch?.toList.flatMap (fun (_, steps) => additions steps) ++ innerBranches later := by
  cases step with
  | union all steps => simp [innerBranches, branch?, additions]
  | _ => simp [innerBranches, branch?]

end SelectStep

theorem Select.innerOfBranches_append (unions more : List UnionBranch) :
    innerOfBranches (unions ++ more) = innerOfBranches unions ++ innerOfBranches more := by
  induction unions with
  | nil => rfl
  | cons branch unions ih =>
    obtain ⟨all, query⟩ := branch
    rw [List.cons_append, innerOfBranches, ih, innerOfBranches, List.append_assoc]

/-- The lists of a statement whose conditions are those of what was added. -/
theorem Select.reached_of {q : Select} {adds havings : Additions}
    (hwheres : q.wheres.conditions = toConditions adds) (hhavings : q.havings = toConditions havings) :
    q.reached = toConditions adds :: toConditions havings
      :: (adds.inner ++ havings.inner ++ innerOfBranches q.unions) := by
  rw [reached_eq, hwheres, hhavings, Conditions.inner_toConditions, Conditions.inner_toConditions]

/-- Lists inside the HAVING conditions of a chain. -/
theorem SelectStep.inner_havings (steps : List SelectStep) :
    Additions.inner ((SelectStep.havings steps).flatMap HavingStep.addition) =
      (SelectStep.innerHavings steps).map toConditions := by
  rw [HavingStep.inner_additions, SelectStep.innerHavings, HavingStep.allInner_eq]

/-- The lists of a chain's statement, if those inside its conditions and branches are known. -/
theorem Select.reached_ofSteps_of {steps : List SelectStep}
    (hfilters : Additions.inner ((SelectStep.filters steps).flatMap WhereStep.addition) =
      (SelectStep.innerFilters steps).map toConditions)
    (hbranches : innerOfBranches ((SelectStep.branches steps).map SelectStep.toBranch) =
      (SelectStep.innerBranches steps).map toConditions) :
    (Select.ofSteps steps).reached = (SelectStep.additions steps).map toConditions := by
  have hmade := Select.isMadeOf_ofSteps steps
  rw [reached_of hmade.wheres hmade.havings, hmade.unions, hfilters, SelectStep.inner_havings, hbranches,
    SelectStep.additions, SelectStep.own]
  simp

mutual

/-- **Lists inside a call about conditions.** -/
theorem WhereStep.inner_addition : ∀ step : WhereStep,
    Additions.inner step.addition = step.inner.map toConditions
  | .group joiner steps => by
    have hgroup : (WhereClause.empty.steps steps).conditions =
        toConditions (steps.flatMap WhereStep.addition) :=
      WhereClause.steps_toConditions [] rfl steps
    rw [WhereStep.addition, WhereStep.pushed?]
    show Additions.inner (single joiner (.group (WhereClause.empty.steps steps).conditions)) = _
    rw [hgroup, Additions.inner_single_group, WhereStep.inner, WhereStep.inner_additions steps]
    split <;> rfl
  | .subquery steps wanted => by
    -- the statement inside is that of a shorter chain, so its lists are known by recursion
    have hreached := Select.reached_ofSteps_of (SelectStep.inner_filters steps)
      (SelectStep.inner_branches steps)
    have hadded : Additions.inner (WhereStep.addition (.subquery steps wanted)) =
        (Select.ofSteps steps).reached :=
      List.append_nil _
    rw [hadded, hreached]
    rfl
  | .compareBy column text value => by
    -- an operator that is none adds no test, and a comparison holds no lists
    rw [WhereStep.addition, WhereStep.pushed?]
    cases Operator.ofText? text <;> rfl
  | .compare joiner column op value => rfl
  | .null joiner column wanted => rfl
  | .between joiner column low high wanted => rfl
  | .among joiner column values wanted => rfl
  | .raw joiner sql bindings => rfl
  | .related joiner table column parent wanted => rfl

theorem WhereStep.inner_additions : ∀ steps : List WhereStep,
    Additions.inner (steps.flatMap WhereStep.addition) = (WhereStep.allInner steps).map toConditions
  | [] => rfl
  | step :: steps => by
    rw [List.flatMap_cons, Additions.inner_append, WhereStep.inner_addition step,
      WhereStep.inner_additions steps, WhereStep.allInner, List.map_append]

/-- Lists inside the conditions of a chain. -/
theorem SelectStep.inner_filters : ∀ steps : List SelectStep,
    Additions.inner ((SelectStep.filters steps).flatMap WhereStep.addition) =
      (SelectStep.innerFilters steps).map toConditions
  | [] => rfl
  | step :: later => by
    have hlater := SelectStep.inner_filters later
    rw [SelectStep.filters_cons, SelectStep.innerFilters_cons]
    split
    · exact hlater
    · rw [List.flatMap_append, Additions.inner_append, hlater, List.map_append]
      congr 1
      cases step with
      | filter step =>
        have hstep := WhereStep.inner_addition step
        simpa [SelectStep.filter?] using hstep
      | _ => rfl

/-- Lists inside the union branches of a chain. -/
theorem SelectStep.inner_branches : ∀ steps : List SelectStep,
    Select.innerOfBranches ((SelectStep.branches steps).map SelectStep.toBranch) =
      (SelectStep.innerBranches steps).map toConditions
  | [] => rfl
  | step :: later => by
    have hlater := SelectStep.inner_branches later
    rw [SelectStep.branches_cons, SelectStep.innerBranches_cons]
    split
    · exact hlater
    · rw [List.map_append, Select.innerOfBranches_append, hlater, List.map_append]
      congr 1
      cases step with
      | union all steps =>
        have hreached := Select.reached_ofSteps_of (SelectStep.inner_filters steps)
          (SelectStep.inner_branches steps)
        simpa [SelectStep.branch?, SelectStep.toBranch, Select.innerOfBranches] using hreached
      | _ => rfl

end

/-- **The lists inside a statement** are those of what its chain adds. -/
theorem Select.reached_ofSteps (steps : List SelectStep) :
    (Select.ofSteps steps).reached = (SelectStep.additions steps).map toConditions :=
  Select.reached_ofSteps_of (SelectStep.inner_filters steps) (SelectStep.inner_branches steps)

/-! ## Chains of all kinds -/

/-- **The lists inside a statement of any kind.** -/
def Statement.reached : Statement → List Conditions
  | .select q => q.reached
  | .update q => q.wheres.conditions :: Conditions.inner q.wheres.conditions
  | .delete q => q.wheres.conditions :: Conditions.inner q.wheres.conditions
  | .insert _ => []
  | .raw _ => []

/-- Whether a call forgets everything. -/
def UpdateStep.forgets : UpdateStep → Bool
  | .clean => true
  | _ => false

/-- The call about conditions in a call. -/
def UpdateStep.filter? : UpdateStep → Option WhereStep
  | .filter step => some step
  | _ => none

/-- Whether a call forgets everything. -/
def DeleteStep.forgets : DeleteStep → Bool
  | .clean => true
  | _ => false

/-- The call about conditions in a call. -/
def DeleteStep.filter? : DeleteStep → Option WhereStep
  | .filter step => some step
  | _ => none

theorem Update.wheres_step (q : Update) (step : UpdateStep) :
    (q.step step).wheres =
      if step.forgets then .empty else step.filter?.elim q.wheres q.wheres.step := by
  cases step <;> rfl

theorem Delete.wheres_step (q : Delete) (step : DeleteStep) :
    (q.step step).wheres =
      if step.forgets then .empty else step.filter?.elim q.wheres q.wheres.step := by
  cases step <;> rfl

/-- What calls about conditions add to their list and those inside it. -/
def WhereStep.additions (steps : List WhereStep) : List Additions :=
  steps.flatMap WhereStep.addition :: WhereStep.allInner steps

/-- **One clause** and the lists inside it. -/
theorem WhereClause.reached_foldl (steps : List WhereStep) :
    (steps.foldl WhereClause.step .empty).conditions
        :: Conditions.inner (steps.foldl WhereClause.step .empty).conditions =
      (WhereStep.additions steps).map toConditions := by
  have hconditions : (steps.foldl WhereClause.step .empty).conditions =
      toConditions (steps.flatMap WhereStep.addition) := by
    rw [← WhereClause.steps_eq_foldl]
    exact WhereClause.steps_toConditions [] rfl steps
  rw [hconditions, Conditions.inner_toConditions, WhereStep.inner_additions]
  rfl

/-! ## Queries of models -/

/-- What a call on a query of a model does to its statement. -/
def ModelStep.calls (schema : Schema) : ModelStep → List SelectStep
  | .filter step => [.filter step]
  | .having step => [.having step]
  | .join step => [.join step]
  | .group column => [.group column]
  | .order column direction => [.order column direction]
  | .limit n => [.limit n]
  | .offset n => [.offset n]
  | .trashed _ => []
  | .related other wanted => [.filter (.related .and other.table none (some schema.primaryKey) wanted)]

/-- The chain for the statement of a query of a model. -/
def ModelStep.chain (schema : Schema) (steps : List ModelStep) : List SelectStep :=
  .target schema.table :: steps.flatMap (ModelStep.calls schema)

namespace ModelQuery

theorem select_step (q : ModelQuery) (step : ModelStep) :
    (q.step step).select = q.select.steps (step.calls q.schema) := by
  cases step <;> rfl

/-- **A query of a model** chains its statement like any other. -/
theorem select_foldl (schema : Schema) (steps : List ModelStep) :
    (steps.foldl ModelQuery.step (.ofSchema schema)).select =
      .ofSteps (ModelStep.chain schema steps) := by
  have hrun : ∀ q : ModelQuery,
      (steps.foldl ModelQuery.step q).select =
        q.select.steps (steps.flatMap (ModelStep.calls q.schema)) := by
    induction steps with
    | nil => exact fun q => rfl
    | cons step steps ih =>
      intro q
      rw [List.foldl_cons, ih, select_step, schema_step, List.flatMap_cons]
      simp only [Select.steps_eq_foldl, List.foldl_append]
  exact hrun (.ofSchema schema)

/-- **What is added to the lists** of a query's statement: the caller's conditions become a group behind
    the filter, if there is one. -/
def additions (filter : Option Predicate) (steps : List SelectStep) : List Additions :=
  match filter with
  | none => SelectStep.additions steps
  | some filter =>
    let own := (SelectStep.filters steps).flatMap WhereStep.addition
    (single .and filter ++ single .and (.group (toConditions own)))
      :: (SelectStep.havings steps).flatMap HavingStep.addition
      :: ((if own.isEmpty then [] else own :: SelectStep.innerFilters steps)
        ++ SelectStep.innerHavings steps ++ SelectStep.innerBranches steps)

/-- **The lists inside the statement of a query**, those of the filter among them. -/
theorem reached_statement {q : ModelQuery} {steps : List SelectStep} (h : q.select = .ofSteps steps) :
    q.statement.reached = (additions q.trashFilter steps).map toConditions := by
  have hmade := Select.isMadeOf_ofSteps steps
  have hhavings : q.statement.havings =
      toConditions ((SelectStep.havings steps).flatMap HavingStep.addition) := by
    rw [statement, h]
    exact hmade.havings
  have hunions : q.statement.unions = (SelectStep.branches steps).map SelectStep.toBranch := by
    rw [statement, h]
    exact hmade.unions
  have hown := hmade.wheres
  have hinner := SelectStep.inner_filters steps
  cases hfilter : q.trashFilter with
  | none =>
    have hscoped : q.statement.wheres.conditions =
        toConditions ((SelectStep.filters steps).flatMap WhereStep.addition) := by
      rw [statement, scopedWhere, hfilter, h]
      exact hown
    rw [Select.reached_of hscoped hhavings, hunions, hinner, SelectStep.inner_havings,
      SelectStep.inner_branches, additions, SelectStep.additions, SelectStep.own]
    simp
  | some filter =>
    obtain ⟨name, wanted, rfl⟩ := trashFilter_eq hfilter
    rw [additions]
    generalize (SelectStep.filters steps).flatMap WhereStep.addition = own at hown hinner
    generalize hadds : single .and (nullTest (.name name) wanted) ++
      single .and (.group (toConditions own)) = adds
    have hscoped : q.statement.wheres.conditions = toConditions adds := by
      rw [statement, scopedWhere, hfilter, h, ← hadds]
      show Conditions.push _ .and (.group (Select.ofSteps steps).wheres.conditions) = _
      rw [hown]
      exact push_toConditions (single .and (nullTest (.name name) wanted)) .and
        (.group (toConditions own))
    -- a test for NULL holds no lists, so those inside are the group's; without tests there is no group
    have hgroup : adds.inner = if own.isEmpty then []
        else toConditions own :: (SelectStep.innerFilters steps).map toConditions := by
      rw [← hadds, ← hinner, ← Additions.inner_single_group .and own]
      rfl
    rw [Select.reached_of hscoped hhavings, hunions, hgroup, SelectStep.inner_havings,
      SelectStep.inner_branches]
    cases own.isEmpty <;> simp

end ModelQuery

/-! ## Every list of every chain -/

namespace StatementChain

/-- **What a chain adds** to the lists inside its statement, list by list. -/
def additions : StatementChain → List Additions
  | .select steps => SelectStep.additions steps
  | .update steps => WhereStep.additions (keptOf UpdateStep.forgets UpdateStep.filter? steps)
  | .delete steps => WhereStep.additions (keptOf DeleteStep.forgets DeleteStep.filter? steps)
  | .model schema steps =>
    ModelQuery.additions (steps.foldl ModelQuery.step (.ofSchema schema)).trashFilter
      (ModelStep.chain schema steps)

/-- **The lists inside a statement** are those of what its chain adds, list by list. -/
theorem reached_statement (chain : StatementChain) :
    chain.statement.reached = chain.additions.map toConditions := by
  cases chain with
  | select steps => exact Select.reached_ofSteps steps
  | update steps =>
    have hwheres := foldl_keptOf Update.wheres WhereClause.step Update.wheres_step (s := {}) rfl steps
    rw [statement, Statement.reached, hwheres]
    exact WhereClause.reached_foldl _
  | delete steps =>
    have hwheres := foldl_keptOf Delete.wheres WhereClause.step Delete.wheres_step (s := {}) rfl steps
    rw [statement, Statement.reached, hwheres]
    exact WhereClause.reached_foldl _
  | model schema steps => exact ModelQuery.reached_statement (ModelQuery.select_foldl schema steps)

end StatementChain

/-! ## Methods of models -/

/-- The calls that a method makes of its own before it writes its statement. -/
def ModelMethod.calls (schema : Schema) : ModelMethod → List ModelStep
  | .find id => [.filter (.compare .and (.name schema.findColumn) .equal id)]
  | .restore => [.trashed .only]
  | _ => []

theorem ModelMethod.query_eq_foldl (method : ModelMethod) (q : ModelQuery) :
    method.query q = (method.calls q.schema).foldl ModelQuery.step q := by
  cases method <;> rfl

/-- The lists of the scoped conditions are lists of the statement. -/
theorem ModelQuery.scopedWhere_subset (q : ModelQuery) :
    q.scopedWhere.conditions :: Conditions.inner q.scopedWhere.conditions ⊆ q.statement.reached := by
  rw [q.statement.reached_eq]
  refine List.cons_subset_cons _ (List.subset_cons_of_subset _ ?_)
  exact List.Subset.trans (List.subset_append_left _ _) (List.subset_append_left _ _)

/-- **A method's statement** has lists of its query's statement only. -/
theorem ModelMethod.reached_subset {method : ModelMethod} {now : DateTime} {q : ModelQuery}
    {s : Statement} (h : method.statement? now q = some s) :
    s.reached ⊆ (method.query q).statement.reached := by
  cases method with
  | update data =>
    cases h
    exact q.scopedWhere_subset
  | delete =>
    rw [statement?, ModelQuery.deleting] at h
    cases hsoft : q.schema.softDelete with
    | none =>
      rw [hsoft] at h
      cases h
      exact q.scopedWhere_subset
    | some column =>
      rw [hsoft] at h
      cases h
      exact q.scopedWhere_subset
  | forceDelete =>
    cases h
    exact q.scopedWhere_subset
  | restore =>
    rw [statement?, ModelQuery.restoring?] at h
    cases hsoft : q.schema.softDelete with
    | none =>
      rw [hsoft] at h
      cases h
    | some column =>
      rw [hsoft] at h
      cases h
      exact ({ q with trashed := .only } : ModelQuery).scopedWhere_subset
  | _ =>
    cases h
    rw [Statement.reached, Select.reached_eq, Select.reached_eq]
    exact List.Subset.refl _

/-- **Every list of conditions is what was added to it**, wherever it stands: in a statement, in groups of
    any depth, in subqueries and union branches, and behind the filter for deleted rows. Its first test has
    no conjunction, each later one has exactly the conjunction that it was added with, and no group in it
    is empty. This is so list by list for every chain of calls, with the misuses in it, and for the lists
    of every statement that a method of a model makes of its query. -/
theorem StatementChain.lists_joined :
    (∀ chain : StatementChain, List.Forall₂ Conditions.Joins chain.statement.reached chain.additions) ∧
    ∀ (schema : Schema) (steps : List ModelStep) (method : ModelMethod) (now : DateTime) (s : Statement),
      method.statement? now (steps.foldl ModelQuery.step (.ofSchema schema)) = some s →
      ∀ conditions ∈ s.reached,
        ∃ adds ∈ (StatementChain.model schema (steps ++ method.calls schema)).additions,
          conditions.Joins adds := by
  constructor
  · intro chain
    rw [reached_statement, List.forall₂_map_left_iff, List.forall₂_same]
    exact fun adds _ => joins_toConditions adds
  · intro schema steps method now s hs conditions hmem
    have hquery : method.query (steps.foldl ModelQuery.step (.ofSchema schema)) =
        (steps ++ method.calls schema).foldl ModelQuery.step (.ofSchema schema) := by
      rw [List.foldl_append, ModelMethod.query_eq_foldl, ModelQuery.schema_steps]
      rfl
    have hreached : conditions ∈
        (StatementChain.model schema (steps ++ method.calls schema)).statement.reached := by
      rw [statement, ← hquery]
      exact ModelMethod.reached_subset hs hmem
    rw [reached_statement] at hreached
    obtain ⟨adds, hadds, rfl⟩ := List.mem_map.mp hreached
    exact ⟨adds, hadds, joins_toConditions adds⟩

/-- Calls that begin with an empty group, about tasks that were deleted. -/
def ModelStep.behindEmptyGroup : List ModelStep :=
  [.trashed .only, .filter (.group .or []), .filter (.null .or (.name "done") true),
    .filter (.null .or (.name "title") true)]

/-- These tasks are deleted for good behind the filter, whose conjunction with them is an AND; the group
    without tests is nowhere, and the list of the others begins without a conjunction and keeps its OR. -/
theorem StatementChain.lists_joined_behindEmptyGroup :
    ∃ s, ModelMethod.forceDelete.statement? default
        (ModelStep.behindEmptyGroup.foldl ModelQuery.step (.ofSchema Model.tasks.toSchema)) = some s ∧
      s.reached.map (·.map Condition.joiner) = [[none, some .and], [none, some .or]] ∧
      ∀ conditions ∈ s.reached,
        ∃ adds ∈ (StatementChain.model Model.tasks.toSchema (ModelStep.behindEmptyGroup
          ++ ModelMethod.forceDelete.calls Model.tasks.toSchema)).additions, conditions.Joins adds :=
  ⟨_, rfl, rfl, StatementChain.lists_joined.2 Model.tasks.toSchema ModelStep.behindEmptyGroup
    .forceDelete default _ rfl⟩

end FluentSql
