import FluentSql.Proofs.Forgiveness
import Mathlib.Data.List.Induction
/-!
# `FluentSql.Proofs.ConditionLists` — a list of conditions is what its calls added

A call adds a test with a conjunction, or nothing if it is a group in which nothing was added. The list
that calls build says the same with the first conjunction left out. A chain for a whole statement has calls
of other kinds in between, and a call that forgets everything; what counts is what came after the last of
these.

* `Additions.toConditions` — the list of what was added;
* `WhereClause.steps_toConditions`, `Conditions.havingSteps_toConditions` — the lists that calls build;
* `Select.isMadeOf_ofSteps` — the conditions and the union branches of a statement.
-/

namespace FluentSql

/-! ## Lists and what was added to them -/

/-- A group without conditions. -/
def Predicate.isEmptyGroup : Predicate → Bool
  | .group [] => true
  | _ => false

/-- **What is added** to a list of conditions: a test and the conjunction that it comes with. An empty
    group is never added. -/
structure Addition where
  joiner : Conjunction
  predicate : Predicate
  isTest : predicate.isEmptyGroup = false

/-- What was added to a list, in order. -/
abbrev Additions := List Addition

namespace Additions

/-- A test that is added; an empty group adds nothing. -/
def single (joiner : Conjunction) (predicate : Predicate) : Additions :=
  if h : predicate.isEmptyGroup = true then [] else [⟨joiner, predicate, Bool.not_eq_true _ ▸ h⟩]

/-- **The list of what was added**: the first test is joined to nothing, and each later one by its own
    conjunction. -/
def toConditions : Additions → Conditions
  | [] => []
  | first :: later => ⟨none, first.predicate⟩ :: later.map fun add => ⟨some add.joiner, add.predicate⟩

theorem isEmpty_toConditions (adds : Additions) : (toConditions adds).isEmpty = adds.isEmpty := by
  cases adds <;> rfl

theorem toConditions_concat (adds : Additions) (add : Addition) :
    toConditions (adds ++ [add]) =
      toConditions adds ++ [⟨if adds.isEmpty then none else some add.joiner, add.predicate⟩] := by
  cases adds with
  | nil => rfl
  | cons first later => simp [toConditions]

/-- **A test is pushed** on the list exactly if it is added. -/
theorem push_toConditions (adds : Additions) (joiner : Conjunction) (predicate : Predicate) :
    Conditions.push (toConditions adds) joiner predicate =
      toConditions (adds ++ single joiner predicate) := by
  unfold Conditions.push
  split
  · exact congrArg toConditions (List.append_nil adds).symm
  · rename_i hgroup
    have htest : ¬predicate.isEmptyGroup = true := by
      intro hempty
      unfold Predicate.isEmptyGroup at hempty
      split at hempty
      · exact hgroup rfl
      · cases hempty
    rw [single, dif_neg htest, toConditions_concat, isEmpty_toConditions]

end Additions

/-- **A list is what was added to it.** -/
structure Conditions.Joins (conditions : Conditions) (adds : Additions) : Prop where
  /-- It has the tests in their order. -/
  tests : conditions.map Condition.predicate = adds.map Addition.predicate
  /-- The first one is joined to nothing. -/
  first : ∀ c ∈ conditions.head?, c.joiner = none
  /-- Each later one is joined by the conjunction that it came with. -/
  later : conditions.tail.map Condition.joiner = adds.tail.map fun add => some add.joiner
  /-- No group is empty. -/
  groups : ∀ c ∈ conditions, c.predicate.isEmptyGroup = false

theorem Additions.joins_toConditions (adds : Additions) : (toConditions adds).Joins adds := by
  cases adds with
  | nil => exact ⟨rfl, nofun, rfl, nofun⟩
  | cons first later =>
    have htests : (toConditions (first :: later)).map Condition.predicate =
        (first :: later).map Addition.predicate := by
      simp [toConditions]
    refine ⟨htests, ?_, by simp [toConditions], fun c hc => ?_⟩
    · rintro c ⟨⟩
      rfl
    · have hmem : c.predicate ∈ (first :: later).map Addition.predicate :=
        htests ▸ List.mem_map_of_mem hc
      obtain ⟨add, -, hadd⟩ := List.mem_map.mp hmem
      rw [← hadd]
      exact add.isTest

open Additions

/-! ## One chain of calls -/

/-- **What a call adds.** -/
def WhereStep.addition (step : WhereStep) : Additions :=
  match step.pushed? with
  | some (joiner, predicate) => single joiner predicate
  | none => []

/-- The test that a call about HAVING conditions pushes, with how it is joined. -/
def HavingStep.pushed : HavingStep → Conjunction × Predicate
  | .compare joiner column op value => (joiner, .compare column op (.single value))
  | .null column wanted => (.and, nullTest column wanted)
  | .between column low high => (.and, betweenTest column low high true)
  | .among column values => (.and, amongTest column values true)
  | .raw sql => (.and, .raw sql .empty)
  | .group joiner steps => (joiner, .group (Conditions.havingSteps [] steps))

/-- **What a call about HAVING conditions adds.** -/
def HavingStep.addition (step : HavingStep) : Additions := single step.pushed.1 step.pushed.2

theorem WhereClause.step_toConditions {clause : WhereClause} {adds : Additions}
    (h : clause.conditions = toConditions adds) (step : WhereStep) :
    (clause.step step).conditions = toConditions (adds ++ step.addition) := by
  rw [conditions_step, h, WhereStep.addition]
  cases step.pushed? with
  | none => rw [List.append_nil]
  | some test => exact push_toConditions adds test.1 test.2

/-- **Calls about conditions** build the list of what they add. -/
theorem WhereClause.steps_toConditions {clause : WhereClause} (adds : Additions)
    (h : clause.conditions = toConditions adds) (steps : List WhereStep) :
    (clause.steps steps).conditions = toConditions (adds ++ steps.flatMap WhereStep.addition) := by
  induction steps generalizing clause adds with
  | nil => rw [List.flatMap_nil, List.append_nil]; exact h
  | cons step steps ih =>
    rw [WhereClause.steps, ih _ (step_toConditions h step), List.flatMap_cons, List.append_assoc]

/-- A group of nothing in front: the test behind it is still the first one. -/
example : (WhereClause.empty.steps [.group .or [.group .and []], .null .or (.name "a") true,
    .null .or (.name "b") true]).conditions.map Condition.joiner = [none, some .or] := rfl

theorem Conditions.havingStep_toConditions (adds : Additions) (step : HavingStep) :
    Conditions.havingStep (toConditions adds) step = toConditions (adds ++ step.addition) := by
  have hpush : Conditions.havingStep (toConditions adds) step =
      Conditions.push (toConditions adds) step.pushed.1 step.pushed.2 := by
    cases step <;> simp only [Conditions.havingStep, HavingStep.pushed]
  rw [hpush]
  exact push_toConditions adds step.pushed.1 step.pushed.2

theorem Conditions.havingSteps_eq_foldl (conditions : Conditions) (steps : List HavingStep) :
    conditions.havingSteps steps = steps.foldl Conditions.havingStep conditions := by
  induction steps generalizing conditions with
  | nil => rfl
  | cons step steps ih => exact ih (conditions.havingStep step)

/-- **Calls about HAVING conditions** build the list of what they add. -/
theorem Conditions.havingSteps_toConditions (adds : Additions) (steps : List HavingStep) :
    Conditions.havingSteps (toConditions adds) steps =
      toConditions (adds ++ steps.flatMap HavingStep.addition) := by
  induction steps generalizing adds with
  | nil => rw [List.flatMap_nil, List.append_nil]; rfl
  | cons step steps ih =>
    rw [Conditions.havingSteps, havingStep_toConditions, ih, List.flatMap_cons, List.append_assoc]

/-! ## Chains that can be forgotten -/

/-- **What counts of a chain**: what is picked of the calls since everything was forgotten last. -/
def keptOf {ι α : Type} (forgets : ι → Bool) (pick : ι → Option α) : List ι → List α
  | [] => []
  | step :: later =>
    if forgets step || later.any forgets then keptOf forgets pick later
    else (pick step).toList ++ keptOf forgets pick later

theorem keptOf_concat {ι α : Type} (forgets : ι → Bool) (pick : ι → Option α) (steps : List ι)
    (step : ι) :
    keptOf forgets pick (steps ++ [step]) =
      if forgets step then [] else keptOf forgets pick steps ++ (pick step).toList := by
  induction steps with
  | nil => simp [keptOf]
  | cons first steps ih =>
    rw [List.cons_append, keptOf, ih, keptOf, List.any_append]
    cases hstep : forgets step with
    | true => simp [hstep]
    | false =>
      have hany : (steps.any forgets || [step].any forgets) = steps.any forgets := by simp [hstep]
      rw [hany]
      split <;> simp

/-- **A part that calls change or forget** is made by the calls that count. -/
theorem foldl_keptOf {σ ι α β : Type} {step : σ → ι → σ} (part : σ → β) {forgets : ι → Bool}
    {pick : ι → Option α} (change : β → α → β) {initial : β}
    (hstep : ∀ s call, part (step s call) =
      if forgets call then initial else (pick call).elim (part s) (change (part s)))
    {s : σ} (hs : part s = initial) (calls : List ι) :
    part (calls.foldl step s) = (keptOf forgets pick calls).foldl change initial := by
  induction calls using List.reverseRecOn with
  | nil => exact hs
  | append_singleton calls call ih =>
    rw [List.foldl_append, List.foldl_cons, List.foldl_nil, hstep, ih, keptOf_concat]
    split
    · rfl
    · rw [List.foldl_append]
      cases pick call <;> rfl

namespace SelectStep

/-- Whether a call forgets everything. -/
def forgets : SelectStep → Bool
  | .clean => true
  | _ => false

/-- The call about conditions in a call. -/
def filter? : SelectStep → Option WhereStep
  | .filter step => some step
  | _ => none

/-- The call about HAVING conditions in a call. -/
def having? : SelectStep → Option HavingStep
  | .having step => some step
  | _ => none

/-- The union branch in a call. -/
def branch? : SelectStep → Option (Bool × List SelectStep)
  | .union all steps => some (all, steps)
  | _ => none

/-- The branch that a chain makes. -/
def toBranch (branch : Bool × List SelectStep) : UnionBranch := ⟨branch.1, .ofSteps branch.2⟩

/-- The calls about conditions that count. -/
def filters (steps : List SelectStep) : List WhereStep := keptOf forgets filter? steps

/-- The calls about HAVING conditions that count. -/
def havings (steps : List SelectStep) : List HavingStep := keptOf forgets having? steps

/-- The union branches that count. -/
def branches (steps : List SelectStep) : List (Bool × List SelectStep) := keptOf forgets branch? steps

end SelectStep

theorem Select.wheres_step (q : Select) (step : SelectStep) :
    (q.step step).wheres =
      if step.forgets then .empty else step.filter?.elim q.wheres q.wheres.step := by
  cases step <;> rfl

theorem Select.havings_step (q : Select) (step : SelectStep) :
    (q.step step).havings =
      if step.forgets then [] else step.having?.elim q.havings (Conditions.havingStep q.havings) := by
  cases step <;> rfl

theorem Select.unions_step (q : Select) (step : SelectStep) :
    (q.step step).unions =
      if step.forgets then []
      else step.branch?.elim q.unions fun branch => q.unions ++ [SelectStep.toBranch branch] := by
  cases step <;> rfl

/-- **A statement is what counts of its chain.** -/
structure Select.IsMadeOf (q : Select) (steps : List SelectStep) : Prop where
  wheres : q.wheres.conditions = toConditions ((SelectStep.filters steps).flatMap WhereStep.addition)
  havings : q.havings = toConditions ((SelectStep.havings steps).flatMap HavingStep.addition)
  unions : q.unions = (SelectStep.branches steps).map SelectStep.toBranch

theorem Select.isMadeOf_ofSteps (steps : List SelectStep) : (Select.ofSteps steps).IsMadeOf steps := by
  rw [Select.ofSteps, Select.steps_eq_foldl]
  constructor
  · rw [foldl_keptOf Select.wheres WhereClause.step Select.wheres_step rfl steps,
      ← WhereClause.steps_eq_foldl]
    exact WhereClause.steps_toConditions [] rfl _
  · rw [foldl_keptOf Select.havings Conditions.havingStep Select.havings_step rfl steps,
      ← Conditions.havingSteps_eq_foldl]
    exact Conditions.havingSteps_toConditions [] _
  · have hunions := foldl_keptOf Select.unions
      (fun unions branch => unions ++ [SelectStep.toBranch branch]) Select.unions_step (s := .empty) rfl
      steps
    rw [hunions, List.foldl_append_eq_append, List.nil_append]
    exact List.map_eq_flatMap.symm

end FluentSql
