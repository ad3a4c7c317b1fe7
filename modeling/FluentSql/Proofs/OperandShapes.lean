import FluentSql.Model.Query
import FluentSql.Proofs.Comparisons
import FluentSql.Proofs.SoftDelete
/-!
# `FluentSql.Proofs.OperandShapes` — the operands that calls give to operators

Most calls choose the operator and the shape of its operand together. Those that are given an operator,
or the text of one, compare with a single value whatever the operator is. A **loose call** is one of
them with an operator that takes a pair or a list; it is no misuse, and its operator is written in front
of one placeholder.

All other comparisons have operands of the shape that their operators require. A chain without loose
calls therefore reads back as its conditions, and no AND between two of them is taken for the AND of a
range.

* `Conditions.IsChained` — what every call preserves of the conditions, at any depth;
* `StatementChain.isSound` — what a whole chain leads to;
* `StatementChain.comparisons_shaped` — what is written.
-/

namespace FluentSql

open FluentSql.Text Template Reading Parsing

/-! ## Loose calls -/

/-- **A call that compares a column with one value**, by an operator that takes several. -/
structure LooseCall where
  column : Column
  op : Operator
  value : Value
  several : (op.isRange || op.isMembership) = true
  deriving DecidableEq

/-- A comparison with one value as a loose call, if its operator takes several. -/
def LooseCall.ofCompare (column : Column) (op : Operator) (value : Value) : List LooseCall :=
  if h : (op.isRange || op.isMembership) = true then [⟨column, op, value, h⟩] else []

mutual

/-- The loose calls of a call about HAVING conditions, at any depth. -/
def HavingStep.loose : HavingStep → List LooseCall
  | .compare _ column op value => LooseCall.ofCompare column op value
  | .group _ steps => HavingStep.allLoose steps
  | _ => []

/-- The loose calls of calls about HAVING conditions. -/
def HavingStep.allLoose : List HavingStep → List LooseCall
  | [] => []
  | step :: steps => HavingStep.loose step ++ HavingStep.allLoose steps

end

mutual

/-- **The loose calls of a call about conditions**, at any depth. -/
def WhereStep.loose : WhereStep → List LooseCall
  | .compare _ column op value => LooseCall.ofCompare column op value
  | .compareBy column text value =>
    match Operator.ofText? text with
    | some op => LooseCall.ofCompare column op value
    | none => []
  | .subquery steps _ => SelectStep.allLoose steps
  | .group _ steps => WhereStep.allLoose steps
  | _ => []

/-- The loose calls of calls about conditions. -/
def WhereStep.allLoose : List WhereStep → List LooseCall
  | [] => []
  | step :: steps => WhereStep.loose step ++ WhereStep.allLoose steps

/-- The loose calls of a call about a SELECT statement, at any depth. -/
def SelectStep.loose : SelectStep → List LooseCall
  | .filter step => WhereStep.loose step
  | .having step => HavingStep.loose step
  | .union _ steps => SelectStep.allLoose steps
  | _ => []

/-- The loose calls of a chain. -/
def SelectStep.allLoose : List SelectStep → List LooseCall
  | [] => []
  | step :: steps => SelectStep.loose step ++ SelectStep.allLoose steps

end

/-- The loose calls of a call about an UPDATE statement. -/
def UpdateStep.loose : UpdateStep → List LooseCall
  | .filter step => step.loose
  | _ => []

/-- The loose calls of a call about a DELETE statement. -/
def DeleteStep.loose : DeleteStep → List LooseCall
  | .filter step => step.loose
  | _ => []

/-- The loose calls of a call on a query of a model. -/
def ModelStep.loose : ModelStep → List LooseCall
  | .filter step => step.loose
  | .having step => step.loose
  | _ => []

/-- **A comparison fits** if its operator takes its operand, or one of some loose calls made it. -/
def Comparison.Fits (calls : List LooseCall) (c : Comparison) : Prop :=
  c.op.takes c.operand = true ∨
    ∃ call ∈ calls, c.column = call.column ∧ c.op = call.op ∧ c.operand = .single call.value

/-! ## What calls preserve -/

/-- **A sound list**: it was built by pushing, and its comparisons fit. -/
structure Conditions.IsSound (calls : List LooseCall) (conditions : Conditions) : Prop where
  pushed : conditions.IsPushed
  fits : ∀ kind table, ∀ c ∈ Conditions.comparisons kind table conditions, c.Fits calls

/-- **A sound test**, with sound lists in everything that is nested in it. -/
structure Predicate.IsChained (calls : List LooseCall) (predicate : Predicate) : Prop where
  pushed : ∀ inner, predicate = .group inner → Conditions.IsPushed inner
  fits : ∀ kind table, ∀ c ∈ predicate.comparisons kind table, c.Fits calls
  nested : ∀ q ∈ predicate.nested, ∀ l ∈ q.lists, l.conditions.IsSound calls

/-- **A sound list**, with sound lists in everything that is nested in it. -/
structure Conditions.IsChained (calls : List LooseCall) (conditions : Conditions) : Prop where
  sound : conditions.IsSound calls
  nested : ∀ q ∈ Conditions.nested conditions, ∀ l ∈ q.lists, l.conditions.IsSound calls

variable {calls : List LooseCall}

theorem isChained_nil : Conditions.IsChained calls [] where
  sound := ⟨.nil, fun _ _ _ hc => absurd hc List.not_mem_nil⟩
  nested := fun _ hq => absurd hq List.not_mem_nil

/-- Pushing adds one test at the end, or nothing. -/
theorem Conditions.push_eq_or (conditions : Conditions) (joiner : Conjunction)
    (predicate : Predicate) :
    conditions.push joiner predicate = conditions ∨
      ∃ own, conditions.push joiner predicate = conditions ++ [⟨own, predicate⟩] := by
  unfold Conditions.push
  split
  · exact .inl rfl
  · exact .inr ⟨_, rfl⟩

theorem Conditions.nested_append (conditions more : List Condition) :
    Conditions.nested (conditions ++ more) =
      Conditions.nested conditions ++ Conditions.nested more := by
  induction conditions with
  | nil => rfl
  | cons c conditions ih =>
    obtain ⟨joiner, predicate⟩ := c
    rw [List.cons_append, Conditions.nested, ih, Conditions.nested, List.append_assoc]

/-- **A sound test pushed** on a sound list. -/
theorem Conditions.IsChained.push {conditions : Conditions} (h : conditions.IsChained calls)
    {predicate : Predicate} (hp : predicate.IsChained calls) (joiner : Conjunction) :
    (Conditions.push conditions joiner predicate).IsChained calls := by
  have hpushed := h.sound.pushed.push joiner predicate hp.pushed
  -- a group without conditions adds nothing
  rcases Conditions.push_eq_or conditions joiner predicate with heq | ⟨own, heq⟩
  · rw [heq]
    exact h
  · rw [heq] at hpushed ⊢
    refine ⟨⟨hpushed, ?_⟩, ?_⟩
    · intro kind table c hc
      rw [Conditions.comparisons_append] at hc
      rcases List.mem_append.mp hc with hold | hnew
      · exact h.sound.fits kind table c hold
      · rw [Conditions.comparisons, Conditions.comparisons, List.append_nil] at hnew
        exact hp.fits kind table c hnew
    · intro q hq
      rw [Conditions.nested_append] at hq
      rcases List.mem_append.mp hq with hold | hnew
      · exact h.nested q hold
      · rw [Conditions.nested, Conditions.nested, List.append_nil] at hnew
        exact hp.nested q hnew

/-! ### Tests -/

theorem isChained_compare {column : Column} {op : Operator} {operand : Operand}
    (h : op.takes operand = true ∨
      ∃ call ∈ calls, column = call.column ∧ op = call.op ∧ operand = .single call.value) :
    Predicate.IsChained calls (.compare column op operand) where
  pushed := nofun
  fits := by
    intro kind table c hc
    rw [List.mem_singleton.mp hc]
    exact h
  nested := fun _ hq => absurd hq List.not_mem_nil

/-- A comparison with one value is taken, or is a loose call. -/
theorem isChained_single {column : Column} {op : Operator} {value : Value}
    (h : ∀ call ∈ LooseCall.ofCompare column op value, call ∈ calls) :
    Predicate.IsChained calls (.compare column op (.single value)) := by
  refine isChained_compare ?_
  unfold LooseCall.ofCompare at h
  split at h
  · exact .inr ⟨_, h _ List.mem_cons_self, rfl, rfl, rfl⟩
  · rename_i hone
    exact .inl ((Bool.not_eq_true' _).mpr (Bool.not_eq_true _ ▸ hone))

theorem isChained_nullTest (column : Column) (wanted : Bool) :
    (nullTest column wanted).IsChained calls :=
  isChained_compare (.inl (by cases wanted <;> rfl))

theorem isChained_betweenTest (column : Column) (low high : Value) (wanted : Bool) :
    (betweenTest column low high wanted).IsChained calls :=
  isChained_compare (.inl (by cases wanted <;> rfl))

theorem isChained_amongTest (column : Column) (values : List Value) (wanted : Bool) :
    (amongTest column values wanted).IsChained calls :=
  isChained_compare (.inl (by cases wanted <;> rfl))

theorem isChained_raw (sql : String) (params : Params) :
    Predicate.IsChained calls (.raw sql params) where
  pushed := nofun
  fits := fun _ _ _ hc => absurd hc List.not_mem_nil
  nested := fun _ hq => absurd hq List.not_mem_nil

theorem isChained_related (table : String) (column parent : Option String) (wanted : Bool) :
    Predicate.IsChained calls (.related table column parent wanted) where
  pushed := nofun
  fits := fun _ _ _ hc => absurd hc List.not_mem_nil
  nested := fun _ hq => absurd hq List.not_mem_nil

/-- **A group** of sound conditions. -/
theorem Conditions.IsChained.group {conditions : Conditions} (h : conditions.IsChained calls) :
    Predicate.IsChained calls (.group conditions) where
  pushed := by
    rintro _ ⟨⟩
    exact h.sound.pushed
  fits := h.sound.fits
  nested := h.nested

/-! ### Statements -/

/-- **A SELECT statement of sound lists**, whatever its table is. -/
structure Select.IsChained (calls : List LooseCall) (q : Select) : Prop where
  wheres : Conditions.IsChained calls q.wheres.conditions
  havings : Conditions.IsChained calls q.havings
  branches : ∀ b ∈ Select.nestedInBranches q.unions, ∀ l ∈ b.lists, l.conditions.IsSound calls

theorem isChained_empty : Select.empty.IsChained calls where
  wheres := isChained_nil
  havings := isChained_nil
  branches := fun _ hb => absurd hb List.not_mem_nil

/-- The lists of such a statement are sound, and those of what is nested in it. -/
theorem Select.IsChained.lists {q : Select} (h : q.IsChained calls) :
    ∀ b ∈ q :: q.nested, ∀ l ∈ b.lists, l.conditions.IsSound calls := by
  obtain ⟨table, called, columns, distinct, joins, ⟨conditions, inConditions⟩, groups, havings,
    orders, aggregates, unions, limit, offset, inTable⟩ := q
  intro b hb l hl
  rcases List.mem_cons.mp hb with rfl | hnested
  · unfold Select.lists at hl
    split at hl
    · cases hl
    · rcases List.mem_cons.mp hl with rfl | hl
      · exact h.wheres.sound
      · rw [List.mem_singleton.mp hl]
        exact h.havings.sound
  · simp only [Select.nested] at hnested
    split at hnested
    · cases hnested
    · rcases List.mem_append.mp hnested with hwh | hu
      · rcases List.mem_append.mp hwh with hw | hh
        · exact h.wheres.nested b hw l hl
        · exact h.havings.nested b hh l hl
      · exact h.branches b hu l hl

/-- **A subquery** of sound lists. -/
theorem Select.IsChained.subquery {q : Select} (h : q.IsChained calls) (wanted : Bool) :
    Predicate.IsChained calls (.subquery q wanted) where
  pushed := nofun
  fits := fun _ _ _ hc => absurd hc List.not_mem_nil
  nested := h.lists

/-- **A branch** of sound lists. -/
theorem Select.IsChained.union {q query : Select} (h : q.IsChained calls)
    (hquery : query.IsChained calls) (all : Bool) : (q.union all query).IsChained calls where
  wheres := h.wheres
  havings := h.havings
  branches := by
    have happend : ∀ unions : List UnionBranch,
        Select.nestedInBranches (unions ++ [⟨all, query⟩]) =
          Select.nestedInBranches unions ++ query :: query.nested := by
      intro unions
      induction unions with
      | nil =>
        show query :: query.nested ++ [] = query :: query.nested
        exact List.append_nil _
      | cons b unions ih =>
        obtain ⟨own, other⟩ := b
        show other :: other.nested ++ Select.nestedInBranches (unions ++ [⟨all, query⟩]) = _
        rw [ih]
        exact (List.append_assoc _ _ _).symm
    intro b hb
    rw [show (q.union all query).unions = q.unions ++ [⟨all, query⟩] from rfl, happend] at hb
    rcases List.mem_append.mp hb with hold | hnew
    · exact h.branches b hold
    · exact hquery.lists b hnew

/-! ### Calls -/

theorem WhereClause.conditions_pushSubquery (clause : WhereClause) (query : Select)
    (wanted : Bool) :
    (clause.pushSubquery query wanted).conditions =
      Conditions.push clause.conditions .and (.subquery query wanted) := by
  unfold WhereClause.pushSubquery
  cases query.misuse? <;> rfl

mutual

/-- **A call about HAVING conditions** keeps them sound. -/
theorem Conditions.isChained_havingStep {conditions : Conditions}
    (h : conditions.IsChained calls) : ∀ step : HavingStep, (∀ call ∈ step.loose, call ∈ calls) →
      (conditions.havingStep step).IsChained calls
  | .compare joiner _ _ _, hcalls => h.push (isChained_single hcalls) joiner
  | .null column wanted, _ => h.push (isChained_nullTest column wanted) .and
  | .between column low high, _ => h.push (isChained_betweenTest column low high true) .and
  | .among column values, _ => h.push (isChained_amongTest column values true) .and
  | .raw sql, _ => h.push (isChained_raw sql .empty) .and
  | .group joiner steps, hcalls =>
    h.push (Conditions.isChained_havingSteps isChained_nil steps hcalls).group joiner

/-- Calls about HAVING conditions keep them sound. -/
theorem Conditions.isChained_havingSteps {conditions : Conditions}
    (h : conditions.IsChained calls) : ∀ steps : List HavingStep,
      (∀ call ∈ HavingStep.allLoose steps, call ∈ calls) →
        (conditions.havingSteps steps).IsChained calls
  | [], _ => h
  | step :: steps, hcalls => by
    rw [HavingStep.allLoose, List.forall_mem_append] at hcalls
    have hstep := Conditions.isChained_havingStep h step hcalls.1
    exact Conditions.isChained_havingSteps hstep steps hcalls.2

end

mutual

/-- **A call about conditions** keeps them sound, at any depth. -/
theorem WhereClause.isChained_step {clause : WhereClause}
    (h : Conditions.IsChained calls clause.conditions) : ∀ step : WhereStep,
      (∀ call ∈ step.loose, call ∈ calls) → Conditions.IsChained calls (clause.step step).conditions
  | .compare joiner _ _ _ => fun hcalls => h.push (isChained_single hcalls) joiner
  | .compareBy column text value => by
    simp only [WhereStep.loose, WhereClause.step]
    intro hcalls
    cases hop : Operator.ofText? text with
    | none => exact h
    | some op =>
      rw [hop] at hcalls
      exact h.push (isChained_single hcalls) .and
  | .null joiner column wanted => fun _ => h.push (isChained_nullTest column wanted) joiner
  | .between joiner column low high wanted => fun _ =>
    h.push (isChained_betweenTest column low high wanted) joiner
  | .among joiner column values wanted => fun _ =>
    h.push (isChained_amongTest column values wanted) joiner
  | .raw joiner sql bindings => fun _ => h.push (isChained_raw sql (.ofList bindings)) joiner
  | .related joiner table column parent wanted => fun _ =>
    h.push (isChained_related table column parent wanted) joiner
  | .subquery steps wanted => by
    intro hcalls
    have hquery := Select.isChained_steps isChained_empty steps hcalls
    simp only [WhereClause.step]
    rw [WhereClause.conditions_pushSubquery]
    exact h.push (hquery.subquery wanted) .and
  | .group joiner steps => by
    intro hcalls
    have hgroup : Conditions.IsChained calls (WhereClause.steps .empty steps).conditions :=
      WhereClause.isChained_steps isChained_nil steps hcalls
    simp only [WhereClause.step]
    exact h.push hgroup.group joiner

/-- Calls about conditions keep them sound. -/
theorem WhereClause.isChained_steps {clause : WhereClause}
    (h : Conditions.IsChained calls clause.conditions) : ∀ steps : List WhereStep,
      (∀ call ∈ WhereStep.allLoose steps, call ∈ calls) →
        Conditions.IsChained calls (clause.steps steps).conditions
  | [], _ => h
  | step :: steps, hcalls => by
    rw [WhereStep.allLoose, List.forall_mem_append] at hcalls
    have hstep := WhereClause.isChained_step h step hcalls.1
    exact WhereClause.isChained_steps hstep steps hcalls.2

/-- **A call about a SELECT statement** keeps its lists sound. -/
theorem Select.isChained_step {q : Select} (h : q.IsChained calls) : ∀ step : SelectStep,
    (∀ call ∈ step.loose, call ∈ calls) → (q.step step).IsChained calls
  | .filter step, hcalls => ⟨WhereClause.isChained_step h.wheres step hcalls, h.havings, h.branches⟩
  | .having step, hcalls =>
    ⟨h.wheres, Conditions.isChained_havingStep h.havings step hcalls, h.branches⟩
  | .union all steps, hcalls => h.union (Select.isChained_steps isChained_empty steps hcalls) all
  | .clean, _ => isChained_empty
  | .target _, _ => ⟨h.wheres, h.havings, h.branches⟩
  | .targetAs _ _, _ => ⟨h.wheres, h.havings, h.branches⟩
  | .columns _, _ => ⟨h.wheres, h.havings, h.branches⟩
  | .distinct, _ => ⟨h.wheres, h.havings, h.branches⟩
  | .join _, _ => ⟨h.wheres, h.havings, h.branches⟩
  | .group _, _ => ⟨h.wheres, h.havings, h.branches⟩
  | .order _ _, _ => ⟨h.wheres, h.havings, h.branches⟩
  | .aggregate _ _ _, _ => ⟨h.wheres, h.havings, h.branches⟩
  | .limit _, _ => ⟨h.wheres, h.havings, h.branches⟩
  | .offset _, _ => ⟨h.wheres, h.havings, h.branches⟩
  | .page _ _, _ => ⟨h.wheres, h.havings, h.branches⟩

/-- **A chain of calls** keeps the lists of a SELECT statement sound. -/
theorem Select.isChained_steps {q : Select} (h : q.IsChained calls) : ∀ steps : List SelectStep,
    (∀ call ∈ SelectStep.allLoose steps, call ∈ calls) → (q.steps steps).IsChained calls
  | [], _ => h
  | step :: steps, hcalls => by
    rw [SelectStep.allLoose, List.forall_mem_append] at hcalls
    have hstep := Select.isChained_step h step hcalls.1
    exact Select.isChained_steps hstep steps hcalls.2

end

/-! ## Whole chains -/

/-- **A chain of calls** that builds a statement with conditions. -/
inductive StatementChain where
  | select (steps : List SelectStep)
  | update (steps : List UpdateStep)
  | delete (steps : List DeleteStep)
  /-- A query of a model. -/
  | model (schema : Schema) (steps : List ModelStep)

namespace StatementChain

/-- The statement that a chain builds. -/
def statement : StatementChain → Statement
  | .select steps => .select (.ofSteps steps)
  | .update steps => .update (steps.foldl Update.step {})
  | .delete steps => .delete (steps.foldl Delete.step {})
  | .model schema steps => .select (steps.foldl ModelQuery.step (.ofSchema schema)).statement

/-- **The loose calls of a chain**, at any depth of groups, subqueries and branches. -/
def loose : StatementChain → List LooseCall
  | .select steps => SelectStep.allLoose steps
  | .update steps => steps.flatMap UpdateStep.loose
  | .delete steps => steps.flatMap DeleteStep.loose
  | .model _ steps => steps.flatMap ModelStep.loose

end StatementChain

/-- **A run of calls** keeps what each of them keeps. -/
theorem foldl_of_loose {σ τ : Type} {step : σ → τ → σ} {loose : τ → List LooseCall} {P : σ → Prop}
    (hstep : ∀ s t, P s → (∀ call ∈ loose t, call ∈ calls) → P (step s t)) (steps : List τ) :
    ∀ s, P s → (∀ call ∈ steps.flatMap loose, call ∈ calls) → P (steps.foldl step s) := by
  induction steps with
  | nil => exact fun s hs _ => hs
  | cons t steps ih =>
    intro s hs hcalls
    rw [List.flatMap_cons, List.forall_mem_append] at hcalls
    exact ih (step s t) (hstep s t hs hcalls.1) hcalls.2

theorem Update.isChained_step {q : Update} (h : Conditions.IsChained calls q.wheres.conditions)
    (step : UpdateStep) (hcalls : ∀ call ∈ step.loose, call ∈ calls) :
    Conditions.IsChained calls (q.step step).wheres.conditions := by
  cases step with
  | filter step => exact WhereClause.isChained_step h step hcalls
  | clean => exact isChained_nil
  | _ => exact h

theorem Delete.isChained_step {q : Delete} (h : Conditions.IsChained calls q.wheres.conditions)
    (step : DeleteStep) (hcalls : ∀ call ∈ step.loose, call ∈ calls) :
    Conditions.IsChained calls (q.step step).wheres.conditions := by
  cases step with
  | filter step => exact WhereClause.isChained_step h step hcalls
  | clean => exact isChained_nil
  | _ => exact h

namespace ModelQuery

theorem isChained_step {q : ModelQuery} (h : q.select.IsChained calls) (step : ModelStep)
    (hcalls : ∀ call ∈ step.loose, call ∈ calls) : (q.step step).select.IsChained calls := by
  have hselect : ∀ step : SelectStep, (∀ call ∈ step.loose, call ∈ calls) →
      (q.selectStep step).select.IsChained calls := Select.isChained_step h
  cases step with
  | filter step => exact hselect (.filter step) hcalls
  | having step => exact hselect (.having step) hcalls
  | trashed which => exact h
  | related other wanted => exact hselect (.filter (.related _ _ _ _ _)) hcalls
  | join step => exact hselect (.join step) hcalls
  | group column => exact hselect (.group column) hcalls
  | order column direction => exact hselect (.order column direction) hcalls
  | limit n => exact hselect (.limit n) hcalls
  | offset n => exact hselect (.offset n) hcalls

/-- **Every query of a chain** is of sound lists. -/
theorem isChained_steps (schema : Schema) (steps : List ModelStep) :
    (steps.foldl ModelQuery.step (.ofSchema schema)).select.IsChained
      (steps.flatMap ModelStep.loose) := by
  let calls := steps.flatMap ModelStep.loose
  have hstart : (ModelQuery.ofSchema schema).select.IsChained calls :=
    Select.isChained_step isChained_empty (.target schema.table) nofun
  exact foldl_of_loose (P := fun q : ModelQuery => q.select.IsChained calls)
    (fun _ step h => isChained_step h step) steps _ hstart fun _ h => h

/-- The filter for softly deleted rows is a test for NULL. -/
theorem isChained_statement {q : ModelQuery} (h : q.select.IsChained calls) :
    q.statement.IsChained calls := by
  have hscoped : Conditions.IsChained calls q.scopedWhere.conditions := by
    unfold scopedWhere
    cases hfilter : q.trashFilter with
    | none => exact h.wheres
    | some filter =>
      obtain ⟨name, wanted, rfl⟩ := trashFilter_eq hfilter
      have htest : (nullTest (.name name) wanted).IsChained calls := isChained_nullTest _ wanted
      exact (isChained_nil.push htest .and).push h.wheres.group .and
  exact ⟨hscoped, h.havings, h.branches⟩

end ModelQuery

/-- The lists of a statement that ends in its conditions. -/
theorem Conditions.IsChained.lists {conditions : Conditions} (h : conditions.IsChained calls)
    (table : String) :
    ∀ l ∈ (if table.isEmpty then [] else [(⟨.wheres, table, conditions⟩ : ConditionList)])
        ++ (if table.isEmpty then [] else Conditions.nested conditions).flatMap Select.lists,
      l.conditions.IsSound calls := by
  intro l hl
  split at hl
  · cases hl
  · rcases List.mem_append.mp hl with hown | hnested
    · rw [List.mem_singleton.mp hown]
      exact h.sound
    · obtain ⟨q, hq, hmem⟩ := List.mem_flatMap.mp hnested
      exact h.nested q hq l hmem

/-- **Every list of conditions that a chain leads to is sound**, at any depth. -/
theorem StatementChain.isSound (chain : StatementChain) :
    ∀ l ∈ chain.statement.lists, l.conditions.IsSound chain.loose := by
  -- a SELECT statement may hold others, an update and a removal only in their conditions
  have hselect : ∀ {q : Select}, q.IsChained chain.loose →
      ∀ l ∈ (Statement.select q).lists, l.conditions.IsSound chain.loose := by
    intro q hq l hl
    rcases List.mem_append.mp hl with hown | hnested
    · exact hq.lists q List.mem_cons_self l hown
    · obtain ⟨b, hb, hmem⟩ := List.mem_flatMap.mp hnested
      exact hq.lists b (List.mem_cons_of_mem q hb) l hmem
  cases chain with
  | select steps => exact hselect (Select.isChained_steps isChained_empty steps fun _ h => h)
  | update steps =>
    let calls := steps.flatMap UpdateStep.loose
    have hrun := foldl_of_loose (P := fun q : Update => Conditions.IsChained calls q.wheres.conditions)
      (fun _ step h => Update.isChained_step h step) steps {} isChained_nil fun _ h => h
    exact hrun.lists _
  | delete steps =>
    let calls := steps.flatMap DeleteStep.loose
    have hrun := foldl_of_loose (P := fun q : Delete => Conditions.IsChained calls q.wheres.conditions)
      (fun _ step h => Delete.isChained_step h step) steps {} isChained_nil fun _ h => h
    exact hrun.lists _
  | model schema steps =>
    exact hselect (ModelQuery.isChained_statement (ModelQuery.isChained_steps schema steps))

/-! ## What is written -/

mutual

/-- A test whose comparisons are taken compares ranges with pairs, and nothing else. -/
theorem Predicate.fitsRanges_of_takes (kind : ClauseKind) (table : String) :
    ∀ predicate : Predicate,
      (∀ c ∈ predicate.comparisons kind table, c.op.takes c.operand = true) →
        predicate.fitsRanges = true
  | .compare column op operand, h => by
    have htakes := h ⟨kind, table, column, op, operand⟩ (List.mem_singleton_self _)
    exact beq_iff_eq.mpr (Operator.isRange_eq_of_takes htakes)
  | .raw _ _, _ => rfl
  | .related _ _ _ _, _ => rfl
  | .subquery _ _, _ => rfl
  | .group conditions, h => Conditions.fitRanges_of_takes kind table conditions h

/-- The same of conditions. -/
theorem Conditions.fitRanges_of_takes (kind : ClauseKind) (table : String) :
    ∀ conditions : List Condition,
      (∀ c ∈ Conditions.comparisons kind table conditions, c.op.takes c.operand = true) →
        Conditions.fitRanges conditions = true
  | [], _ => rfl
  | ⟨joiner, predicate⟩ :: conditions, h => by
    rw [Conditions.comparisons, List.forall_mem_append] at h
    rw [Conditions.fitRanges, Predicate.fitsRanges_of_takes kind table predicate h.1,
      Conditions.fitRanges_of_takes kind table conditions h.2]
    rfl

end

/-- **A sound list without loose calls** reads back as its conditions. -/
theorem Conditions.IsSound.parse {conditions : Conditions} (h : conditions.IsSound [])
    (hraw : Conditions.areRawFree conditions = true) (st : Style) (kind : ClauseKind)
    (table : String) (ps : Params) :
    Parsing.parse (tokens st.dialect (assemble ps (conditions.template st kind table)).1) =
      some (conditions.entries st kind table ps) := by
  refine Conditions.parse_template st kind table ps h.pushed.areJoined hraw ?_
  refine Conditions.fitRanges_of_takes kind table conditions fun c hc => ?_
  rcases h.fits kind table c hc with htakes | ⟨call, hcall, -⟩
  · exact htakes
  · cases hcall

/-- **The operands that are written.** For every chain of calls, style and comparison, at any depth of
    groups, subqueries and branches: the comparison stands in the finished text, as its column and a
    test. Either the test is one that its operator can have, and then no AND is awaited after it; or a
    loose call made the comparison, and the operator, which takes several values, stands in front of
    one placeholder. Only a range takes in the next AND then. Without loose calls, every list without raw
    SQL reads back as its conditions, each AND and OR between the conditions that it joins. -/
theorem StatementChain.comparisons_shaped (st : Style) (chain : StatementChain) :
    (∀ l ∈ chain.statement.lists, ∀ c ∈ l.comparisons, ∃ test : String,
      c.front st ++ test.toList <:+: (chain.statement.build st).sql.toList ∧
      ((c.IsShaped test ∧ Keeps false (tokens st.dialect test.toList) false) ∨
        ∃ call ∈ chain.loose,
          c.column = call.column ∧ c.op = call.op ∧ c.operand = .single call.value ∧
          (∃ n, test = c.op.sql ++ " " ++ c.name n) ∧
          Keeps false (tokens st.dialect test.toList) c.op.isRange)) ∧
    (chain.loose = [] → ∀ l ∈ chain.statement.lists, Conditions.areRawFree l.conditions = true →
      ∀ ps, Parsing.parse
          (tokens st.dialect (assemble ps (l.conditions.template st l.kind l.table)).1) =
        some (l.conditions.entries st l.kind l.table ps)) := by
  constructor
  · intro l hl c hc
    obtain ⟨numbers, hlength, hinfix⟩ := Statement.comparison_infix_sql st hl hc
    refine ⟨_, hinfix, ?_⟩
    rcases (chain.isSound l hl).fits l.kind l.table c hc with htakes | ⟨call, hcall, hcolumn, hop, hv⟩
    · have hkeeps := c.keeps_test st.dialect hlength (.inl htakes)
      rw [Operator.isRange_eq_of_takes htakes, Bool.and_not_self] at hkeeps
      exact .inl ⟨Comparison.isShaped_test htakes hlength, hkeeps⟩
    · have hkeeps := c.keeps_test st.dialect hlength (.inr ⟨call.value, hv⟩)
      have hpair : c.operand.isPair = false := by
        rw [hv]
        rfl
      rw [hpair, Bool.not_false, Bool.and_true] at hkeeps
      refine .inr ⟨call, hcall, hcolumn, hop, hv, ?_, hkeeps⟩
      rw [hv] at hlength
      obtain ⟨n, rfl⟩ := List.length_eq_one_iff.mp hlength
      refine ⟨n, ?_⟩
      rw [Comparison.test_of_ne (by rw [hv]; exact nofun), hv]
      rfl
  · intro hloose l hl hraw ps
    have hsound := chain.isSound l hl
    rw [hloose] at hsound
    exact hsound.parse hraw st l.kind l.table ps

namespace StatementChain

/-- Users of an age between two values or with none of some keys, who have posts of at least three
    stars by other users. -/
def rangeSteps : List SelectStep :=
  [.target "users",
    .filter (.group .and [.between .and (.name "age") (.int 18) (.int 30) true,
      .among .or (.name "id") [] true]),
    .filter (.subquery [.target "posts",
      .filter (.among .and (.name "user_id") [.int 1, .int 2] false),
      .filter (.compareBy (.name "stars") ">=" (.int 3))] true)]

/-- The chain of these calls. -/
def ranges : StatementChain := .select rangeSteps

/-- The WHERE clause of these users. -/
def rangeList : ConditionList :=
  ⟨.wheres, "users", (Select.ofSteps rangeSteps).wheres.conditions⟩

/-- The comparison of their age. -/
def ageRange : Comparison :=
  ⟨.wheres, "users", .name "age", .between, .pair (.int 18) (.int 30)⟩

/-- Its range has two placeholders, and the clause reads back as its conditions. -/
theorem ranges_shaped :
    ranges.loose = [] ∧ rangeList ∈ ranges.statement.lists ∧ ageRange ∈ rangeList.comparisons ∧
      Conditions.areRawFree rangeList.conditions = true ∧
      (∃ test : String, ageRange.front { dialect := .sqlite } ++ test.toList <:+:
          (ranges.statement.build { dialect := .sqlite }).sql.toList ∧ ageRange.IsShaped test) ∧
      Parsing.parse (tokens .sqlite
          (assemble .empty (rangeList.conditions.template { dialect := .sqlite } .wheres "users")).1) =
        some (rangeList.conditions.entries { dialect := .sqlite } .wheres "users" .empty) := by
  have hloose : ranges.loose = [] := rfl
  have hl : rangeList ∈ ranges.statement.lists := List.mem_cons_self
  have hc : ageRange ∈ rangeList.comparisons := List.mem_cons_self
  have hraw : Conditions.areRawFree rangeList.conditions = true := rfl
  obtain ⟨hwritten, hparse⟩ := comparisons_shaped { dialect := .sqlite } ranges
  refine ⟨hloose, hl, hc, hraw, ?_, hparse hloose rangeList hl hraw .empty⟩
  obtain ⟨test, hinfix, ⟨hshaped, -⟩ | ⟨call, hcall, -⟩⟩ := hwritten rangeList hl ageRange hc
  · exact ⟨test, hinfix, hshaped⟩
  · rw [hloose] at hcall
    cases hcall

/-- Users of an age between one value, and of a name. -/
def loneBound : StatementChain :=
  .select [.target "users", .filter (.compare .and (.name "age") .between (.int 18)),
    .filter (.compare .and (.name "name") .equal (.text "ann"))]

/-- The comparison of their age. -/
def loneAge : Comparison := ⟨.wheres, "users", .name "age", .between, .single (.int 18)⟩

/-- **A loose call is not reported**, and its range takes in the AND before the next condition: the
    text of the two conditions reads as one test, and the range has no test that it can have. -/
theorem loneBound_absorbs :
    loneBound.statement.validate = .ok () ∧
      (loneBound.statement.build { dialect := .sqlite }).sql =
        "SELECT * FROM \x60users\x60 WHERE \x60age\x60 BETWEEN :users_age_0"
          ++ " AND \x60name\x60 = :users_name_1" ∧
      (∃ l ∈ loneBound.statement.lists, l.conditions.length = 2 ∧ loneAge ∈ l.comparisons) ∧
      (∀ test : String, loneAge.IsShaped test →
        ¬loneAge.front { dialect := .sqlite } ++ test.toList <:+:
          (loneBound.statement.build { dialect := .sqlite }).sql.toList) ∧
      Parsing.parse (tokens .sqlite
          "\x60age\x60 BETWEEN :users_age_0 AND \x60name\x60 = :users_name_1".toList) =
        some [⟨none, .leaf [.quoted "age".toList, word "BETWEEN", word ":users_age_0", word "AND",
          .quoted "name".toList, .mark '=', word ":users_name_1"]⟩] := by
  have hsql : (loneBound.statement.build { dialect := .sqlite }).sql =
      "SELECT * FROM \x60users\x60 WHERE \x60age\x60 BETWEEN :users_age_0"
        ++ " AND \x60name\x60 = :users_name_1" := by
    decide +kernel
  refine ⟨rfl, hsql, ⟨_, List.mem_cons_self, rfl, List.mem_cons_self⟩, ?_, rfl⟩
  intro test htest hinfix
  cases htest with
  | range h low high =>
    -- its AND would stand before a colon, and no AND of the text does
    have hand : " AND :".toList <:+:
        (loneBound.statement.build { dialect := .sqlite }).sql.toList := by
      refine List.IsInfix.trans ?_ hinfix
      have hhigh : (loneAge.name high).toList = ':' :: (loneAge.name high).toList.tail := by
        rw [Comparison.name, Params.toList_placeholderName]
        rfl
      rw [String.toList_append, String.toList_append, String.toList_append, hhigh]
      refine ⟨loneAge.front { dialect := .sqlite } ++ (loneAge.op.sql ++ " ").toList
        ++ (loneAge.name low).toList, (loneAge.name high).toList.tail, ?_⟩
      simp
    rw [hsql] at hand
    exact absurd hand (by decide +kernel)
  | membership h => cases h
  | constant h => cases h
  | value h => cases h
  | null h => cases h

end StatementChain

end FluentSql
