import FluentSql.Proofs.Misuses
import FluentSql.Proofs.Writes
/-!
# `FluentSql.Proofs.MisusedChains` — a chain is reported exactly if something in it is misused

`ChainCall.AnyMisused` says that something is misused in a chain, at any depth and without an order:
an operator that does not exist, a join predicate that has no join to belong to, a second table. It
holds exactly if the list of misuses of the chain is not empty (`ChainCall.misuses_ne_nil_iff`).

* `Report.misuses_ne_nil_iff` — the list by its four parts;
* `WhereStep.misuses_ne_nil_iff` — one call, by recursion over what is nested in it;
* `ModelMethod.outcome_run_of_unfit` — a method whose statement is unfit reaches nothing;
* `Statement.misuse_reported_first` — what this makes of every statement and every query of a model.
-/

namespace FluentSql

variable {σ α : Type}

/-! ## Something is misused -/

namespace ChainCall

/-- Whether everything is forgotten. -/
def isClean : ChainCall → Bool
  | .clean => true
  | _ => false

/-- The call about joins. -/
def joinStep? : ChainCall → Option JoinStep
  | .join step => some step
  | _ => none

/-- The calls since everything was forgotten last. -/
def sinceClean (calls : List ChainCall) : List ChainCall := calls.rtakeWhile fun c => !c.isClean

end ChainCall

mutual

/-- **Something is misused** in a call about conditions, at any depth. -/
inductive WhereStep.IsMisused : WhereStep → Prop where
  /-- An operator that does not exist. -/
  | operator {column : Column} {text : String} {value : Value}
      (h : Operator.ofText? text = none) : WhereStep.IsMisused (.compareBy column text value)
  | subquery {steps : List SelectStep} {wanted : Bool}
      (h : ChainCall.AnyMisused (steps.map SelectStep.call)) :
      WhereStep.IsMisused (.subquery steps wanted)
  | group {joiner : Conjunction} {steps : List WhereStep} {step : WhereStep} (hstep : step ∈ steps)
      (h : WhereStep.IsMisused step) : WhereStep.IsMisused (.group joiner steps)

/-- **Something is misused** in a chain, and not forgotten. -/
inductive ChainCall.AnyMisused : List ChainCall → Prop where
  /-- Two tables that differ. -/
  | table {calls : List ChainCall} {first second : String}
      (hfirst : .target first ∈ ChainCall.sinceClean calls)
      (hsecond : .target second ∈ ChainCall.sinceClean calls)
      (hnamed : first.isEmpty = false ∧ second.isEmpty = false) (hne : first ≠ second) :
      ChainCall.AnyMisused calls
  | condition {calls : List ChainCall} {step : WhereStep}
      (hstep : .filter step ∈ ChainCall.sinceClean calls) (h : WhereStep.IsMisused step) :
      ChainCall.AnyMisused calls
  /-- A predicate with no join before it, or after a cross join. -/
  | predicate {calls : List ChainCall} {front back : List JoinStep} {predicate : JoinPredicate}
      (hsplit : (ChainCall.sinceClean calls).filterMap ChainCall.joinStep? =
        front ++ .on predicate :: back)
      (h : Report.lastJoin none front = none ∨
        ∃ table, Report.lastJoin none front = some (.cross, table)) : ChainCall.AnyMisused calls
  | branch {calls : List ChainCall} {steps : List SelectStep}
      (hsteps : .union steps ∈ ChainCall.sinceClean calls)
      (h : ChainCall.AnyMisused (steps.map SelectStep.call)) : ChainCall.AnyMisused calls

end

/-! ## The parts of the list -/

namespace Report

theorem ofTables_ne_nil_iff {tables : List String} :
    ofTables tables ≠ [] ↔ ∃ first ∈ tables, ∃ second ∈ tables, first ≠ second := by
  cases tables with
  | nil => simp [ofTables]
  | cons table others =>
    have hother : ofTables (table :: others) ≠ [] ↔ ∃ other ∈ others, other ≠ table := by
      simp [ofTables, List.filter_eq_nil_iff]
    rw [hother]
    constructor
    · rintro ⟨other, hmem, hne⟩
      exact ⟨table, List.mem_cons_self, other, List.mem_cons_of_mem _ hmem, hne.symm⟩
    · rintro ⟨first, hfirst, second, hsecond, hne⟩
      -- of two tables that differ one is not the first of all
      by_cases htable : first = table
      · refine ⟨second, ?_, fun heq => hne (htable.trans heq.symm)⟩
        exact List.mem_of_ne_of_mem (fun heq => hne (htable.trans heq.symm)) hsecond
      · exact ⟨first, List.mem_of_ne_of_mem htable hfirst, htable⟩

theorem ofPredicate_ne_nil_iff {last : Option (JoinKind × String)} :
    ofPredicate last ≠ [] ↔ last = none ∨ ∃ table, last = some (.cross, table) := by
  cases last with
  | none => simp [ofPredicate]
  | some join =>
    obtain ⟨kind, table⟩ := join
    cases kind <;> simp [ofPredicate]

theorem ofJoins_ne_nil_iff {last : Option (JoinKind × String)} {steps : List JoinStep} :
    ofJoins last steps ≠ [] ↔ ∃ front predicate back, steps = front ++ .on predicate :: back ∧
      ofPredicate (lastJoin last front) ≠ [] := by
  constructor
  · intro hne
    induction steps generalizing last with
    | nil => exact absurd rfl hne
    | cons step steps ih =>
      cases step with
      | join kind table called =>
        obtain ⟨front, predicate, back, rfl, h⟩ := ih hne
        exact ⟨.join kind table called :: front, predicate, back, rfl, h⟩
      | on predicate =>
        by_cases hlast : ofPredicate last = []
        · rw [ofJoins, hlast] at hne
          obtain ⟨front, predicate', back, rfl, h⟩ := ih hne
          exact ⟨.on predicate :: front, predicate', back, rfl, h⟩
        · exact ⟨[], predicate, steps, rfl, hlast⟩
  · rintro ⟨front, predicate, back, rfl, h⟩ hnil
    rw [ofJoins_append, ofJoins] at hnil
    exact h (List.append_eq_nil_iff.mp (List.append_eq_nil_iff.mp hnil).2).1

/-- **The list of misuses** by its four parts. -/
theorem misuses_ne_nil_iff {reports : List Report} :
    misuses reports ≠ [] ↔
      (∃ first ∈ (sinceClean reports).filterMap table?,
        ∃ second ∈ (sinceClean reports).filterMap table?, first ≠ second) ∨
      (∃ r ∈ sinceClean reports, r.inConditions ≠ []) ∨
      (∃ front predicate back,
        (sinceClean reports).filterMap joinStep? = front ++ .on predicate :: back ∧
          ofPredicate (lastJoin none front) ≠ []) ∨
      ∃ r ∈ sinceClean reports, r.inBranch ≠ [] := by
  rw [← ofTables_ne_nil_iff, ← ofJoins_ne_nil_iff, misuses]
  simp only [ne_eq, List.append_eq_nil_iff, List.flatMap_eq_nil_iff, not_and_or, not_forall,
    or_assoc, exists_prop]

end Report

/-! ## Calls and their reports -/

namespace ChainCall

theorem sinceClean_report (calls : List ChainCall) :
    Report.sinceClean (calls.map report) = (sinceClean calls).map report := by
  have hclean : ∀ call : ChainCall, call.report.isClean = call.isClean := by
    intro call
    cases call <;> rfl
  rw [Report.sinceClean, sinceClean, List.rtakeWhile, List.rtakeWhile, ← List.map_reverse,
    List.takeWhile_map, ← List.map_reverse]
  simp only [Function.comp_def, hclean]

theorem joinStep?_report (calls : List ChainCall) :
    (calls.map report).filterMap Report.joinStep? = calls.filterMap joinStep? := by
  rw [List.filterMap_map]
  congr 1
  funext call
  cases call <;> rfl

theorem mem_tables_iff {calls : List ChainCall} {table : String} :
    table ∈ (calls.map report).filterMap Report.table? ↔
      .target table ∈ calls ∧ table.isEmpty = false := by
  rw [List.filterMap_map, List.mem_filterMap]
  constructor
  · rintro ⟨call, hcall, htable⟩
    cases call with
    | target other =>
      simp only [Function.comp_apply, report, Report.table?] at htable
      split at htable
      · cases htable
      · cases htable
        exact ⟨hcall, Bool.eq_false_iff.mpr ‹_›⟩
    | _ => cases htable
  · rintro ⟨hcall, hnamed⟩
    refine ⟨.target table, hcall, ?_⟩
    simp [report, Report.table?, hnamed]

/-- **What is nested in a call** is reported exactly if something in it is misused. -/
def IsExact : ChainCall → Prop
  | .filter step => step.misuses ≠ [] ↔ step.IsMisused
  | .union steps =>
    Report.misuses (SelectStep.reports steps) ≠ [] ↔ AnyMisused (steps.map SelectStep.call)
  | _ => True

/-- **A chain is reported** exactly if something in it is misused, if this is so of what is nested in
    its calls. -/
theorem misuses_ne_nil_of_isExact {calls : List ChainCall} (h : ∀ call ∈ calls, call.IsExact) :
    misuses calls ≠ [] ↔ AnyMisused calls := by
  have hlive : ∀ call ∈ sinceClean calls, call.IsExact := by
    intro call hcall
    exact h call ((List.rtakeWhile_suffix _ calls).subset hcall)
  rw [misuses, Report.misuses_ne_nil_iff, sinceClean_report, joinStep?_report]
  constructor
  · rintro (⟨first, hfirst, second, hsecond, hne⟩ | ⟨r, hr, hmisuses⟩ |
      ⟨front, predicate, back, hsplit, hpredicate⟩ | ⟨r, hr, hmisuses⟩)
    · obtain ⟨hfirst, hfirstNamed⟩ := mem_tables_iff.mp hfirst
      obtain ⟨hsecond, hsecondNamed⟩ := mem_tables_iff.mp hsecond
      exact .table hfirst hsecond ⟨hfirstNamed, hsecondNamed⟩ hne
    · obtain ⟨call, hcall, rfl⟩ := List.mem_map.mp hr
      cases call with
      | filter step => exact .condition hcall ((hlive _ hcall).mp hmisuses)
      | _ => exact absurd rfl hmisuses
    · exact .predicate hsplit (Report.ofPredicate_ne_nil_iff.mp hpredicate)
    · obtain ⟨call, hcall, rfl⟩ := List.mem_map.mp hr
      cases call with
      | union steps => exact .branch hcall ((hlive _ hcall).mp hmisuses)
      | _ => exact absurd rfl hmisuses
  · intro hmisused
    cases hmisused with
    | table hfirst hsecond hnamed hne =>
      exact .inl ⟨_, mem_tables_iff.mpr ⟨hfirst, hnamed.1⟩, _,
        mem_tables_iff.mpr ⟨hsecond, hnamed.2⟩, hne⟩
    | condition hstep hmisused =>
      exact .inr (.inl ⟨_, List.mem_map_of_mem hstep, (hlive _ hstep).mpr hmisused⟩)
    | predicate hsplit hlast =>
      exact .inr (.inr (.inl ⟨_, _, _, hsplit, Report.ofPredicate_ne_nil_iff.mpr hlast⟩))
    | branch hsteps hmisused =>
      exact .inr (.inr (.inr ⟨_, List.mem_map_of_mem hsteps, (hlive _ hsteps).mpr hmisused⟩))

end ChainCall

mutual

/-- **A call about conditions is reported** exactly if something in it is misused. -/
theorem WhereStep.misuses_ne_nil_iff : ∀ step : WhereStep, step.misuses ≠ [] ↔ step.IsMisused
  | .compare _ _ _ _ => ⟨fun h => absurd rfl h, fun h => by cases h⟩
  | .compareBy column text value => by
    simp only [WhereStep.misuses]
    constructor
    · intro hne
      cases htext : Operator.ofText? text with
      | none => exact .operator htext
      | some op =>
        rw [htext] at hne
        exact absurd rfl hne
    · rintro ⟨htext⟩
      rw [htext]
      exact List.cons_ne_nil _ _
  | .null _ _ _ => ⟨fun h => absurd rfl h, fun h => by cases h⟩
  | .between _ _ _ _ _ => ⟨fun h => absurd rfl h, fun h => by cases h⟩
  | .among _ _ _ _ => ⟨fun h => absurd rfl h, fun h => by cases h⟩
  | .raw _ _ _ => ⟨fun h => absurd rfl h, fun h => by cases h⟩
  | .related _ _ _ _ _ => ⟨fun h => absurd rfl h, fun h => by cases h⟩
  | .subquery steps wanted => by
    have hsteps := ChainCall.misuses_ne_nil_of_isExact (SelectStep.isExact_calls steps)
    rw [ChainCall.misuses, ← SelectStep.reports_eq_map] at hsteps
    simp only [WhereStep.misuses]
    constructor
    · intro hne
      exact .subquery (hsteps.mp hne)
    · intro hmisused
      cases hmisused with
      | subquery h => exact hsteps.mpr h
  | .group joiner steps => by
    have hsteps := WhereStep.allMisuses_ne_nil_iff steps
    simp only [WhereStep.misuses]
    constructor
    · intro hne
      obtain ⟨step, hstep, h⟩ := hsteps.mp hne
      exact .group hstep h
    · intro hmisused
      cases hmisused with
      | group hstep h => exact hsteps.mpr ⟨_, hstep, h⟩

/-- Calls about conditions are reported exactly if something in one of them is misused. -/
theorem WhereStep.allMisuses_ne_nil_iff : ∀ steps : List WhereStep,
    WhereStep.allMisuses steps ≠ [] ↔ ∃ step ∈ steps, step.IsMisused
  | [] => by simp [WhereStep.allMisuses]
  | step :: steps => by
    have hstep := WhereStep.misuses_ne_nil_iff step
    have hsteps := WhereStep.allMisuses_ne_nil_iff steps
    rw [WhereStep.allMisuses]
    simp only [ne_eq, List.append_eq_nil_iff, not_and_or] at hstep hsteps ⊢
    rw [hstep, hsteps]
    simp

/-- What is nested in a call about a SELECT statement is reported exactly if it is misused. -/
theorem SelectStep.isExact_call : ∀ step : SelectStep, step.call.IsExact
  | .target _ => trivial
  | .targetAs _ _ => trivial
  | .columns _ => trivial
  | .distinct => trivial
  | .filter step => WhereStep.misuses_ne_nil_iff step
  | .having _ => trivial
  | .join _ => trivial
  | .group _ => trivial
  | .order _ _ => trivial
  | .aggregate _ _ _ => trivial
  | .limit _ => trivial
  | .offset _ => trivial
  | .page _ _ => trivial
  | .union all steps => by
    have hsteps := ChainCall.misuses_ne_nil_of_isExact (SelectStep.isExact_calls steps)
    rw [ChainCall.misuses, ← SelectStep.reports_eq_map] at hsteps
    exact hsteps
  | .clean => trivial

/-- The same of calls one after the other. -/
theorem SelectStep.isExact_calls : ∀ steps : List SelectStep,
    ∀ call ∈ steps.map SelectStep.call, call.IsExact
  | [] => fun call hcall => absurd hcall List.not_mem_nil
  | step :: steps => by
    have hstep := SelectStep.isExact_call step
    have hsteps := SelectStep.isExact_calls steps
    intro call hcall
    rcases List.mem_cons.mp hcall with rfl | hrest
    · exact hstep
    · exact hsteps call hrest

end

/-- **A chain of calls is reported** exactly if something in it is misused. -/
theorem ChainCall.misuses_ne_nil_iff {calls : List ChainCall} :
    ChainCall.misuses calls ≠ [] ↔ ChainCall.AnyMisused calls := by
  refine ChainCall.misuses_ne_nil_of_isExact fun call _ => ?_
  cases call with
  | filter step => exact WhereStep.misuses_ne_nil_iff step
  | union steps => exact SelectStep.isExact_call (.union false steps)
  | _ => trivial

/-! ## Running what is misused -/

/-- What is misused is unfit to be run. -/
theorem Statement.check_of_misuse? {s : Statement} {misuse : Misuse} (h : s.misuse? = some misuse)
    (st : Style) : s.check st = .error (.misuse misuse) := by
  unfold check validate
  rw [h]
  rfl

namespace ModelMethod

/-- **A method whose statement is unfit** to be run ends in its error before the executor is
    reached. -/
theorem outcome_run_of_unfit {c : Connection σ} (m : Model α) {q : ModelQuery}
    {method : ModelMethod} {session : Session σ} {s : Statement} {error : Error}
    (hs : method.statement? session.now q = some s) (hcheck : s.check c.style = .error error) :
    (method.run m c q).outcome session = (.error error, session) := by
  have hread : ∀ {β : Type} (call : Executor σ → String → List Bind → Call σ β),
      (c.perform s call).outcome session = (.error error, session) := by
    intro β call
    exact Connection.outcome_perform_of_error hcheck call session
  -- a read is peeled off down to its one statement; writes look at the time of day first
  cases method with
  | get =>
    cases hs
    exact Run.outcome_bind_of_error (Run.outcome_bind_of_error (hread Executor.fetchAll))
  | first | last | find =>
    cases hs
    exact Run.outcome_bind_of_error (Run.outcome_bind_of_error (hread Executor.fetchOne))
  | isInhabited =>
    cases hs
    exact Run.outcome_bind_of_error (Run.outcome_bind_of_error (hread Executor.fetchOne))
  | count | aggregate =>
    cases hs
    exact Run.outcome_bind_of_error
      (Run.outcome_bind_of_error (Run.outcome_bind_of_error (hread Executor.fetchOne)))
  | update | delete | forceDelete | restore => exact outcome_run_of_error m rfl hs hcheck

end ModelMethod

/-! ## Every statement, every query -/

/-- **No misuse is lost and none is invented.** Of every chain of calls that builds a SELECT, UPDATE or
    DELETE statement, the first misuse is reported, in the order: tables, conditions with what is nested
    in them, joins, branches; an UPDATE statement is asked for its values only if there is none. A
    method of a query of a model has the first misuse of the query's chain, and with one it reaches
    neither the log nor the executor. A chain has a misuse exactly if something in it is misused, at
    any depth, and not forgotten. -/
theorem Statement.misuse_reported_first :
    (∀ steps : List SelectStep,
      (Select.ofSteps steps).misuse? = (ChainCall.misuses (steps.map SelectStep.call)).head?) ∧
    (∀ steps : List UpdateStep,
      (steps.foldl Update.step {}).misuse? =
        (ChainCall.misuses (steps.map UpdateStep.call)).head?.or
          (steps.foldl Update.step {}).payloadMisuse?) ∧
    (∀ steps : List DeleteStep,
      (steps.foldl Delete.step {}).misuse? =
        (ChainCall.misuses (steps.map DeleteStep.call)).head?) ∧
    (∀ (σ α : Type) (m : Model α) (c : Connection σ) (schema : Schema) (steps : List ModelStep)
      (method : ModelMethod) (session : Session σ) (s : Statement),
      method.statement? session.now (steps.foldl ModelQuery.step (.ofSchema schema)) = some s →
        s.misuse? = (ChainCall.misuses (ModelQuery.calls schema steps)).head?.or s.payloadMisuse? ∧
        ∀ misuse, (ChainCall.misuses (ModelQuery.calls schema steps)).head? = some misuse →
          (method.run m c (steps.foldl ModelQuery.step (.ofSchema schema))).outcome session =
            (.error (.misuse misuse), session)) ∧
    (∀ calls : List ChainCall, ChainCall.misuses calls ≠ [] ↔ ChainCall.AnyMisused calls) ∧
    ∀ s : Statement, s.validate =
      match s.misuse? with
      | some misuse => .error (.misuse misuse)
      | none => .ok () := by
  refine ⟨Select.misuse?_ofSteps, Update.misuse?_foldl, Delete.misuse?_foldl, ?_,
    fun calls => ChainCall.misuses_ne_nil_iff, fun s => rfl⟩
  intro σ α m c schema steps method session s hs
  obtain ⟨htable, hbranches⟩ := ModelQuery.untouched_foldl schema steps
  have hmisuse : s.misuse? =
      (ChainCall.misuses (ModelQuery.calls schema steps)).head?.or s.payloadMisuse? := by
    rw [← ModelQuery.first_kept_foldl]
    exact ModelMethod.misuse?_statement htable hbranches hs
  refine ⟨hmisuse, fun misuse hfirst => ?_⟩
  rw [hfirst, Option.some_or] at hmisuse
  exact ModelMethod.outcome_run_of_unfit m hs (Statement.check_of_misuse? hmisuse c.style)

/-- A chain on users with an unknown operator in a subquery of a group, and a join predicate without a
    join before it. -/
def ModelQuery.nestedMisuse : List ModelStep :=
  [.join (.on ⟨.name "users.id", .equal, .name "posts.user_id"⟩),
    .filter (.group .and [.compare .and (.name "age") .greater (.int 18),
      .subquery [.target "posts", .filter (.compareBy (.name "stars") "=>" (.int 5))] true]),
    .limit 3]

/-- Counting them reports the operator, which is asked about before the join, and reaches nothing. -/
theorem ModelQuery.nestedMisuse_reported :
    (ChainCall.misuses (ModelQuery.calls Model.users.toSchema nestedMisuse)).head? =
        some (.unknownOperator "=>" (Operator.suggestion? "=>")) ∧
      (ModelMethod.count.run Model.users Connection.scripted
        (nestedMisuse.foldl ModelQuery.step (.ofSchema Model.users.toSchema))).outcome
          Session.scripted =
        (.error (.misuse (.unknownOperator "=>" (Operator.suggestion? "=>"))), Session.scripted) := by
  have hfirst : (ChainCall.misuses (ModelQuery.calls Model.users.toSchema nestedMisuse)).head? =
      some (.unknownOperator "=>" (Operator.suggestion? "=>")) := rfl
  obtain ⟨-, -, -, hmodel, -, -⟩ := Statement.misuse_reported_first
  obtain ⟨-, hrun⟩ := hmodel _ _ Model.users Connection.scripted Model.users.toSchema nestedMisuse
    .count Session.scripted _ rfl
  exact ⟨hfirst, hrun _ hfirst⟩

end FluentSql
