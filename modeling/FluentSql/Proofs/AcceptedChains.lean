import FluentSql.Proofs.RejectedCalls
/-!
# `FluentSql.Proofs.AcceptedChains` — a misused chain compiles to the chain that was meant

What is rejected can be left out of a chain, at any depth: calls that are rejected themselves, and those
in the groups, subqueries and union branches of the others. Only the alias of a second table stays. The
chain that is left has no misuse and compiles to the same text and parameters.

* `SelectStep.acceptedAll` — what is left of a chain about a SELECT statement;
* `Select.forgiven_acceptedAll` — it builds the same, apart from what is kept of misuse;
* `Builder.compiles_as_accepted` — what this makes of every chain.
-/

namespace FluentSql

/-! ## Leaving out what is rejected -/

/-- Whether a call is rejected. -/
def Kept.rejects? (s : Kept) : ChainCall → Bool
  | .target table => !s.table.isEmpty && !table.isEmpty && s.table != table
  | .filter (.compareBy _ text _) => (Operator.ofText? text).isNone
  | .join (.on _) => s.joins.joins.getLast?.all fun last => last.kind == .cross
  | _ => false

theorem Kept.rejects?_iff {s : Kept} {call : ChainCall} :
    s.rejects? call = true ↔ ∃ misuse, s.Rejects call misuse := by
  constructor
  · intro h
    cases call with
    | target table =>
      simp only [rejects?, Bool.and_eq_true, Bool.not_eq_true', bne_iff_ne] at h
      exact ⟨_, .table h.1.1 h.1.2 h.2⟩
    | filter step =>
      cases step with
      | compareBy column text value => exact ⟨_, .operator (Option.isNone_iff_eq_none.mp h)⟩
      | _ => cases h
    | join step =>
      cases step with
      | join kind table called => cases h
      | on predicate =>
        simp only [rejects?] at h
        cases hlast : s.joins.joins.getLast? with
        | none => exact ⟨_, .unjoined (List.getLast?_eq_none_iff.mp hlast)⟩
        | some last =>
          rw [hlast] at h
          exact ⟨_, .crossJoin hlast (beq_iff_eq.mp h)⟩
    | union steps => cases h
    | clean => cases h
    | other => cases h
  · rintro ⟨misuse, h⟩
    cases h with
    | table hfirst hnamed hne => simp [rejects?, hfirst, hnamed, hne]
    | operator hop => simp [rejects?, hop]
    | unjoined h => simp [rejects?, h]
    | crossJoin hlast hcross => simp [rejects?, hlast, hcross]

mutual

/-- **What is left of a call** about conditions. -/
def WhereStep.accepted : WhereStep → List WhereStep
  | .compareBy column text value =>
    if (Operator.ofText? text).isNone then [] else [.compareBy column text value]
  | .subquery steps wanted => [.subquery (SelectStep.acceptedAll {} steps) wanted]
  | .group joiner steps => [.group joiner (WhereStep.acceptedAll steps)]
  | step => [step]

/-- What is left of calls about conditions. -/
def WhereStep.acceptedAll : List WhereStep → List WhereStep
  | [] => []
  | step :: steps => WhereStep.accepted step ++ WhereStep.acceptedAll steps

/-- **What is left of a call** about a SELECT statement, of which this much is kept. -/
def SelectStep.accepted (s : Kept) : SelectStep → List SelectStep
  | .target table => if s.rejects? (.target table) then [] else [.target table]
  | .targetAs table called =>
    if s.rejects? (.target table) then [.targetAs "" called] else [.targetAs table called]
  | .filter step => (WhereStep.accepted step).map .filter
  | .join step => if s.rejects? (.join step) then [] else [.join step]
  | .union all steps => [.union all (SelectStep.acceptedAll {} steps)]
  | step => [step]

/-- What is left of calls about a SELECT statement. -/
def SelectStep.acceptedAll (s : Kept) : List SelectStep → List SelectStep
  | [] => []
  | step :: steps =>
    SelectStep.accepted s step ++ SelectStep.acceptedAll (s.take (SelectStep.report step)) steps

end

/-! ## The same is built -/

theorem WhereClause.steps_append (clause : WhereClause) (front back : List WhereStep) :
    clause.steps (front ++ back) = (clause.steps front).steps back := by
  simp only [WhereClause.steps_eq_foldl, List.foldl_append]

theorem Select.steps_append (q : Select) (front back : List SelectStep) :
    q.steps (front ++ back) = (q.steps front).steps back := by
  simp only [Select.steps_eq_foldl, List.foldl_append]

theorem WhereClause.forgiven_steps_congr {clause clause' : WhereClause}
    (h : clause.forgiven = clause'.forgiven) (steps : List WhereStep) :
    (clause.steps steps).forgiven = (clause'.steps steps).forgiven := by
  rw [steps_eq_foldl, steps_eq_foldl]
  exact Builder.forgiven_run_congr (b := .conditions "") h steps

theorem Select.forgiven_steps_congr {q q' : Select} (h : q.forgiven = q'.forgiven)
    (steps : List SelectStep) : (q.steps steps).forgiven = (q'.steps steps).forgiven := by
  rw [steps_eq_foldl, steps_eq_foldl]
  exact Builder.forgiven_run_congr (b := .select) h steps

/-- Nothing is kept of nothing. -/
theorem Select.kept_empty : Select.empty.kept = {} := rfl

theorem Select.steps_map_filter (q : Select) (steps : List WhereStep) :
    q.steps (steps.map .filter) = { q with wheres := q.wheres.steps steps } := by
  induction steps generalizing q with
  | nil =>
    cases q
    simp only [List.map_nil, Select.steps, WhereClause.steps]
  | cons step steps ih =>
    simp only [List.map_cons, Select.steps, Select.step, WhereClause.steps]
    exact ih _

/-- A call that is made unless it is rejected. -/
theorem Select.forgiven_ite (q : Select) (step : SelectStep) {left : List SelectStep}
    (hleft : q.steps left = q.leftover step) :
    (q.steps (if q.kept.rejects? step.call then left else [step])).forgiven =
      (q.step step).forgiven := by
  split
  · rename_i h
    obtain ⟨misuse, hrejects⟩ := Kept.rejects?_iff.mp h
    rw [hleft, forgiven_step_of_rejects hrejects]
  · rfl

/-- Two calls that push the same test, apart from what is kept of misuse. -/
theorem WhereClause.forgiven_step_of_pushed (clause : WhereClause) {step step' : WhereStep}
    {joiner : Conjunction} {predicate predicate' : Predicate}
    (h : step.pushed? = some (joiner, predicate)) (h' : step'.pushed? = some (joiner, predicate'))
    (hsame : predicate.forgiven = predicate'.forgiven) :
    (clause.step step).forgiven = (clause.step step').forgiven := by
  unfold forgiven
  rw [conditions_step, conditions_step, h, h']
  simp only [Conditions.forgiven_push, hsame]

mutual

/-- **A call about conditions** and what is left of it. -/
theorem WhereClause.forgiven_accepted (clause : WhereClause) : ∀ step : WhereStep,
    (clause.steps step.accepted).forgiven = (clause.step step).forgiven
  | .compareBy column text value => by
    simp only [WhereStep.accepted]
    cases hop : Operator.ofText? text with
    | none =>
      simp only [Option.isNone_none, if_true, WhereClause.steps]
      exact (WhereClause.forgiven_step_of_rejects (s := {}) (.operator hop) clause).symm
    | some op =>
      simp only [Option.isNone_some, Bool.false_eq_true, if_false, WhereClause.steps]
  | .subquery steps wanted => by
    have hquery := Select.forgiven_acceptedAll .empty steps
    simp only [WhereStep.accepted, WhereClause.steps]
    refine WhereClause.forgiven_step_of_pushed clause rfl rfl ?_
    simp only [Predicate.forgiven, Select.ofSteps, ← Select.kept_empty, hquery]
  | .group joiner steps => by
    have hgroup := congrArg WhereClause.conditions (WhereClause.forgiven_acceptedAll .empty steps)
    simp only [WhereClause.forgiven] at hgroup
    simp only [WhereStep.accepted, WhereClause.steps]
    refine WhereClause.forgiven_step_of_pushed clause rfl rfl ?_
    simp only [Predicate.forgiven, hgroup]
  | .compare joiner column op value => rfl
  | .null joiner column wanted => rfl
  | .between joiner column low high wanted => rfl
  | .among joiner column values wanted => rfl
  | .raw joiner sql bindings => rfl
  | .related joiner table column parent wanted => rfl

theorem WhereClause.forgiven_acceptedAll (clause : WhereClause) : ∀ steps : List WhereStep,
    (clause.steps (WhereStep.acceptedAll steps)).forgiven = (clause.steps steps).forgiven
  | [] => rfl
  | step :: steps => by
    rw [WhereStep.acceptedAll, WhereClause.steps_append, WhereClause.steps,
      ← WhereClause.forgiven_acceptedAll (clause.step step) steps]
    exact WhereClause.forgiven_steps_congr (WhereClause.forgiven_accepted clause step) _

/-- **A call about a SELECT statement** and what is left of it. -/
theorem Select.forgiven_accepted (q : Select) : ∀ step : SelectStep,
    (q.steps (step.accepted q.kept)).forgiven = (q.step step).forgiven
  | .target table => Select.forgiven_ite q (.target table) rfl
  | .targetAs table called => Select.forgiven_ite q (.targetAs table called) rfl
  | .filter step => by
    have hwheres := WhereClause.forgiven_accepted q.wheres step
    simp only [SelectStep.accepted, Select.step]
    rw [Select.steps_map_filter, Select.forgiven_eq, Select.forgiven_eq, hwheres]
  | .join step => Select.forgiven_ite q (.join step) rfl
  | .union all steps => by
    have hbranch := Select.forgiven_acceptedAll .empty steps
    simp only [SelectStep.accepted, Select.steps, Select.step]
    rw [Select.forgiven_eq, Select.forgiven_eq]
    simp only [Select.union, Select.forgivenBranches_append, Select.forgivenBranches,
      ← Select.kept_empty, hbranch]
  | .columns columns => rfl
  | .distinct => rfl
  | .having step => rfl
  | .group column => rfl
  | .order column direction => rfl
  | .aggregate fn column called => rfl
  | .limit n => rfl
  | .offset n => rfl
  | .page page perPage => rfl
  | .clean => rfl

/-- **A chain about a SELECT statement** and what is left of it. -/
theorem Select.forgiven_acceptedAll (q : Select) : ∀ steps : List SelectStep,
    (q.steps (SelectStep.acceptedAll q.kept steps)).forgiven = (q.steps steps).forgiven
  | [] => rfl
  | step :: steps => by
    rw [SelectStep.acceptedAll, Select.steps_append, Select.steps, ← Select.kept_step,
      ← Select.forgiven_acceptedAll (q.step step) steps]
    exact Select.forgiven_steps_congr (Select.forgiven_accepted q step) _

end

/-! ## Nothing is reported -/

/-- Whether a call holds no others. -/
def ChainCall.isPlain : ChainCall → Bool
  | .filter _ => false
  | .union _ => false
  | _ => true

namespace Kept

/-- What is kept without misuse. -/
def forgiven (s : Kept) : Kept := { table := s.table, joins := s.joins.forgiven }

theorem first_forgiven (s : Kept) : s.forgiven.first = none := rfl

theorem forgiven_of_first {s : Kept} (h : s.first = none) : s.forgiven = s := by
  obtain ⟨table, inTable, inConditions, ⟨joins, inJoins⟩, inBranches⟩ := s
  simp only [first, Option.or_eq_none_iff] at h
  obtain ⟨rfl, rfl, rfl, rfl⟩ := h
  rfl

/-- A rejected call does not change what is kept but for misuse. -/
theorem forgiven_take_of_rejects? {s : Kept} {call : ChainCall} (hrejects : s.rejects? call = true) :
    (s.take call.report).forgiven = s.forgiven := by
  obtain ⟨misuse, h⟩ := rejects?_iff.mp hrejects
  cases call with
  | target table =>
    simp only [ChainCall.report, Kept.take, forgiven, h.retarget_eq]
  | filter step => rfl
  | join step =>
    simp only [ChainCall.report, Kept.take, forgiven,
      JoinClause.forgiven_step_of_rejects h s.joins rfl]
  | _ => cases h

/-- A table that is not rejected leaves no misuse. -/
theorem take_target_forgiven {s : Kept} {table : String} (h : ¬ s.rejects? (.target table) = true) :
    s.forgiven.take (.target table) = (s.take (.target table)).forgiven := by
  have hmisuse : (retarget s.table none table).2 = none := by
    unfold retarget
    split
    · rfl
    · rename_i hnamed
      split
      · rfl
      · rename_i hother
        simp only [rejects?, Bool.and_eq_true, Bool.not_eq_true', bne_iff_ne] at h
        simp only [Bool.or_eq_true, beq_iff_eq, not_or] at hother
        exact absurd ⟨⟨Bool.eq_false_iff.mpr hother.1, Bool.eq_false_iff.mpr hnamed⟩, hother.2⟩ h
  simp only [Kept.take, forgiven, hmisuse, retarget_fst s.table s.inTable none]

/-- Nor does a join, or a predicate for it. -/
theorem take_join_forgiven {s : Kept} {step : JoinStep} (h : ¬ s.rejects? (.join step) = true) :
    s.forgiven.take (.join step) = (s.take (.join step)).forgiven := by
  cases step with
  | join kind table called => rfl
  | on predicate =>
    simp only [rejects?] at h
    simp only [Kept.take, forgiven, JoinClause.step, JoinClause.on, JoinClause.forgiven]
    cases hlast : s.joins.joins.getLast? with
    | none => exact absurd (by rw [hlast]; rfl) h
    | some last =>
      have hcross : last.kind ≠ .cross := by
        intro hcross
        apply h
        rw [hlast]
        exact beq_iff_eq.mpr hcross
      simp only [if_neg hcross]

/-- **A call that is not rejected** and holds no others changes what is kept alike, whatever was misused
    before. -/
theorem take_report_forgiven {s : Kept} {call : ChainCall} (hplain : call.isPlain = true)
    (h : ¬ s.rejects? call = true) :
    s.forgiven.take call.report = (s.take call.report).forgiven := by
  cases call with
  | target table => exact take_target_forgiven h
  | join step => exact take_join_forgiven h
  | clean => rfl
  | other => rfl
  | filter step => cases hplain
  | union steps => cases hplain

theorem take_branch_nil (s : Kept) : s.take (.branch []) = s := by
  show { s with inBranches := s.inBranches.or none } = s
  rw [Option.or_none]

end Kept

theorem WhereStep.allMisuses_append (front back : List WhereStep) :
    allMisuses (front ++ back) = allMisuses front ++ allMisuses back := by
  induction front with
  | nil => rfl
  | cons step front ih => simp only [List.cons_append, allMisuses, ih, List.append_assoc]

theorem SelectStep.reports_append (front back : List SelectStep) :
    reports (front ++ back) = reports front ++ reports back := by
  simp only [reports_eq_map, List.map_append]

/-- **Calls about conditions** in which nothing is misused leave what is kept as it is. -/
theorem WhereStep.foldl_take (s : Kept) {steps : List WhereStep} (h : allMisuses steps = []) :
    (steps.map fun step => Report.conditions step.misuses).foldl Kept.take s = s := by
  induction steps with
  | nil => rfl
  | cons step steps ih =>
    simp only [allMisuses, List.append_eq_nil_iff] at h
    simp only [List.map_cons, h.1, List.foldl_cons, ModelQuery.take_conditions_nil]
    exact ih h.2

theorem SelectStep.reports_map_filter (steps : List WhereStep) :
    reports (steps.map .filter) = steps.map fun step => .conditions step.misuses := by
  rw [reports_eq_map, List.map_map, List.map_map]
  rfl

/-- Reports that leave nothing misused hold no misuse. -/
theorem Report.misuses_eq_nil {reports : List Report} {s : Kept}
    (h : reports.foldl Kept.take {} = s.forgiven) : Report.misuses reports = [] := by
  rw [← List.head?_eq_none_iff, ← Kept.first_foldl, h]
  exact s.first_forgiven

/-- A call that holds no others and is made unless it is rejected. -/
theorem SelectStep.take_ite (s : Kept) (step : SelectStep) {left : List SelectStep}
    (hplain : step.call.isPlain = true)
    (hleft : (reports left).foldl Kept.take s.forgiven = s.forgiven) :
    (reports (if s.rejects? step.call then left else [step])).foldl Kept.take s.forgiven =
      (s.take step.report).forgiven := by
  rw [← report_call]
  split
  · rename_i h
    rw [hleft, Kept.forgiven_take_of_rejects? h]
  · rename_i h
    rw [← Kept.take_report_forgiven hplain h, report_call]
    rfl

mutual

/-- Nothing is misused in what is left of a call about conditions. -/
theorem WhereStep.allMisuses_accepted : ∀ step : WhereStep,
    WhereStep.allMisuses step.accepted = []
  | .compareBy column text value => by
    simp only [WhereStep.accepted]
    cases hop : Operator.ofText? text with
    | none => rfl
    | some op =>
      simp only [Option.isNone_some, Bool.false_eq_true, if_false, WhereStep.allMisuses,
        WhereStep.misuses, hop, Option.isSome_some, if_true, List.append_nil]
  | .subquery steps wanted => by
    have hquery := Report.misuses_eq_nil (SelectStep.take_acceptedAll {} steps)
    simp only [WhereStep.accepted, WhereStep.allMisuses, WhereStep.misuses, hquery, List.append_nil]
  | .group joiner steps => by
    simp only [WhereStep.accepted, WhereStep.allMisuses, WhereStep.misuses,
      WhereStep.allMisuses_acceptedAll steps, List.append_nil]
  | .compare joiner column op value => rfl
  | .null joiner column wanted => rfl
  | .between joiner column low high wanted => rfl
  | .among joiner column values wanted => rfl
  | .raw joiner sql bindings => rfl
  | .related joiner table column parent wanted => rfl

theorem WhereStep.allMisuses_acceptedAll : ∀ steps : List WhereStep,
    WhereStep.allMisuses (WhereStep.acceptedAll steps) = []
  | [] => rfl
  | step :: steps => by
    rw [WhereStep.acceptedAll, WhereStep.allMisuses_append, WhereStep.allMisuses_accepted step,
      WhereStep.allMisuses_acceptedAll steps]
    rfl

/-- **What is kept after what is left of a call** is what the call leaves, without misuse. -/
theorem SelectStep.take_accepted (s : Kept) : ∀ step : SelectStep,
    (SelectStep.reports (step.accepted s)).foldl Kept.take s.forgiven =
      (s.take step.report).forgiven
  | .target table => SelectStep.take_ite s (.target table) rfl rfl
  | .targetAs table called => SelectStep.take_ite s (.targetAs table called) rfl rfl
  | .filter step => by
    simp only [SelectStep.accepted]
    rw [SelectStep.reports_map_filter, WhereStep.foldl_take _ (WhereStep.allMisuses_accepted step)]
    rfl
  | .join step => SelectStep.take_ite s (.join step) rfl rfl
  | .union all steps => by
    have hbranch := Report.misuses_eq_nil (SelectStep.take_acceptedAll {} steps)
    simp only [SelectStep.accepted, SelectStep.reports, SelectStep.report, hbranch, List.foldl_cons,
      List.foldl_nil, Kept.take_branch_nil]
    rfl
  | .columns columns => rfl
  | .distinct => rfl
  | .having step => rfl
  | .group column => rfl
  | .order column direction => rfl
  | .aggregate fn column called => rfl
  | .limit n => rfl
  | .offset n => rfl
  | .page page perPage => rfl
  | .clean => rfl

theorem SelectStep.take_acceptedAll (s : Kept) : ∀ steps : List SelectStep,
    (SelectStep.reports (SelectStep.acceptedAll s steps)).foldl Kept.take s.forgiven =
      ((SelectStep.reports steps).foldl Kept.take s).forgiven
  | [] => rfl
  | step :: steps => by
    rw [SelectStep.acceptedAll, SelectStep.reports_append, List.foldl_append,
      SelectStep.take_accepted s step, SelectStep.take_acceptedAll (s.take step.report) steps]
    rfl

end

/-! ## Chains of any kind -/

namespace Builder

variable (b : Builder)

/-- **What is left of a call**, when this much is kept. -/
def accepted (s : Kept) : (b : Builder) → b.Call → List b.Call
  | .select, call => SelectStep.accepted s call
  | .conditions _, call => WhereStep.accepted call
  | .update, .filter step => step.accepted.map UpdateStep.filter
  | .delete, .filter step => step.accepted.map DeleteStep.filter
  | .query _ _, .filter step => step.accepted.map ModelStep.filter
  | b, call => if s.rejects? (b.chainCall call) then [] else [call]

/-- **What is left of a chain.** -/
def acceptedAll (s : Kept) : List b.Call → List b.Call
  | [] => []
  | call :: calls => b.accepted s call ++ acceptedAll (s.take (b.chainCall call).report) calls

variable {b}

/-- A call that holds no others. -/
theorem forgiven_accepted_of_eq_ite {q : b.State} {call : b.Call}
    (haccepted : b.accepted (b.kept q) call =
      if (b.kept q).rejects? (b.chainCall call) then [] else [call])
    (hleft : b.leftover q call = q) :
    b.forgiven (b.run q (b.accepted (b.kept q) call)) = b.forgiven (b.step q call) := by
  rw [haccepted]
  by_cases h : (b.kept q).rejects? (b.chainCall call) = true
  · obtain ⟨misuse, hrejects⟩ := Kept.rejects?_iff.mp h
    rw [if_pos h, forgiven_step_of_rejects hrejects, hleft]
    rfl
  · rw [if_neg h]
    rfl

/-- **A call** and what is left of it. -/
theorem forgiven_accepted (q : b.State) (call : b.Call) :
    b.forgiven (b.run q (b.accepted (b.kept q) call)) = b.forgiven (b.step q call) := by
  cases b with
  | select =>
    exact (congrArg Select.forgiven (Select.steps_eq_foldl q _).symm).trans
      (Select.forgiven_accepted q call)
  | insert => exact forgiven_accepted_of_eq_ite rfl rfl
  | update =>
    change Update at q
    change UpdateStep at call
    cases call with
    | filter step =>
      have hrun : (step.accepted.map UpdateStep.filter).foldl Update.step q =
          { q with wheres := q.wheres.steps step.accepted } := by
        rw [List.foldl_map, WhereClause.steps_eq_foldl]
        refine List.foldl_hom (fun wheres => { q with wheres := wheres }) ?_
        exact fun _ _ => rfl
      refine (congrArg Update.forgiven hrun).trans ?_
      exact congrArg (fun wheres => { q.forgiven with wheres := wheres })
        (WhereClause.forgiven_accepted q.wheres step)
    | _ => exact forgiven_accepted_of_eq_ite rfl rfl
  | delete =>
    change Delete at q
    change DeleteStep at call
    cases call with
    | filter step =>
      have hrun : (step.accepted.map DeleteStep.filter).foldl Delete.step q =
          { q with wheres := q.wheres.steps step.accepted } := by
        rw [List.foldl_map, WhereClause.steps_eq_foldl]
        refine List.foldl_hom (fun wheres => { q with wheres := wheres }) ?_
        exact fun _ _ => rfl
      refine (congrArg Delete.forgiven hrun).trans ?_
      exact congrArg (fun wheres => { q.forgiven with wheres := wheres })
        (WhereClause.forgiven_accepted q.wheres step)
    | _ => exact forgiven_accepted_of_eq_ite rfl rfl
  | conditions table =>
    exact (congrArg WhereClause.forgiven (WhereClause.steps_eq_foldl q _).symm).trans
      (WhereClause.forgiven_accepted q call)
  | query method now =>
    change ModelQuery at q
    change ModelStep at call
    cases call with
    | filter step =>
      have hrun : (step.accepted.map ModelStep.filter).foldl ModelQuery.step q =
          { q with select := q.select.steps (step.accepted.map .filter) } := by
        rw [Select.steps_eq_foldl, List.foldl_map, List.foldl_map]
        refine List.foldl_hom (fun select => { q with select := select }) ?_
        exact fun _ _ => rfl
      refine (congrArg ModelQuery.forgiven hrun).trans ?_
      exact congrArg (fun select => { q with select := select })
        (Select.forgiven_accepted q.select (.filter step))
    | _ => exact forgiven_accepted_of_eq_ite rfl rfl

/-- **A chain** and what is left of it. -/
theorem forgiven_acceptedAll (q : b.State) (calls : List b.Call) :
    b.forgiven (b.run q (b.acceptedAll (b.kept q) calls)) = b.forgiven (b.run q calls) := by
  induction calls generalizing q with
  | nil => rfl
  | cons call calls ih =>
    have hrun : b.run q (b.acceptedAll (b.kept q) (call :: calls)) =
        b.run (b.run q (b.accepted (b.kept q) call)) (b.acceptedAll (b.kept (b.step q call)) calls) := by
      rw [kept_step]
      exact List.foldl_append
    rw [hrun]
    exact (forgiven_run_congr (forgiven_accepted q call) _).trans (ih (b.step q call))

/-- **What calls report.** -/
def reports (b : Builder) (calls : List b.Call) : List Report :=
  calls.map fun call => (b.chainCall call).report

theorem kept_run (q : b.State) (calls : List b.Call) :
    b.kept (b.run q calls) = (b.reports calls).foldl Kept.take (b.kept q) :=
  Kept.eq_foldl_take b.kept_step calls q

/-- A call that holds no others. -/
theorem take_accepted_of_eq_ite {s : Kept} {call : b.Call}
    (haccepted : b.accepted s call = if s.rejects? (b.chainCall call) then [] else [call])
    (hplain : (b.chainCall call).isPlain = true) :
    (b.reports (b.accepted s call)).foldl Kept.take s.forgiven =
      (s.take (b.chainCall call).report).forgiven := by
  rw [haccepted]
  split
  · rename_i h
    exact (Kept.forgiven_take_of_rejects? h).symm
  · rename_i h
    exact Kept.take_report_forgiven hplain h

/-- A call about conditions. -/
theorem take_accepted_of_filter (s : Kept) {step : WhereStep} (filter : WhereStep → b.Call)
    (hfilter : ∀ step, b.chainCall (filter step) = .filter step) :
    (b.reports (step.accepted.map filter)).foldl Kept.take s.forgiven =
      (s.take (b.chainCall (filter step)).report).forgiven := by
  have hreports : b.reports (step.accepted.map filter) =
      step.accepted.map fun step => .conditions step.misuses := by
    rw [reports, List.map_map]
    exact List.map_congr_left fun step _ => congrArg ChainCall.report (hfilter step)
  rw [hreports, WhereStep.foldl_take _ (WhereStep.allMisuses_accepted step), hfilter]
  rfl

/-- **What is kept after what is left of a call** is what the call leaves, without misuse. -/
theorem take_accepted (s : Kept) (call : b.Call) :
    (b.reports (b.accepted s call)).foldl Kept.take s.forgiven =
      (s.take (b.chainCall call).report).forgiven := by
  cases b with
  | select =>
    change SelectStep at call
    have hreports : SelectStep.reports (call.accepted s) =
        (call.accepted s).map fun step => step.call.report := by
      rw [SelectStep.reports_eq_map, List.map_map]
      rfl
    have hselect := SelectStep.take_accepted s call
    rw [hreports, ← SelectStep.report_call] at hselect
    exact hselect
  | insert =>
    change InsertStep at call
    cases call <;> exact take_accepted_of_eq_ite rfl rfl
  | update =>
    change UpdateStep at call
    cases call with
    | filter step => exact take_accepted_of_filter (b := .update) s UpdateStep.filter fun _ => rfl
    | _ => exact take_accepted_of_eq_ite rfl rfl
  | delete =>
    change DeleteStep at call
    cases call with
    | filter step => exact take_accepted_of_filter (b := .delete) s DeleteStep.filter fun _ => rfl
    | _ => exact take_accepted_of_eq_ite rfl rfl
  | conditions table =>
    have hmap : (Builder.conditions table).accepted s call = (WhereStep.accepted call).map id :=
      (List.map_id _).symm
    rw [hmap]
    exact take_accepted_of_filter (b := .conditions table) s id fun _ => rfl
  | query method now =>
    change ModelStep at call
    cases call with
    | filter step => exact take_accepted_of_filter (b := .query method now) s ModelStep.filter fun _ => rfl
    | _ => exact take_accepted_of_eq_ite rfl rfl

/-- **What is kept after what is left of a chain.** -/
theorem take_acceptedAll (s : Kept) (calls : List b.Call) :
    (b.reports (b.acceptedAll s calls)).foldl Kept.take s.forgiven =
      ((b.reports calls).foldl Kept.take s).forgiven := by
  induction calls generalizing s with
  | nil => rfl
  | cons call calls ih =>
    have hreports : b.reports (b.acceptedAll s (call :: calls)) = b.reports (b.accepted s call) ++
        b.reports (b.acceptedAll (s.take (b.chainCall call).report) calls) := List.map_append
    rw [hreports, List.foldl_append, take_accepted, ih]
    rfl

end Builder

/-- **A misused chain compiles to what is left of it**, and nothing is misused in that. -/
theorem Builder.compiles_as_accepted (b : Builder) (q : b.State) (hq : (b.kept q).first = none)
    (calls : List b.Call) :
    let accepted := b.acceptedAll (b.kept q) calls
    (b.kept (b.run q accepted)).first = none ∧
      b.forgiven (b.run q accepted) = b.forgiven (b.run q calls) ∧
      ∀ st, b.template st (b.run q accepted) = b.template st (b.run q calls) := by
  intro accepted
  have hsame := forgiven_acceptedAll q calls
  refine ⟨?_, hsame, template_congr hsame⟩
  have hkept : b.kept (b.run q accepted) = (b.kept (b.run q calls)).forgiven := by
    have hstart := Kept.forgiven_of_first hq
    rw [kept_run, kept_run, ← take_acceptedAll, hstart]
  rw [hkept]
  rfl

end FluentSql
