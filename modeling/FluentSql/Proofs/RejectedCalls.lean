import FluentSql.Proofs.Forgiveness
import FluentSql.Proofs.Misuses
/-!
# `FluentSql.Proofs.RejectedCalls` — a rejected call changes nothing but what is reported

A call is rejected if it is a misuse itself: it points a statement at a second table, it compares by an
operator that does not exist, or it gives a predicate to no join or to a cross join. What is nested in a
call is rejected in the chain of its own. Nothing is compiled of a rejected call, with one exception: an
alias that comes with a second table is taken over without the table.

* `Kept.Rejects` — which calls are rejected, from what a statement keeps;
* `Builder` — everything that is built by a chain of calls;
* `Builder.forgiven_step_of_rejects` — what a rejected call does;
* `Builder.rejected_call_compiled` — what this makes of the text and the parameters, then and after any
  further calls.
-/

namespace FluentSql

/-! ## Rejection -/

/-- **Rejected calls** and the misuse that each of them is. -/
inductive Kept.Rejects (s : Kept) : ChainCall → Misuse → Prop where
  /-- A second table. -/
  | table {table : String} (hfirst : s.table.isEmpty = false) (hnamed : table.isEmpty = false)
      (hne : s.table ≠ table) : Rejects s (.target table) (.retarget s.table table)
  /-- An operator that does not exist. -/
  | operator {column : Column} {text : String} {value : Value} (h : Operator.ofText? text = none) :
      Rejects s (.filter (.compareBy column text value))
        (.unknownOperator text (Operator.suggestion? text))
  /-- A predicate without a join. -/
  | unjoined {predicate : JoinPredicate} (h : s.joins.joins = []) :
      Rejects s (.join (.on predicate)) .onWithoutJoin
  /-- A predicate of a cross join. -/
  | crossJoin {predicate : JoinPredicate} {last : Join} (hlast : s.joins.joins.getLast? = some last)
      (hcross : last.kind = .cross) : Rejects s (.join (.on predicate)) (.onCrossJoin last.table)

/-- **A misuse is reported after a call**: this one, unless there was one before. -/
def Reported (misuse : Misuse) (before after : Option Misuse) : Prop :=
  ∃ reported, after = some reported ∧ (before = none → reported = misuse)

/-- A misuse in a slot that is looked at before the rest. -/
theorem reported_slot {misuse : Misuse} (slot rest : Option Misuse) :
    Reported misuse (slot.or rest) ((slot.or (some misuse)).or rest) := by
  cases slot with
  | some earlier => exact ⟨earlier, rfl, nofun⟩
  | none => exact ⟨misuse, rfl, fun _ => rfl⟩

/-- A misuse in a slot that is looked at later. -/
theorem Reported.behind {misuse : Misuse} {before after : Option Misuse}
    (h : Reported misuse before after) (front : Option Misuse) :
    Reported misuse (front.or before) (front.or after) := by
  cases front with
  | some earlier => exact ⟨earlier, rfl, nofun⟩
  | none => exact h

namespace Kept.Rejects

variable {s : Kept} {call : ChainCall} {misuse : Misuse}

theorem retarget_eq {table : String} (h : s.Rejects (.target table) misuse) (other : Option Misuse) :
    retarget s.table other table = (s.table, other.or (some misuse)) := by
  cases h with
  | table hfirst hnamed hne =>
    unfold retarget
    simp [hfirst, hnamed, hne]

theorem on_eq {predicate : JoinPredicate} (h : s.Rejects (.join (.on predicate)) misuse)
    (clause : JoinClause) (hjoins : clause.joins = s.joins.joins) :
    clause.on predicate = clause.record misuse := by
  unfold JoinClause.on
  rw [hjoins]
  cases h with
  | unjoined h => rw [h]; rfl
  | crossJoin hlast hcross =>
    rw [hlast]
    exact if_pos hcross

/-- **A rejected call is reported**, and as what it is unless something was misused before. -/
theorem first_take (h : s.Rejects call misuse) :
    Reported misuse s.first (s.take call.report).first := by
  cases call with
  | target table =>
    show Reported misuse _ ((retarget s.table s.inTable table).2.or _)
    rw [h.retarget_eq]
    exact reported_slot _ _
  | filter step =>
    cases h with
    | operator hop =>
      simp only [ChainCall.report, WhereStep.misuses, hop, Option.isSome_none]
      exact (reported_slot _ _).behind _
  | join step =>
    cases step with
    | join kind table called => cases h
    | on predicate =>
      show Reported misuse _ (s.inTable.or (s.inConditions.or ((s.joins.on predicate).misuse.or _)))
      rw [h.on_eq s.joins rfl]
      exact ((reported_slot _ _).behind _).behind _
  | union steps => cases h
  | clean => cases h
  | other => cases h

end Kept.Rejects

/-- A rejected call about conditions pushes none. -/
theorem WhereClause.forgiven_step_of_rejects {s : Kept} {step : WhereStep} {misuse : Misuse}
    (h : s.Rejects (.filter step) misuse) (clause : WhereClause) :
    (clause.step step).forgiven = clause.forgiven := by
  unfold forgiven
  rw [conditions_step]
  cases h with
  | operator hop => simp only [WhereStep.pushed?, hop, Option.map_none]

/-- A rejected call about joins changes none. -/
theorem JoinClause.forgiven_step_of_rejects {s : Kept} {step : JoinStep} {misuse : Misuse}
    (h : s.Rejects (.join step) misuse) (clause : JoinClause) (hjoins : clause.joins = s.joins.joins) :
    (clause.step step).forgiven = clause.forgiven := by
  cases step with
  | join kind table called => cases h
  | on predicate =>
    show (clause.on predicate).forgiven = _
    rw [h.on_eq clause hjoins]
    rfl

/-- **What is left of a call** about a SELECT statement that is rejected: the alias of a second table, and
    else nothing. -/
def Select.leftover (q : Select) : SelectStep → Select
  | .targetAs _ called => { q with called := if called.isEmpty then none else some called }
  | _ => q

/-- **A rejected call about a SELECT statement.** -/
theorem Select.forgiven_step_of_rejects {q : Select} {step : SelectStep} {misuse : Misuse}
    (h : q.kept.Rejects step.call misuse) : (q.step step).forgiven = (q.leftover step).forgiven := by
  rw [Select.forgiven_eq, (q.leftover step).forgiven_eq]
  cases step with
  | target table =>
    have hretarget : retarget q.table q.misuse table = (q.table, _) := h.retarget_eq q.misuse
    simp only [Select.step, target, hretarget, leftover]
  | targetAs table called =>
    have hretarget : retarget q.table q.misuse table = (q.table, _) := h.retarget_eq q.misuse
    simp only [Select.step, targetAs, target, hretarget, leftover]
  | filter step => simp only [Select.step, WhereClause.forgiven_step_of_rejects h, leftover]
  | join step => simp only [Select.step, JoinClause.forgiven_step_of_rejects h q.joins rfl, leftover]
  | _ => cases h

/-- A call about an INSERT statement. -/
def InsertStep.call : InsertStep → ChainCall
  | .target table => .target table
  | .rows _ => .other
  | .set _ _ => .other
  | .clean => .clean

/-- What an INSERT statement keeps. -/
def Insert.kept (q : Insert) : Kept where
  table := q.table
  inTable := q.misuse

/-- A rejected call about an INSERT statement. -/
theorem Insert.forgiven_step_of_rejects {q : Insert} {step : InsertStep} {misuse : Misuse}
    (h : q.kept.Rejects step.call misuse) : (q.step step).forgiven = q.forgiven := by
  cases step with
  | target table =>
    have hretarget : retarget q.table q.misuse table = (q.table, _) := h.retarget_eq q.misuse
    simp only [Insert.step, target, hretarget, forgiven]
  | _ => cases h

/-- A rejected call about an UPDATE statement. -/
theorem Update.forgiven_step_of_rejects {q : Update} {step : UpdateStep} {misuse : Misuse}
    (h : q.kept.Rejects step.call misuse) : (q.step step).forgiven = q.forgiven := by
  cases step with
  | target table =>
    have hretarget : retarget q.table q.misuse table = (q.table, _) := h.retarget_eq q.misuse
    simp only [Update.step, target, hretarget, forgiven]
  | filter step => simp only [Update.step, forgiven, WhereClause.forgiven_step_of_rejects h]
  | join step => simp only [Update.step, forgiven, JoinClause.forgiven_step_of_rejects h q.joins rfl]
  | _ => cases h

/-- A rejected call about a DELETE statement. -/
theorem Delete.forgiven_step_of_rejects {q : Delete} {step : DeleteStep} {misuse : Misuse}
    (h : q.kept.Rejects step.call misuse) : (q.step step).forgiven = q.forgiven := by
  cases step with
  | target table =>
    have hretarget : retarget q.table q.misuse table = (q.table, _) := h.retarget_eq q.misuse
    simp only [Delete.step, target, hretarget, forgiven]
  | filter step => simp only [Delete.step, forgiven, WhereClause.forgiven_step_of_rejects h]
  | join step => simp only [Delete.step, forgiven, JoinClause.forgiven_step_of_rejects h q.joins rfl]
  | _ => cases h

/-- A rejected call on a query of a model. -/
theorem ModelQuery.forgiven_step_of_rejects {q : ModelQuery} {step : ModelStep} {misuse : Misuse}
    (h : q.kept.Rejects step.call misuse) : (q.step step).forgiven = q.forgiven := by
  have hselect : ∀ step : SelectStep, q.select.kept.Rejects step.call misuse →
      (q.selectStep step).forgiven = { q with select := (q.select.leftover step).forgiven } :=
    fun step h => congrArg (fun select => { q with select := select })
      (Select.forgiven_step_of_rejects h)
  cases step with
  | filter step => exact hselect (.filter step) h
  | join step => exact hselect (.join step) h
  | _ => cases h

/-! ## Chains of any kind -/

/-- **What is built by a chain of calls.** A query of a model is looked at through one of its methods, at
    some time. -/
inductive Builder where
  | select
  | insert
  | update
  | delete
  /-- The conditions of a statement on a table. -/
  | conditions (table : String)
  | query (method : ModelMethod) (now : DateTime)

/-- What is wrong with the rows of an INSERT statement. -/
def Insert.rowsMisuse? (q : Insert) : Option Misuse :=
  (if q.isMixed then some .mixedRows else none).or (q.rows.findSome? Payload.misuse?)

theorem Insert.misuse?_eq_first (q : Insert) : q.misuse? = q.kept.first.or q.rowsMisuse? := by
  unfold Insert.misuse? Insert.kept Kept.first Insert.rowsMisuse?
  simp only [Option.or_none]

/-- What a WHERE clause keeps. -/
def WhereClause.kept (clause : WhereClause) : Kept := { inConditions := clause.misuse }

theorem WhereClause.first_kept (clause : WhereClause) : clause.kept.first = clause.misuse :=
  Option.or_none

theorem ModelQuery.misuse?_statement (q : ModelQuery) : q.statement.misuse? = q.kept.first := by
  rw [Select.misuse?_eq_first, kept_statement]

/-- What the statement of a method compiles to; there is nothing to restore without a delete column. -/
def ModelMethod.template (st : Style) (now : DateTime) (method : ModelMethod) (q : ModelQuery) :
    Template :=
  ((method.statement? now q).map (Statement.template st)).getD []

theorem ModelMethod.template_forgiven (st : Style) (now : DateTime) (method : ModelMethod)
    (q : ModelQuery) : method.template st now q.forgiven = method.template st now q := by
  have htemplates : ∀ s? : Option Statement,
      s?.map (Statement.template st) = (s?.map Statement.forgiven).map (Statement.template st) := by
    intro s?
    cases s? with
    | none => rfl
    | some s => exact congrArg some (s.template_forgiven st).symm
  unfold ModelMethod.template
  rw [htemplates, htemplates (method.statement? now q), forgiven_statement method now q]

namespace Builder

/-- What has been built so far. -/
def State : Builder → Type
  | .select => Select
  | .insert => Insert
  | .update => Update
  | .delete => Delete
  | .conditions _ => WhereClause
  | .query _ _ => ModelQuery

/-- The calls. -/
def Call : Builder → Type
  | .select => SelectStep
  | .insert => InsertStep
  | .update => UpdateStep
  | .delete => DeleteStep
  | .conditions _ => WhereStep
  | .query _ _ => ModelStep

/-- **A call made.** -/
def step : (b : Builder) → b.State → b.Call → b.State
  | .select => Select.step
  | .insert => Insert.step
  | .update => Update.step
  | .delete => Delete.step
  | .conditions _ => WhereClause.step
  | .query _ _ => ModelQuery.step

/-- **Calls made** one after the other. -/
def run (b : Builder) (q : b.State) (calls : List b.Call) : b.State := calls.foldl b.step q

/-- A call as far as misuse is concerned. -/
def chainCall : (b : Builder) → b.Call → ChainCall
  | .select => SelectStep.call
  | .insert => InsertStep.call
  | .update => UpdateStep.call
  | .delete => DeleteStep.call
  | .conditions _ => .filter
  | .query _ _ => ModelStep.call

/-- What is kept of misuse, and decides on it. -/
def kept : (b : Builder) → b.State → Kept
  | .select => Select.kept
  | .insert => Insert.kept
  | .update => Update.kept
  | .delete => Delete.kept
  | .conditions _ => WhereClause.kept
  | .query _ _ => ModelQuery.kept

/-- **The misuse that is reported.** -/
def misuse? : (b : Builder) → b.State → Option Misuse
  | .select => Select.misuse?
  | .insert => Insert.misuse?
  | .update => Update.misuse?
  | .delete => Delete.misuse?
  | .conditions _ => WhereClause.misuse
  | .query _ _ => fun q => q.statement.misuse?

/-- **What is compiled.** -/
def template (st : Style) : (b : Builder) → b.State → Template
  | .select => Select.template st
  | .insert => Insert.template st
  | .update => Update.template st
  | .delete => Delete.template st
  | .conditions table => WhereClause.template st table
  | .query method now => method.template st now

/-- All misuse forgiven. -/
def forgiven : (b : Builder) → b.State → b.State
  | .select => Select.forgiven
  | .insert => Insert.forgiven
  | .update => Update.forgiven
  | .delete => Delete.forgiven
  | .conditions _ => WhereClause.forgiven
  | .query _ _ => ModelQuery.forgiven

/-- **What is left of a call** that is rejected. -/
def leftover : (b : Builder) → b.State → b.Call → b.State
  | .select, q, call => Select.leftover q call
  | _, q, _ => q

variable (b : Builder) (q : b.State)

/-! ### What is kept -/

theorem kept_step (call : b.Call) :
    b.kept (b.step q call) = (b.kept q).take (b.chainCall call).report := by
  cases b with
  | select => exact (Select.kept_step q call).trans (congrArg _ (SelectStep.report_call call).symm)
  | insert =>
    change InsertStep at call
    cases call <;> rfl
  | update => exact Update.kept_step q call
  | delete => exact Delete.kept_step q call
  | conditions table =>
    exact congrArg (fun misuse => ({ inConditions := misuse } : Kept)) (WhereClause.misuse_step q call)
  | query method now => exact ModelQuery.kept_step q call

/-- The first misuse that is kept is reported. -/
theorem misuse?_of_first {misuse : Misuse} (h : (b.kept q).first = some misuse) :
    b.misuse? q = some misuse := by
  have hor : ∀ first rest : Option Misuse, first = some misuse → first.or rest = some misuse := by
    rintro first rest rfl
    rfl
  cases b with
  | select => exact (Select.misuse?_eq_first q).trans h
  | insert => exact (Insert.misuse?_eq_first q).trans (hor _ _ h)
  | update => exact (Update.misuse?_eq_first q).trans (hor _ _ h)
  | delete => exact (Delete.misuse?_eq_first q).trans h
  | conditions table => exact (WhereClause.first_kept q).symm.trans h
  | query method now => exact (ModelQuery.misuse?_statement q).trans h

/-! ### Misuse is not compiled -/

theorem forgiven_step (call : b.Call) :
    b.forgiven (b.step q call) = b.forgiven (b.step (b.forgiven q) call) := by
  cases b with
  | select => exact Select.forgiven_step q call
  | insert => exact Insert.forgiven_step q call
  | update => exact Update.forgiven_step q call
  | delete => exact Delete.forgiven_step q call
  | conditions table => exact WhereClause.forgiven_step q call
  | query method now => exact ModelQuery.forgiven_step q call

theorem template_forgiven (st : Style) : b.template st (b.forgiven q) = b.template st q := by
  cases b with
  | select => exact Select.template_forgiven st q
  | insert => rfl
  | update => exact Statement.template_forgiven st (.update q)
  | delete => exact Statement.template_forgiven st (.delete q)
  | conditions table => exact WhereClause.template_forgiven st table q
  | query method now => exact ModelMethod.template_forgiven st now method q

variable {b q}

/-- **What is the same when it is forgiven stays so.** -/
theorem forgiven_run_congr {q' : b.State} (h : b.forgiven q = b.forgiven q') (calls : List b.Call) :
    b.forgiven (b.run q calls) = b.forgiven (b.run q' calls) := by
  induction calls generalizing q q' with
  | nil => exact h
  | cons call calls ih =>
    have hstep : b.forgiven (b.step q call) = b.forgiven (b.step q' call) := by
      rw [forgiven_step, h, ← forgiven_step]
    exact ih hstep

/-- What is the same when it is forgiven compiles to the same. -/
theorem template_congr {q' : b.State} (h : b.forgiven q = b.forgiven q') (st : Style) :
    b.template st q = b.template st q' := by
  rw [← template_forgiven, h, template_forgiven]

/-! ### What a rejected call does -/

/-- **A rejected call does nothing** but what is left of it, apart from what is kept of misuse. -/
theorem forgiven_step_of_rejects {call : b.Call} {misuse : Misuse}
    (h : (b.kept q).Rejects (b.chainCall call) misuse) :
    b.forgiven (b.step q call) = b.forgiven (b.leftover q call) := by
  cases b with
  | select => exact Select.forgiven_step_of_rejects h
  | insert => exact Insert.forgiven_step_of_rejects h
  | update => exact Update.forgiven_step_of_rejects h
  | delete => exact Delete.forgiven_step_of_rejects h
  | conditions table => exact WhereClause.forgiven_step_of_rejects h q
  | query method now => exact ModelQuery.forgiven_step_of_rejects h

end Builder

/-- **A rejected call is reported and not compiled.** A misuse is reported after it, and that of the call
    if there was none before. Nothing else changes, but that the alias of a second table is taken over:
    the text and the parameters are those that what is left of the call has, in every style and whatever
    parameters there are already, and they stay so whatever calls follow. -/
theorem Builder.rejected_call_compiled (b : Builder) (q : b.State) (call : b.Call) {misuse : Misuse}
    (h : (b.kept q).Rejects (b.chainCall call) misuse) :
    (∃ reported, b.misuse? (b.step q call) = some reported ∧
      ((b.kept q).first = none → reported = misuse)) ∧
    b.forgiven (b.step q call) = b.forgiven (b.leftover q call) ∧
    ∀ (calls : List b.Call) (st : Style) (store : Params),
      (b.template st (b.run (b.step q call) calls)).assemble store =
        (b.template st (b.run (b.leftover q call) calls)).assemble store := by
  have hsame := forgiven_step_of_rejects h
  refine ⟨?_, hsame, fun calls st store => ?_⟩
  · obtain ⟨reported, hfirst, hmisuse⟩ := h.first_take
    rw [← kept_step] at hfirst
    exact ⟨reported, misuse?_of_first b _ hfirst, hmisuse⟩
  · rw [template_congr (forgiven_run_congr hsame calls) st]

/-- Users, each with every post. -/
def Select.usersAndPosts : Select := .ofSteps [.target "users", .join (.join .cross "posts" none)]

/-- A predicate that a cross join does not take. -/
def SelectStep.onAuthor : SelectStep := .join (.on ⟨.name "users.id", .equal, .name "posts.user_id"⟩)

/-- The predicate is reported and not compiled. -/
theorem Select.usersAndPosts_unchanged :
    usersAndPosts.kept.Rejects SelectStep.onAuthor.call (.onCrossJoin "posts") ∧
      (usersAndPosts.step .onAuthor).misuse? = some (.onCrossJoin "posts") ∧
      ∀ st, (Statement.select (usersAndPosts.step .onAuthor)).build st =
        (Statement.select usersAndPosts).build st := by
  have hlast : usersAndPosts.kept.joins.joins.getLast? = some ⟨.cross, "posts", none, none⟩ := by
    decide
  have hrejects : usersAndPosts.kept.Rejects SelectStep.onAuthor.call (.onCrossJoin "posts") :=
    .crossJoin hlast rfl
  obtain ⟨⟨reported, hreported, hmisuse⟩, -, hcompiled⟩ :=
    Builder.rejected_call_compiled .select usersAndPosts .onAuthor hrejects
  have hfirst : usersAndPosts.kept.first = none := by decide
  rw [hmisuse hfirst] at hreported
  refine ⟨hrejects, hreported, fun st => ?_⟩
  exact congrArg (fun assembled : List Char × Params => Built.mk (String.ofList assembled.1) assembled.2)
    (hcompiled [] st .empty)

/-- **The alias of a second table is compiled**: the call is rejected, and the users go by it. -/
theorem Select.users_renamed :
    let users := Select.ofSteps [.target "users"]
    let call := SelectStep.targetAs "posts" "p"
    users.kept.Rejects call.call (.retarget "users" "posts") ∧
      ((Statement.select users).build { dialect := .sqlite }).sql = "SELECT * FROM \x60users\x60" ∧
      ((Statement.select (users.step call)).build { dialect := .sqlite }).sql =
        "SELECT * FROM \x60users\x60 \x60p\x60" := by
  intro users call
  refine ⟨.table ?_ ?_ ?_, ?_, ?_⟩
  · decide
  · decide
  · decide
  · decide +kernel
  · decide +kernel

end FluentSql
