import FluentSql.Proofs.Recording
import Mathlib.Data.List.DropRight
/-!
# `FluentSql.Proofs.Misuses` — which misuse of a chain is reported

A chain of calls is never interrupted. What was misused is kept in four places of the statement being
built: beside its table, in its WHERE clause, in its JOIN clause and in its union branches; groups and
subqueries hand theirs over when they are attached. Here the misuses are read off the calls alone
(`ChainCall.misuses`), all of them, without a statement: a call reports what it has to do with misuse,
and of the reports since everything was forgotten last, those about tables come first, then those about
conditions, joins and branches.

* `Kept.ReflectsAll.take` — one report changes what a statement keeps as it changes the list;
* `Select.kept_step` — one call changes what a statement keeps as its report says;
* `Select.misuse?_ofSteps`, `Update.misuse?_foldl`, `Delete.misuse?_foldl` — the first misuse in the list
  is the one that the statement has;
* `ModelMethod.misuse?_statement` — so has the statement of a method of a query.
-/

namespace FluentSql

/-! ## Reports -/

/-- **What a call has to do with misuse.** -/
inductive Report where
  /-- A statement is pointed at a table. -/
  | target (table : String)
  /-- A call about conditions, with all misuses in it. -/
  | conditions (misuses : List Misuse)
  /-- A call about joins. -/
  | join (step : JoinStep)
  /-- A union branch, with all misuses in it. -/
  | branch (misuses : List Misuse)
  /-- Everything is forgotten. -/
  | clean
  /-- A call that is no misuse whatever was called before. -/
  | harmless

namespace Report

/-- Whether everything is forgotten. -/
def isClean : Report → Bool
  | .clean => true
  | _ => false

/-- The table that a statement is pointed at; the empty name is none. -/
def table? : Report → Option String
  | .target table => if table.isEmpty then none else some table
  | _ => none

/-- The misuses in a call about conditions. -/
def inConditions : Report → List Misuse
  | .conditions misuses => misuses
  | _ => []

/-- The call about joins. -/
def joinStep? : Report → Option JoinStep
  | .join step => some step
  | _ => none

/-- The misuses in a union branch. -/
def inBranch : Report → List Misuse
  | .branch misuses => misuses
  | _ => []

/-- **Misuse of tables**: those that differ from the first one. -/
def ofTables : List String → List Misuse
  | [] => []
  | first :: others => (others.filter (· ≠ first)).map (.retarget first)

/-- The last join of some calls, after a join or none. -/
def lastJoin (last : Option (JoinKind × String)) : List JoinStep → Option (JoinKind × String)
  | [] => last
  | .join kind table _ :: steps => lastJoin (some (kind, table)) steps
  | .on _ :: steps => lastJoin last steps

/-- What is wrong with a predicate after a join or none: without a join it has nothing to belong to, and
    a cross join takes none. -/
def ofPredicate : Option (JoinKind × String) → List Misuse
  | none => [.onWithoutJoin]
  | some (kind, table) => if kind = .cross then [.onCrossJoin table] else []

/-- **Misuse of joins**, after a join or none. -/
def ofJoins (last : Option (JoinKind × String)) : List JoinStep → List Misuse
  | [] => []
  | .join kind table _ :: steps => ofJoins (some (kind, table)) steps
  | .on _ :: steps => ofPredicate last ++ ofJoins last steps

/-- What was reported since everything was forgotten last. -/
def sinceClean (reports : List Report) : List Report := reports.rtakeWhile fun r => !r.isClean

/-- **All misuses** of what was reported and is not forgotten: of tables, in conditions, of joins, in
    branches, and each of these in the order of the calls. -/
def misuses (reports : List Report) : List Misuse :=
  ofTables ((sinceClean reports).filterMap table?)
    ++ (sinceClean reports).flatMap inConditions
    ++ ofJoins none ((sinceClean reports).filterMap joinStep?)
    ++ (sinceClean reports).flatMap inBranch

end Report

mutual

/-- **All misuses in a call about conditions**, at any depth. -/
def WhereStep.misuses : WhereStep → List Misuse
  | .compareBy _ text _ =>
    if (Operator.ofText? text).isSome then []
    else [.unknownOperator text (Operator.suggestion? text)]
  | .subquery steps _ => Report.misuses (SelectStep.reports steps)
  | .group _ steps => WhereStep.allMisuses steps
  | _ => []

/-- All misuses in calls about conditions, in the order of the calls. -/
def WhereStep.allMisuses : List WhereStep → List Misuse
  | [] => []
  | step :: steps => WhereStep.misuses step ++ WhereStep.allMisuses steps

/-- What a call about a SELECT statement reports. -/
def SelectStep.report : SelectStep → Report
  | .target table => .target table
  | .targetAs table _ => .target table
  | .filter step => .conditions (WhereStep.misuses step)
  | .join step => .join step
  | .union _ steps => .branch (Report.misuses (SelectStep.reports steps))
  | .clean => .clean
  | _ => .harmless

/-- What calls about a SELECT statement report, in the order of the calls. -/
def SelectStep.reports : List SelectStep → List Report
  | [] => []
  | step :: steps => SelectStep.report step :: SelectStep.reports steps

end

/-- **A call as far as misuse is concerned**, whatever the chain builds. -/
inductive ChainCall where
  | target (table : String)
  | filter (step : WhereStep)
  | join (step : JoinStep)
  | union (steps : List SelectStep)
  | clean
  | other

/-- What a call reports. -/
def ChainCall.report : ChainCall → Report
  | .target table => .target table
  | .filter step => .conditions step.misuses
  | .join step => .join step
  | .union steps => .branch (Report.misuses (SelectStep.reports steps))
  | .clean => .clean
  | .other => .harmless

/-- **All misuses of a chain of calls.** -/
def ChainCall.misuses (calls : List ChainCall) : List Misuse :=
  Report.misuses (calls.map ChainCall.report)

/-- A call about a SELECT statement. -/
def SelectStep.call : SelectStep → ChainCall
  | .target table => .target table
  | .targetAs table _ => .target table
  | .filter step => .filter step
  | .join step => .join step
  | .union _ steps => .union steps
  | .clean => .clean
  | _ => .other

/-- A call about an UPDATE statement. -/
def UpdateStep.call : UpdateStep → ChainCall
  | .target table => .target table
  | .set _ => .other
  | .filter step => .filter step
  | .join step => .join step
  | .clean => .clean

/-- A call about a DELETE statement. -/
def DeleteStep.call : DeleteStep → ChainCall
  | .target table => .target table
  | .filter step => .filter step
  | .join step => .join step
  | .clean => .clean

/-- A call on a query of a model. -/
def ModelStep.call : ModelStep → ChainCall
  | .filter step => .filter step
  | .join step => .join step
  | _ => .other

theorem SelectStep.report_call (step : SelectStep) : step.call.report = step.report := by
  cases step <;> rfl

theorem SelectStep.reports_eq_map (steps : List SelectStep) :
    SelectStep.reports steps = (steps.map SelectStep.call).map ChainCall.report := by
  induction steps with
  | nil => rfl
  | cons step steps ih =>
    rw [SelectStep.reports, ih, ← SelectStep.report_call, List.map_cons, List.map_cons]

/-! ## What a statement keeps -/

/-- **What a statement being built keeps** of misuse, and what decides on the next one. -/
structure Kept where
  table : String := ""
  inTable : Option Misuse := none
  inConditions : Option Misuse := none
  joins : JoinClause := {}
  inBranches : Option Misuse := none

namespace Kept

/-- What is kept after a report. -/
def take (s : Kept) : Report → Kept
  | .target table =>
    { s with table := (retarget s.table s.inTable table).1
             inTable := (retarget s.table s.inTable table).2 }
  | .conditions misuses => { s with inConditions := s.inConditions.or misuses.head? }
  | .join step => { s with joins := s.joins.step step }
  | .branch misuses => { s with inBranches := s.inBranches.or misuses.head? }
  | .clean => {}
  | .harmless => s

/-- **The first misuse** that is kept. -/
def first (s : Kept) : Option Misuse :=
  s.inTable.or (s.inConditions.or (s.joins.misuse.or s.inBranches))

/-- **What is kept reflects the calls**: in every place the first misuse of its kind, and of tables and
    joins what decides on the next misuse. -/
structure Reflects (s : Kept) (tables : List String) (inConditions : List Misuse)
    (joins : List JoinStep) (inBranches : List Misuse) : Prop where
  named : ∀ table ∈ tables, table.isEmpty = false
  table : s.table = tables.head?.getD ""
  inTable : s.inTable = (Report.ofTables tables).head?
  inConditions : s.inConditions = inConditions.head?
  last : s.joins.joins.getLast?.map (fun j => (j.kind, j.table)) = Report.lastJoin none joins
  inJoins : s.joins.misuse = (Report.ofJoins none joins).head?
  inBranches : s.inBranches = inBranches.head?

end Kept

/-! ## One report more -/

namespace Report

theorem ofTables_concat (tables : List String) (table : String) :
    ofTables (tables ++ [table]) =
      ofTables tables ++
        (match tables.head? with
        | none => []
        | some first => if table = first then [] else [.retarget first table]) := by
  cases tables with
  | nil => rfl
  | cons first others =>
    rw [List.cons_append, ofTables, ofTables, List.filter_append, List.map_append]
    congr 1
    by_cases h : table = first <;> simp [h]

theorem lastJoin_append (last : Option (JoinKind × String)) (front back : List JoinStep) :
    lastJoin last (front ++ back) = lastJoin (lastJoin last front) back := by
  induction front generalizing last with
  | nil => rfl
  | cons step front ih =>
    cases step with
    | join kind table called => exact ih (some (kind, table))
    | on predicate => exact ih last

theorem ofJoins_append (last : Option (JoinKind × String)) (front back : List JoinStep) :
    ofJoins last (front ++ back) = ofJoins last front ++ ofJoins (lastJoin last front) back := by
  induction front generalizing last with
  | nil => rfl
  | cons step front ih =>
    cases step with
    | join kind table called => exact ih (some (kind, table))
    | on predicate => rw [List.cons_append, ofJoins, ofJoins, lastJoin, ih, List.append_assoc]

end Report

/-- A clause is asked for a predicate: it looks at its last join. -/
theorem JoinClause.on_eq (clause : JoinClause) (predicate : JoinPredicate) :
    (clause.on predicate).joins.getLast?.map (fun j => (j.kind, j.table)) =
        clause.joins.getLast?.map (fun j => (j.kind, j.table)) ∧
      (clause.on predicate).misuse = clause.misuse.or
        (Report.ofPredicate (clause.joins.getLast?.map fun j => (j.kind, j.table))).head? := by
  unfold on
  cases hlast : clause.joins.getLast? with
  | none => exact ⟨congrArg _ hlast, rfl⟩
  | some last =>
    show (if last.kind = .cross then clause.record (.onCrossJoin last.table)
        else _ : JoinClause).joins.getLast?.map _ = _ ∧ _
    by_cases hcross : last.kind = .cross
    · rw [if_pos hcross]
      refine ⟨congrArg _ hlast, ?_⟩
      simp [record, Report.ofPredicate, hcross]
    · rw [if_neg hcross]
      refine ⟨by simp, ?_⟩
      simp [Report.ofPredicate, hcross]

namespace Kept.Reflects

variable {s : Kept} {tables : List String} {inConditions inBranches : List Misuse}
  {joins : List JoinStep}

/-- **Pointing at a table**: the first one is taken, and a different one is a misuse. -/
theorem target (h : s.Reflects tables inConditions joins inBranches) {table : String}
    (htable : table.isEmpty = false) :
    (s.take (.target table)).Reflects (tables ++ [table]) inConditions joins inBranches := by
  have hretarget : retarget s.table s.inTable table =
      ((tables ++ [table]).head?.getD "", (Report.ofTables (tables ++ [table])).head?) := by
    unfold retarget
    rw [if_neg (Bool.eq_false_iff.mp htable), h.table, h.inTable]
    cases tables with
    | nil => rfl
    | cons first others =>
      have hfirst : first.isEmpty = false := h.named first List.mem_cons_self
      rw [Report.ofTables_concat, List.head?_append]
      show (if first.isEmpty || first == table then _ else _ : String × Option Misuse) = _
      rw [hfirst, Bool.false_or]
      by_cases heq : first = table
      · rw [if_pos (beq_iff_eq.mpr heq)]
        simp [heq]
      · rw [if_neg fun hb => heq (beq_iff_eq.mp hb)]
        simp [Ne.symm heq]
  exact {
    named := by
      intro t ht
      rcases List.mem_append.mp ht with hold | hnew
      · exact h.named t hold
      · rw [List.mem_singleton.mp hnew]
        exact htable
    table := congrArg Prod.fst hretarget
    inTable := congrArg Prod.snd hretarget
    inConditions := h.inConditions
    last := h.last
    inJoins := h.inJoins
    inBranches := h.inBranches }

/-- Pointing at the empty name changes nothing. -/
theorem unnamed (h : s.Reflects tables inConditions joins inBranches) {table : String}
    (htable : table.isEmpty = true) :
    (s.take (.target table)).Reflects tables inConditions joins inBranches := by
  have hsame : s.take (.target table) = s := by simp [Kept.take, retarget, htable]
  rw [hsame]
  exact h

/-- **A call about conditions**: the first of its misuses is kept if there was none. -/
theorem conditions (h : s.Reflects tables inConditions joins inBranches) (misuses : List Misuse) :
    (s.take (.conditions misuses)).Reflects tables (inConditions ++ misuses) joins inBranches where
  named := h.named
  table := h.table
  inTable := h.inTable
  inConditions := by
    rw [List.head?_append, ← h.inConditions]
    rfl
  last := h.last
  inJoins := h.inJoins
  inBranches := h.inBranches

/-- **A call about joins.** -/
theorem join (h : s.Reflects tables inConditions joins inBranches) (step : JoinStep) :
    (s.take (.join step)).Reflects tables inConditions (joins ++ [step]) inBranches := by
  have hjoins : (s.joins.step step).joins.getLast?.map (fun j => (j.kind, j.table)) =
        Report.lastJoin none (joins ++ [step]) ∧
      (s.joins.step step).misuse = (Report.ofJoins none (joins ++ [step])).head? := by
    rw [Report.lastJoin_append, Report.ofJoins_append, List.head?_append, ← h.last, ← h.inJoins]
    cases step with
    | join kind table called =>
      refine ⟨by simp [JoinClause.step, JoinClause.push, Report.lastJoin], ?_⟩
      exact Option.or_none.symm
    | on predicate =>
      obtain ⟨hlast, hmisuse⟩ := s.joins.on_eq predicate
      refine ⟨hlast, hmisuse.trans ?_⟩
      rw [Report.ofJoins, Report.ofJoins, List.append_nil]
  exact {
    named := h.named
    table := h.table
    inTable := h.inTable
    inConditions := h.inConditions
    last := hjoins.1
    inJoins := hjoins.2
    inBranches := h.inBranches }

/-- **A union branch**: the first of its misuses is kept if there was none. -/
theorem branch (h : s.Reflects tables inConditions joins inBranches) (misuses : List Misuse) :
    (s.take (.branch misuses)).Reflects tables inConditions joins (inBranches ++ misuses) where
  named := h.named
  table := h.table
  inTable := h.inTable
  inConditions := h.inConditions
  last := h.last
  inJoins := h.inJoins
  inBranches := by
    rw [List.head?_append, ← h.inBranches]
    rfl

/-- **The first misuse that is kept** is the first one of all. -/
theorem first_eq (h : s.Reflects tables inConditions joins inBranches) :
    s.first = (Report.ofTables tables ++ inConditions ++ Report.ofJoins none joins
      ++ inBranches).head? := by
  rw [List.head?_append, List.head?_append, List.head?_append, ← h.inTable, ← h.inConditions,
    ← h.inJoins, ← h.inBranches, Kept.first, Option.or_assoc, Option.or_assoc]

end Kept.Reflects

namespace Kept

/-- What is kept reflects the reports that are not forgotten. -/
def ReflectsAll (s : Kept) (live : List Report) : Prop :=
  s.Reflects (live.filterMap Report.table?) (live.flatMap Report.inConditions)
    (live.filterMap Report.joinStep?) (live.flatMap Report.inBranch)

theorem reflectsAll_nil : ({} : Kept).ReflectsAll [] where
  named := by
    intro table h
    cases h
  table := rfl
  inTable := rfl
  inConditions := rfl
  last := rfl
  inJoins := rfl
  inBranches := rfl

/-- What one report more adds to the lists. -/
theorem reflectsAll_concat {s : Kept} {live : List Report} {r : Report} :
    s.ReflectsAll (live ++ [r]) ↔
      s.Reflects (live.filterMap Report.table? ++ r.table?.toList)
        (live.flatMap Report.inConditions ++ r.inConditions)
        (live.filterMap Report.joinStep? ++ r.joinStep?.toList)
        (live.flatMap Report.inBranch ++ r.inBranch) := by
  have hone : ∀ {α : Type} (f : Report → Option α), [r].filterMap f = (f r).toList := by
    intro α f
    cases h : f r <;> simp [h]
  rw [ReflectsAll, List.filterMap_append, List.filterMap_append, List.flatMap_append,
    List.flatMap_append, hone, hone, List.flatMap_singleton, List.flatMap_singleton]

/-- **One report more** is one more element of its list. -/
theorem ReflectsAll.take {s : Kept} {live : List Report} (h : s.ReflectsAll live) {r : Report}
    (hr : r.isClean = false) : (s.take r).ReflectsAll (live ++ [r]) := by
  rw [reflectsAll_concat]
  cases r with
  | target table =>
    by_cases htable : table.isEmpty = true
    · simpa [Report.table?, Report.inConditions, Report.joinStep?, Report.inBranch, htable] using
        h.unnamed htable
    · have hname : table.isEmpty = false := Bool.eq_false_iff.mpr htable
      simpa [Report.table?, Report.inConditions, Report.joinStep?, Report.inBranch, hname] using
        h.target hname
  | conditions misuses =>
    simpa [Report.table?, Report.inConditions, Report.joinStep?, Report.inBranch] using
      h.conditions misuses
  | join step =>
    simpa [Report.table?, Report.inConditions, Report.joinStep?, Report.inBranch] using h.join step
  | branch misuses =>
    simpa [Report.table?, Report.inConditions, Report.joinStep?, Report.inBranch] using
      h.branch misuses
  | clean => cases hr
  | harmless =>
    show s.Reflects (_ ++ []) (_ ++ []) (_ ++ []) (_ ++ [])
    simp only [List.append_nil]
    exact h

/-- **After any reports** what is kept reflects those since everything was forgotten last. -/
theorem reflectsAll_foldl (reports : List Report) :
    (reports.foldl take {}).ReflectsAll (Report.sinceClean reports) := by
  -- the last report decides whether anything before it still counts
  induction reports using List.reverseRecOn with
  | nil => exact reflectsAll_nil
  | append_singleton reports r ih =>
    rw [List.foldl_append, Report.sinceClean, List.rtakeWhile_concat]
    cases hr : r.isClean with
    | false => exact ih.take hr
    | true =>
      cases r with
      | clean => exact reflectsAll_nil
      | _ => cases hr

/-- **A chain of calls** changes what is kept as the reports of its calls do, if one call does. -/
theorem eq_foldl_take {Q Step : Type} {kept : Q → Kept} {step : Q → Step → Q}
    {report : Step → Report} (h : ∀ q s, kept (step q s) = (kept q).take (report s))
    (steps : List Step) (q : Q) :
    kept (steps.foldl step q) = (steps.map report).foldl take (kept q) := by
  rw [List.foldl_map]
  exact (List.foldl_hom kept fun q s => (h q s).symm).symm

/-- **After any reports** the first misuse that is kept is the first one in the list. -/
theorem first_foldl (reports : List Report) :
    (reports.foldl take {}).first = (Report.misuses reports).head? :=
  (reflectsAll_foldl reports).first_eq

end Kept

/-! ## Chains that build a SELECT statement -/

/-- What a SELECT statement keeps. -/
def Select.kept (q : Select) : Kept where
  table := q.table
  inTable := q.misuse
  inConditions := q.wheres.misuse
  joins := q.joins
  inBranches := Select.misuseOfBranches? q.unions

/-- The first misuse in a SELECT statement is the first one that it keeps. -/
theorem Select.misuse?_eq_first (q : Select) : q.misuse? = q.kept.first := q.misuse?_eq

theorem Select.misuseOfBranches?_concat (unions : List UnionBranch) (all : Bool) (query : Select) :
    Select.misuseOfBranches? (unions ++ [⟨all, query⟩]) =
      (Select.misuseOfBranches? unions).or query.misuse? := by
  induction unions with
  | nil => simp [Select.misuseOfBranches?]
  | cons branch unions ih =>
    obtain ⟨all', query'⟩ := branch
    rw [List.cons_append, Select.misuseOfBranches?, ih, Select.misuseOfBranches?, Option.or_assoc]

/-- **A misuse is recorded** if it is the first one of the clause. -/
theorem WhereClause.misuse_pushSubquery (clause : WhereClause) (query : Select) (wanted : Bool) :
    (clause.pushSubquery query wanted).misuse = clause.misuse.or query.misuse? := by
  unfold pushSubquery
  cases query.misuse? with
  | some misuse => rfl
  | none => exact Option.or_none.symm

mutual

/-- **One call about conditions**: the first of its misuses is kept if there was none. -/
theorem WhereClause.misuse_step (clause : WhereClause) : ∀ step : WhereStep,
    (clause.step step).misuse = clause.misuse.or step.misuses.head?
  | .compare joiner column op value => Option.or_none.symm
  | .compareBy column text value => by
    simp only [WhereClause.step, WhereStep.misuses]
    cases Operator.ofText? text with
    | some op => exact Option.or_none.symm
    | none => rfl
  | .null joiner column wanted => Option.or_none.symm
  | .between joiner column low high wanted => Option.or_none.symm
  | .among joiner column values wanted => Option.or_none.symm
  | .raw joiner sql bindings => Option.or_none.symm
  | .related joiner table column parent wanted => Option.or_none.symm
  | .subquery steps wanted => by
    have hkept := Select.kept_steps .empty steps
    simp only [WhereClause.step, WhereStep.misuses]
    rw [WhereClause.misuse_pushSubquery, Select.misuse?_eq_first, hkept]
    exact congrArg _ (Kept.first_foldl _)
  | .group joiner steps => by
    have hgroup := WhereClause.misuse_steps .empty steps
    simp only [WhereClause.step, WhereStep.misuses]
    show clause.misuse.or (WhereClause.empty.steps steps).misuse = _
    rw [hgroup]
    rfl

/-- Calls about conditions, one after the other. -/
theorem WhereClause.misuse_steps (clause : WhereClause) : ∀ steps : List WhereStep,
    (clause.steps steps).misuse = clause.misuse.or (WhereStep.allMisuses steps).head?
  | [] => Option.or_none.symm
  | step :: steps => by
    rw [WhereClause.steps, WhereClause.misuse_steps (clause.step step) steps,
      WhereClause.misuse_step clause step, WhereStep.allMisuses, List.head?_append, Option.or_assoc]

/-- **One call about a SELECT statement** changes what it keeps as its report says. -/
theorem Select.kept_step (q : Select) : ∀ step : SelectStep,
    (q.step step).kept = q.kept.take step.report
  | .target table => rfl
  | .targetAs table called => rfl
  | .columns columns => rfl
  | .distinct => rfl
  | .filter step => by
    have hmisuse := WhereClause.misuse_step q.wheres step
    simp only [Select.step, SelectStep.report]
    unfold Select.kept Kept.take
    rw [hmisuse]
  | .having step => rfl
  | .join step => rfl
  | .group column => rfl
  | .order column direction => rfl
  | .aggregate fn column called => rfl
  | .limit n => rfl
  | .offset n => rfl
  | .page page perPage => rfl
  | .union all steps => by
    have hkept := Select.kept_steps .empty steps
    have hbranch : (Select.empty.steps steps).misuse? =
        (Report.misuses (SelectStep.reports steps)).head? := by
      rw [Select.misuse?_eq_first, hkept]
      exact Kept.first_foldl _
    simp only [Select.step, SelectStep.report]
    unfold Select.kept Kept.take Select.union
    rw [Select.misuseOfBranches?_concat, hbranch]
  | .clean => rfl

/-- Calls about a SELECT statement, one after the other. -/
theorem Select.kept_steps (q : Select) : ∀ steps : List SelectStep,
    (q.steps steps).kept = (SelectStep.reports steps).foldl Kept.take q.kept
  | [] => rfl
  | step :: steps => by
    rw [Select.steps, Select.kept_steps (q.step step) steps, Select.kept_step q step,
      SelectStep.reports, List.foldl_cons]

end

/-- **A chain that builds a SELECT statement.** -/
theorem Select.misuse?_ofSteps (steps : List SelectStep) :
    (Select.ofSteps steps).misuse? = (ChainCall.misuses (steps.map SelectStep.call)).head? := by
  rw [Select.misuse?_eq_first, Select.ofSteps, Select.kept_steps, ChainCall.misuses,
    ← SelectStep.reports_eq_map]
  exact Kept.first_foldl _

/-! ## Chains that build other statements -/

/-- What an UPDATE statement keeps. -/
def Update.kept (q : Update) : Kept where
  table := q.table
  inTable := q.misuse
  inConditions := q.wheres.misuse
  joins := q.joins

/-- What is wrong with the values that an UPDATE statement sets. -/
def Update.payloadMisuse? (q : Update) : Option Misuse :=
  (Payload.misuse? q.data).or (if q.data.isEmpty then some .nothingToSet else none)

theorem Update.misuse?_eq_first (q : Update) :
    q.misuse? = q.kept.first.or q.payloadMisuse? := by
  unfold Update.misuse? Update.kept Kept.first Update.payloadMisuse?
  simp only [Option.or_none, Option.or_assoc]

theorem Update.kept_step (q : Update) (step : UpdateStep) :
    (q.step step).kept = q.kept.take step.call.report := by
  cases step with
  | filter step =>
    show { q.kept with inConditions := (q.wheres.step step).misuse } = _
    rw [WhereClause.misuse_step]
    rfl
  | _ => rfl

/-- **A chain that builds an UPDATE statement**: its values are looked at last. -/
theorem Update.misuse?_foldl (steps : List UpdateStep) :
    (steps.foldl Update.step {}).misuse? =
      (ChainCall.misuses (steps.map UpdateStep.call)).head?.or
        (steps.foldl Update.step {}).payloadMisuse? := by
  rw [Update.misuse?_eq_first, Kept.eq_foldl_take Update.kept_step, ChainCall.misuses,
    List.map_map]
  exact congrArg (Option.or · _) (Kept.first_foldl _)

/-- What a DELETE statement keeps. -/
def Delete.kept (q : Delete) : Kept where
  table := q.table
  inTable := q.misuse
  inConditions := q.wheres.misuse
  joins := q.joins

theorem Delete.misuse?_eq_first (q : Delete) : q.misuse? = q.kept.first := by
  unfold Delete.misuse? Delete.kept Kept.first
  rw [Option.or_none]

theorem Delete.kept_step (q : Delete) (step : DeleteStep) :
    (q.step step).kept = q.kept.take step.call.report := by
  cases step with
  | filter step =>
    show { q.kept with inConditions := (q.wheres.step step).misuse } = _
    rw [WhereClause.misuse_step]
    rfl
  | _ => rfl

/-- **A chain that builds a DELETE statement.** -/
theorem Delete.misuse?_foldl (steps : List DeleteStep) :
    (steps.foldl Delete.step {}).misuse? =
      (ChainCall.misuses (steps.map DeleteStep.call)).head? := by
  rw [Delete.misuse?_eq_first, Kept.eq_foldl_take Delete.kept_step, ChainCall.misuses,
    List.map_map]
  exact Kept.first_foldl _

/-! ## Queries of a model -/

/-- What a statement sets is wrong; only an UPDATE statement sets anything. -/
def Statement.payloadMisuse? : Statement → Option Misuse
  | .update q => q.payloadMisuse?
  | _ => none

namespace ModelQuery

/-- What the statement of a query of a model keeps. -/
def kept (q : ModelQuery) : Kept := q.select.kept

/-- **The calls behind a query** of a model: it is pointed at the model's table first. -/
def calls (s : Schema) (steps : List ModelStep) : List ChainCall :=
  .target s.table :: steps.map ModelStep.call

theorem take_conditions_nil (s : Kept) : s.take (.conditions []) = s := by
  show { s with inConditions := s.inConditions.or none } = s
  rw [Option.or_none]

/-- **One call on a query of a model** changes what its statement keeps as its report says. -/
theorem kept_step (q : ModelQuery) (step : ModelStep) :
    (q.step step).kept = q.kept.take step.call.report := by
  cases step with
  | filter step => exact Select.kept_step q.select (.filter step)
  | related other wanted =>
    have hfilter := Select.kept_step q.select
      (.filter (.related .and other.table none (some q.schema.primaryKey) wanted))
    exact hfilter.trans (take_conditions_nil q.kept)
  | _ => rfl

/-- **A chain on a query of a model** keeps the first misuse of its calls. -/
theorem first_kept_foldl (s : Schema) (steps : List ModelStep) :
    (steps.foldl step (.ofSchema s)).kept.first = (ChainCall.misuses (calls s steps)).head? := by
  rw [Kept.eq_foldl_take kept_step, ChainCall.misuses, calls, List.map_cons, List.map_map]
  exact Kept.first_foldl (.target s.table :: steps.map (ChainCall.report ∘ ModelStep.call))

/-- A query of a model is never pointed at a second table, and it has no branches. -/
theorem untouched_foldl (s : Schema) (steps : List ModelStep) :
    (steps.foldl step (.ofSchema s)).kept.inTable = none ∧
      (steps.foldl step (.ofSchema s)).kept.inBranches = none := by
  have hstep : ∀ (q : ModelQuery) (st : ModelStep),
      (q.step st).kept.inTable = q.kept.inTable ∧
        (q.step st).kept.inBranches = q.kept.inBranches := by
    intro q st
    cases st <;> exact ⟨rfl, rfl⟩
  have hrun : ∀ q : ModelQuery, (steps.foldl step q).kept.inTable = q.kept.inTable ∧
      (steps.foldl step q).kept.inBranches = q.kept.inBranches := by
    induction steps with
    | nil => exact fun q => ⟨rfl, rfl⟩
    | cons st steps ih =>
      intro q
      obtain ⟨htable, hbranches⟩ := ih (q.step st)
      obtain ⟨htable', hbranches'⟩ := hstep q st
      exact ⟨htable.trans htable', hbranches.trans hbranches'⟩
  obtain ⟨htable, hbranches⟩ := hrun (.ofSchema s)
  refine ⟨htable.trans ?_, hbranches⟩
  show (retarget "" none s.table).2 = none
  rw [retarget_new]

theorem misuse_scopedWhere (q : ModelQuery) : q.scopedWhere.misuse = q.select.wheres.misuse := by
  unfold scopedWhere
  cases q.trashFilter with
  | none => rfl
  | some filter => rfl

theorem kept_statement (q : ModelQuery) : q.statement.kept = q.kept := by
  show { q.kept with inConditions := q.scopedWhere.misuse } = q.kept
  rw [misuse_scopedWhere]
  rfl

/-- The update of a query has its conditions and joins, and a payload of its own. -/
theorem misuse?_updating {q : ModelQuery} (htable : q.kept.inTable = none)
    (hbranches : q.kept.inBranches = none) (data : Payload) :
    (q.updating data).misuse? = q.kept.first.or (q.updating data).payloadMisuse? := by
  have hkept : (q.updating data).kept.first = q.kept.first := by
    rw [Kept.first, Kept.first, htable, hbranches]
    show ((retarget "" none q.schema.table).2).or (q.scopedWhere.misuse.or _) = _
    rw [misuse_scopedWhere, retarget_new]
    rfl
  rw [Update.misuse?_eq_first, hkept]

/-- The removal of a query has its conditions and joins. -/
theorem misuse?_forceDeleting {q : ModelQuery} (htable : q.kept.inTable = none)
    (hbranches : q.kept.inBranches = none) : q.forceDeleting.misuse? = q.kept.first := by
  rw [Delete.misuse?_eq_first, Kept.first, Kept.first, htable, hbranches]
  show ((retarget "" none q.schema.table).2).or (q.scopedWhere.misuse.or _) = _
  rw [misuse_scopedWhere, retarget_new]
  rfl

end ModelQuery

namespace ModelMethod

/-- **The statement of a method** has the first misuse of the query, and else that of its values. -/
theorem misuse?_statement {q : ModelQuery} (htable : q.kept.inTable = none)
    (hbranches : q.kept.inBranches = none) {method : ModelMethod} {now : DateTime} {s : Statement}
    (hs : method.statement? now q = some s) :
    s.misuse? = q.kept.first.or s.payloadMisuse? := by
  have hselect : ∀ select : Select, select.kept = q.kept →
      (Statement.select select).misuse? = q.kept.first.or none := by
    intro select hkept
    rw [Option.or_none, ← hkept]
    exact select.misuse?_eq_first
  cases method with
  | get | first | last | isInhabited | count | aggregate =>
    cases hs
    exact hselect _ q.kept_statement
  | find id =>
    cases hs
    refine hselect _ ((q.found id).kept_statement.trans ?_)
    exact (q.kept_step _).trans (ModelQuery.take_conditions_nil q.kept)
  | update data =>
    cases hs
    exact ModelQuery.misuse?_updating htable hbranches _
  | delete =>
    cases hs
    unfold ModelQuery.deleting
    cases q.schema.softDelete with
    | none => exact (ModelQuery.misuse?_forceDeleting htable hbranches).trans Option.or_none.symm
    | some column => exact ModelQuery.misuse?_updating htable hbranches _
  | forceDelete =>
    cases hs
    exact (ModelQuery.misuse?_forceDeleting htable hbranches).trans Option.or_none.symm
  | restore =>
    obtain ⟨update, hupdate, rfl⟩ := Option.map_eq_some_iff.mp hs
    obtain ⟨column, -, rfl⟩ := Option.map_eq_some_iff.mp hupdate
    exact ModelQuery.misuse?_updating (q := { q with trashed := .only }) htable hbranches _

end ModelMethod

end FluentSql
