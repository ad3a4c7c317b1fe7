import FluentSql.Proofs.Pipeline
import FluentSql.Proofs.RelatedRows
import FluentSql.Proofs.Writes
/-!
# `FluentSql.Proofs.Counting` — the number of rows and the rows themselves

A query of a model counts its rows by one statement (`ModelQuery.count`) and fetches them by another
(`Model.get`). The second is the first without the aggregate: both carry the conditions, the order, the
limit and the offset of the query. But limit and offset are the last thing that a statement does, so
they cut rows out of what is fetched, and out of a count they cut its one row or nothing.

* `Select.answer` — the rows that a statement answers, clause by clause;
* `ModelQuery.answer_statement`, `ModelQuery.answer_counting` — what the two statements answer;
* `Model.counts_and_gets` — what the two methods make of it, and when they agree.
-/

namespace FluentSql

variable {σ α β : Type}

/-! ## What a statement answers -/

/-- **What statements are evaluated on**: the stored rows and what is true of them, the order in which an
    ORDER BY clause puts rows, and the aggregates other than counts of a column. -/
structure Evaluation extends Store where
  arrange : OrderClause → List Row → List Row
  perm_arrange : ∀ orders rows, (arrange orders rows).Perm rows
  aggregate : AggregateFn → Column → List Row → Value

namespace Select

/-- **How many rows have a value** in a column. -/
def countOf (q : Select) (column : String) (rows : List Row) : Nat :=
  rows.countP fun row => !(valueIn [(⟨q.table, q.called⟩, row)] column).isNull

/-- **An aggregate over rows.** COUNT leaves out the rows in which its column is null. -/
def aggregated (q : Select) (v : Evaluation) (rows : List Row) : AggregateFn → Column → Value
  | .count, .name column => .int (Int64.ofNat (q.countOf column rows))
  | fn, column => v.aggregate fn column rows

/-- **Aggregation**: with aggregates there is one row, which has their values under their aliases. -/
def collected (q : Select) (v : Evaluation) (rows : List Row) : List Row :=
  if q.aggregates.isEmpty then rows
  else [⟨AggregateFn.all.flatMap fun fn =>
    (q.aggregates.entriesOf fn).map fun (called, column) => (called, q.aggregated v rows fn column)⟩]

/-- How many rows OFFSET leaves out. -/
def skipped (q : Select) : Nat := (q.offset.map UInt64.toNat).getD 0

/-- **The page** of rows that OFFSET and LIMIT leave. -/
def paged (q : Select) (rows : List β) : List β :=
  match q.limit with
  | some most => (rows.drop q.skipped).take most.toNat
  | none => rows.drop q.skipped

/-- How many of `n` rows are on the page. -/
def pageSize (q : Select) (n : Nat) : Nat :=
  match q.limit with
  | some most => min most.toNat (n - q.skipped)
  | none => n - q.skipped

/-- **The rows that a statement answers**: WHERE, then aggregation, then ORDER BY, OFFSET and LIMIT. -/
def answer (q : Select) (st : Style) (v : Evaluation) : List Row :=
  q.paged (v.arrange q.orders (q.collected v (q.rowsIn st v.toStore)))

/-- **A flat statement** has no clause but those that `Select.answer` reads. Each of its aggregates has
    an alias that is written. -/
structure IsFlat (q : Select) : Prop where
  clauses : q = { Select.empty with
    table := q.table, wheres := q.wheres, orders := q.orders, aggregates := q.aggregates,
    limit := q.limit, offset := q.offset }
  aliased : ∀ entry ∈ q.aggregates.entries, entry.1.2 ≠ entry.2.text

theorem length_paged (q : Select) (rows : List β) :
    (q.paged rows).length = q.pageSize rows.length := by
  unfold paged pageSize
  cases q.limit with
  | none => exact List.length_drop
  | some most =>
    dsimp only
    rw [List.length_take, List.length_drop]

theorem paged_sublist (q : Select) (rows : List β) : (q.paged rows).Sublist rows := by
  unfold paged
  cases q.limit with
  | none => exact List.drop_sublist _ _
  | some most => exact (List.take_sublist _ _).trans (List.drop_sublist _ _)

/-- One row is on the page or it is not. -/
theorem paged_singleton (q : Select) (a : β) :
    q.paged [a] = if q.pageSize 1 = 0 then [] else [a] := by
  have hlength : (q.paged [a]).length = q.pageSize 1 := q.length_paged [a]
  split
  · rename_i hnone
    exact List.length_eq_zero_iff.mp (hlength.trans hnone)
  · rename_i hsome
    apply (q.paged_sublist [a]).eq_of_length_le
    rw [hlength]
    exact Nat.one_le_iff_ne_zero.mpr hsome

theorem limit_eq_zero_iff {most : UInt64} : some most = some (0 : UInt64) ↔ most.toNat = 0 := by
  rw [Option.some_inj, ← UInt64.toNat_inj]
  rfl

/-- **One row is cut out** by a limit of zero, or by any offset but zero. -/
theorem pageSize_one_eq_zero_iff (q : Select) :
    q.pageSize 1 = 0 ↔ q.limit = some 0 ∨ 0 < q.skipped := by
  unfold pageSize
  cases q.limit with
  | none =>
    simp only [reduceCtorEq, false_or]
    omega
  | some most =>
    dsimp only
    rw [limit_eq_zero_iff]
    omega

/-- **When a page has as many rows as its rows are counted**: nothing is skipped and the limit is not
    exceeded; or the limit is zero; or all rows are skipped. -/
theorem counted_eq_pageSize_iff (q : Select) (n : Nat) :
    (if q.pageSize 1 = 0 then 0 else n) = q.pageSize n ↔
      (q.skipped = 0 ∧ ∀ most, q.limit = some most → n ≤ most.toNat) ∨ q.limit = some 0 ∨
        (0 < q.skipped ∧ n ≤ q.skipped) := by
  simp only [pageSize_one_eq_zero_iff]
  unfold pageSize
  cases q.limit with
  | none =>
    simp only [reduceCtorEq, false_or, false_imp_iff, implies_true, and_true]
    split <;> omega
  | some most =>
    -- first the limit of zero, which would else be taken apart as an equation of options
    simp only [limit_eq_zero_iff]
    simp only [Option.some.injEq, forall_eq']
    split <;> omega

end Select

/-! ## The two statements -/

/-- Whether a call neither joins nor groups. Conditions on groups are about groups. -/
def ModelStep.isFlat : ModelStep → Bool
  | .having _ | .join _ | .group _ => false
  | _ => true

/-- Whether a call is about limit or offset. -/
def ModelStep.pages : ModelStep → Bool
  | .limit _ | .offset _ => true
  | _ => false

/-- **A query of a model** that a chain of calls builds. -/
def Model.chained (m : Model α) (steps : List ModelStep) : ModelQuery :=
  steps.foldl ModelQuery.step m.query

/-- **Without calls about limit and offset** there is neither. -/
theorem Model.unpaged_chained (m : Model α) {steps : List ModelStep}
    (hsteps : ∀ step ∈ steps, step.pages = false) :
    (m.chained steps).select.limit = none ∧ (m.chained steps).select.offset = none := by
  have hrun : ∀ q : ModelQuery,
      (steps.foldl ModelQuery.step q).select.limit = q.select.limit ∧
        (steps.foldl ModelQuery.step q).select.offset = q.select.offset := by
    induction steps with
    | nil => exact fun q => ⟨rfl, rfl⟩
    | cons step steps ih =>
      intro q
      obtain ⟨hstep, hrest⟩ := List.forall_mem_cons.mp hsteps
      have hkept : (q.step step).select.limit = q.select.limit ∧
          (q.step step).select.offset = q.select.offset := by
        cases step with
        | limit _ | offset _ => cases hstep
        | _ => exact ⟨rfl, rfl⟩
      obtain ⟨hlimit, hoffset⟩ := ih hrest (q.step step)
      exact ⟨hlimit.trans hkept.1, hoffset.trans hkept.2⟩
  exact hrun m.query

namespace ModelQuery

/-- **A flat query** has no clause but conditions, order, limit and offset. -/
structure IsFlat (q : ModelQuery) : Prop where
  clauses : q.select = { Select.empty with
    table := q.select.table, wheres := q.select.wheres, orders := q.select.orders,
    limit := q.select.limit, offset := q.select.offset }
  table : q.select.table = q.schema.table

theorem isFlat_ofSchema (s : Schema) : (ofSchema s).IsFlat := by
  unfold ofSchema
  rw [Select.target_empty]
  exact ⟨rfl, rfl⟩

/-- **A call that neither joins nor groups** leaves a query flat. -/
theorem IsFlat.step {q : ModelQuery} (h : q.IsFlat) {step : ModelStep} (hstep : step.isFlat = true) :
    (q.step step).IsFlat := by
  cases step with
  | filter step => exact ⟨congrArg (Select.mapWheres · (·.step step)) h.clauses, h.table⟩
  | order column direction =>
    exact ⟨congrArg (Select.orderBy · column direction) h.clauses, h.table⟩
  | limit n => exact ⟨congrArg (Select.take · n) h.clauses, h.table⟩
  | offset n => exact ⟨congrArg (Select.skip · n) h.clauses, h.table⟩
  | trashed which => exact ⟨h.clauses, h.table⟩
  | related other wanted =>
    exact ⟨congrArg (Select.mapWheres ·
      (·.step (.related .and other.table none (some q.schema.primaryKey) wanted))) h.clauses, h.table⟩
  | having _ | join _ | group _ => cases hstep

theorem IsFlat.steps {q : ModelQuery} (h : q.IsFlat) {steps : List ModelStep}
    (hsteps : ∀ step ∈ steps, step.isFlat = true) : (steps.foldl ModelQuery.step q).IsFlat := by
  induction steps generalizing q with
  | nil => exact h
  | cons step steps ih =>
    obtain ⟨hstep, hrest⟩ := List.forall_mem_cons.mp hsteps
    exact ih (h.step hstep) hrest

/-- **The statement that counts** the rows of a query. -/
def counting (q : ModelQuery) : Select := q.aggregateStatement .count q.schema.primaryKey

theorem isFlat_statement {q : ModelQuery} (h : q.IsFlat) : q.statement.IsFlat := by
  have haggregates : q.statement.aggregates = {} := congrArg Select.aggregates h.clauses
  constructor
  · rw [haggregates]
    exact congrArg (fun select : Select => { select with wheres := q.scopedWhere }) h.clauses
  · intro entry hentry
    rw [haggregates] at hentry
    cases hentry

/-- The count has one aggregate, and its alias is longer than its column. -/
theorem aggregates_counting {q : ModelQuery} (h : q.IsFlat) :
    q.counting.aggregates.entries =
      [((.count, aggregateName .count q.schema.primaryKey), .name q.schema.primaryKey)] := by
  have haggregates : q.statement.aggregates = {} := congrArg Select.aggregates h.clauses
  show (q.statement.aggregates.push _ _ _).entries = _
  rw [haggregates]
  rfl

theorem isFlat_counting {q : ModelQuery} (h : q.IsFlat) : q.counting.IsFlat := by
  constructor
  · exact congrArg (fun select : Select =>
      { select with wheres := q.scopedWhere, aggregates := q.counting.aggregates }) h.clauses
  · intro entry hentry
    rw [aggregates_counting h, List.mem_singleton] at hentry
    rw [hentry]
    show aggregateName .count q.schema.primaryKey ≠ q.schema.primaryKey
    intro heq
    have hlength := congrArg String.length heq
    rw [aggregateName, String.length_append, String.length_append] at hlength
    have hlabel : AggregateFn.count.label.length = 5 := by decide
    omega

/-- Counting what is misused is misused alike. -/
theorem misuse?_counting (q : ModelQuery) : q.counting.misuse? = q.statement.misuse? := by
  rw [Select.misuse?_eq, Select.misuse?_eq]
  rfl

/-- Rows with a primary key are all counted. -/
theorem countOf_counting {q : ModelQuery} (hkey : isPlainName q.schema.primaryKey = true)
    {rows : List Row} (hrows : ∀ row ∈ rows, (row.value q.schema.primaryKey).isNull = false) :
    q.counting.countOf q.schema.primaryKey rows = rows.length := by
  unfold Select.countOf
  rw [List.countP_eq_length]
  intro row hrow
  rw [valueIn_of_isPlainName _ _ hkey, hrows row hrow]
  rfl

section

variable {q : ModelQuery} (h : q.IsFlat) (st : Style) (v : Evaluation)
include h

/-- **The rows of a query**: a page of the rows that its conditions take, in its order. -/
theorem answer_statement :
    q.statement.answer st v =
      q.select.paged (v.arrange q.select.orders (q.statement.rowsIn st v.toStore)) := by
  have haggregates : q.statement.aggregates = {} := congrArg Select.aggregates h.clauses
  unfold Select.answer Select.collected
  rw [haggregates]
  rfl

theorem length_answer_statement :
    (q.statement.answer st v).length =
      q.select.pageSize (q.statement.rowsIn st v.toStore).length := by
  rw [answer_statement h, Select.length_paged, (v.perm_arrange _ _).length_eq]

/-- **The count of a query**: one row with the number of all rows that its conditions take, or no row
    if limit and offset cut it out. -/
theorem answer_counting (hkey : isPlainName q.schema.primaryKey = true)
    (hkeys : ∀ row ∈ v.rows q.schema.table, (row.value q.schema.primaryKey).isNull = false) :
    q.counting.answer st v =
      if q.select.pageSize 1 = 0 then []
      else [⟨[(aggregateName .count q.schema.primaryKey,
        .int (Int64.ofNat (q.statement.rowsIn st v.toStore).length))]⟩] := by
  have hrows : q.counting.rowsIn st v.toStore = q.statement.rowsIn st v.toStore := rfl
  have hcounted : q.counting.countOf q.schema.primaryKey (q.counting.rowsIn st v.toStore) =
      (q.statement.rowsIn st v.toStore).length := by
    rw [hrows]
    refine countOf_counting hkey fun row hrow => hkeys row ?_
    rw [← h.table]
    exact (List.mem_filter.mp hrow).1
  have hcollected : q.counting.collected v (q.counting.rowsIn st v.toStore) =
      [⟨[(aggregateName .count q.schema.primaryKey,
        .int (Int64.ofNat (q.statement.rowsIn st v.toStore).length))]⟩] := by
    unfold Select.collected AggregateClause.entriesOf OrderedMap.isEmpty
    rw [aggregates_counting h, ← hcounted]
    rfl
  unfold Select.answer
  rw [hcollected, List.perm_singleton.mp (v.perm_arrange _ _)]
  exact Select.paged_singleton q.select _

end

end ModelQuery

/-! ## The two methods -/

/-- **An executor answers a statement** by what it means, whatever its own state is: with all rows, or
    with the first one where no more is asked for.

    What a statement means is read off its conditions test by test, and a raw fragment or a range with one
    bound counts as one test. A database reads on instead: it takes an OR of the fragment for one of the
    statement, and the next AND for that of the range. So of a database this can be asked only where the
    conditions hold neither (`Conditions.areRawFree`, `Conditions.fitRanges`). -/
structure Executor.Answers (e : Executor σ) (st : Style) (v : Evaluation) (q : Select) : Prop where
  all : ∀ state, (e.fetchAll ((Statement.select q).build st).sql
    (Bind.ofParams ((Statement.select q).build st).params) state).1 = .ok (q.answer st v)
  first : ∀ state, (e.fetchOne ((Statement.select q).build st).sql
    (Bind.ofParams ((Statement.select q).build st).params) state).1 = .ok (q.answer st v).head?

/-- An executor that fetches one row as the first of all answers a statement if it fetches all rows. -/
theorem Executor.answers_of_fetchAll {e : Executor σ} {st : Style} {v : Evaluation} {q : Select}
    (hone : ∀ sql binds, e.fetchOne sql binds = (e.fetchAll sql binds).first)
    (hall : ∀ state, (e.fetchAll ((Statement.select q).build st).sql
      (Bind.ofParams ((Statement.select q).build st).params) state).1 = .ok (q.answer st v)) :
    e.Answers st v q := by
  refine ⟨hall, fun state => ?_⟩
  have hstate := hall state
  rw [hone]
  unfold Call.first
  generalize e.fetchAll _ _ state = result at hstate ⊢
  obtain ⟨answer, after⟩ := result
  cases hstate
  rfl

/-- A statement with a table has a text. -/
theorem Select.sql_ne_empty (st : Style) {q : Select} (h : q.table ≠ "") :
    ((Statement.select q).build st).sql ≠ "" := by
  rw [Ne, ← String.isEmpty_iff, Select.isEmpty_sql, String.isEmpty_iff]
  exact h

/-- What comes after an answer. -/
theorem Run.answer_bind {x : Run σ α} {session : Session σ} {a : α}
    (h : (x.outcome session).1 = .ok a) (f : α → Run σ β) :
    ∃ after, (x >>= f).outcome session = (f a).outcome after := by
  rw [Run.outcome_bind]
  generalize x.outcome session = result at h ⊢
  obtain ⟨answer, after⟩ := result
  cases h
  exact ⟨after, rfl⟩

/-- **The answer of a statement that is fit to be run** is that of the executor. -/
theorem Connection.answer_perform {c : Connection σ} {e : Executor σ} {s : Statement}
    (hc : c.executor = some e) (hmisuse : s.misuse? = none) (hsql : (s.build c.style).sql ≠ "")
    {call : Executor σ → String → List Bind → Call σ α} {a : α} {session : Session σ}
    (h : (c.handOver s call e session.state).1 = .ok a) :
    ((c.perform s call).outcome session).1 = .ok a := by
  rw [outcome_perform_of_fit hmisuse hsql, outcome_runBuilt hc]
  generalize c.handOver s call e session.state = result at h ⊢
  obtain ⟨answer, state⟩ := result
  cases h
  rfl

section

variable {c : Connection σ} {e : Executor σ} (hc : c.executor = some e) {v : Evaluation}
  {q : ModelQuery} (session : Session σ)
include hc

/-- **Fetching the rows**: they are read one by one. -/
theorem Model.answer_get (m : Model α) (hmisuse : q.statement.misuse? = none)
    (htable : q.statement.table ≠ "") (h : e.Answers c.style v q.statement) :
    ((m.get c q).outcome session).1 = (q.statement.answer c.style v).mapM m.ofRow := by
  have hsql : ((Statement.select q.statement).build c.style).sql ≠ "" :=
    Select.sql_ne_empty c.style htable
  have hfit : (Statement.select q.statement).misuse? = none := hmisuse
  have hfetch : ((c.fetchAll (.select q.statement)).outcome session).1 =
      .ok (q.statement.answer c.style v) :=
    Connection.answer_perform hc hfit hsql (h.all session.state)
  obtain ⟨after, hafter⟩ := Run.answer_bind hfetch fun rows => Run.ofExcept (rows.mapM m.ofRow)
  unfold get
  rw [hafter, Run.outcome_ofExcept]

/-- **Counting the rows**: no row is as good as a zero. -/
theorem ModelQuery.answer_count (hmisuse : q.statement.misuse? = none)
    (htable : q.statement.table ≠ "") (h : e.Answers c.style v q.counting) :
    ((q.count c).outcome session).1 = .ok (((((q.counting.answer c.style v).head?.bind
      (·.get? (aggregateName .count q.schema.primaryKey))).getD .null).asInteger).getD 0) := by
  have hsql : ((Statement.select q.counting).build c.style).sql ≠ "" :=
    Select.sql_ne_empty c.style htable
  have hfit : (Statement.select q.counting).misuse? = none := q.misuse?_counting.trans hmisuse
  have hfetch : ((c.fetchOne (.select q.counting)).outcome session).1 =
      .ok (q.counting.answer c.style v).head? :=
    Connection.answer_perform hc hfit hsql (h.first session.state)
  have hvalue : ((q.aggregateValue c .count q.schema.primaryKey).outcome session).1 =
      .ok (((q.counting.answer c.style v).head?.bind
        (·.get? (aggregateName .count q.schema.primaryKey))).getD .null) := by
    obtain ⟨after, hafter⟩ := Run.answer_bind hfetch fun row => pure
      ((row.bind (·.get? (aggregateName .count q.schema.primaryKey))).getD .null)
    unfold aggregateValue
    rw [counting] at hafter
    rw [hafter]
    rfl
  obtain ⟨after, hafter⟩ := Run.answer_bind hvalue fun value =>
    (pure (value.asInteger.getD 0) : Run σ Int64)
  unfold count
  rw [hafter]
  rfl

/-- **The number that is counted**: all rows that the conditions take, or zero if limit and offset cut
    out the row of the count. -/
theorem ModelQuery.count_of_isFlat (hq : q.IsFlat) (hkey : isPlainName q.schema.primaryKey = true)
    (hkeys : ∀ row ∈ v.rows q.schema.table, (row.value q.schema.primaryKey).isNull = false)
    (hmisuse : q.statement.misuse? = none) (htable : q.statement.table ≠ "")
    (h : e.Answers c.style v q.counting) :
    ((q.count c).outcome session).1 = .ok (Int64.ofNat
      (if q.select.pageSize 1 = 0 then 0 else (q.statement.rowsIn c.style v.toStore).length)) := by
  rw [answer_count hc session hmisuse htable h, answer_counting hq c.style v hkey hkeys]
  by_cases hnone : q.select.pageSize 1 = 0
  · rw [if_pos hnone, if_pos hnone]
    rfl
  · rw [if_neg hnone, if_neg hnone, List.head?_cons, Option.bind_some, Row.get?,
      List.lookup_cons_self]
    rfl

end

/-- **Counting rows and fetching them**, in a query that neither joins nor groups, on a table whose rows
    have primary keys, by an executor that answers both statements by what they mean. Both are flat, so
    that they mean what `Select.answer` says.

    A misused query is neither counted nor fetched. Else the fetched rows are a page of the rows that
    the conditions take. The count is the number of all that the conditions take; but it is zero if the
    limit is zero or the offset is not, for the one row of the count is cut out then.

    So the two agree if the offset is zero and the limit is not exceeded, in particular without calls
    about limit and offset; if the limit is zero; if the offset skips all rows; and in no other case. -/
theorem Model.counts_and_gets {c : Connection σ} {e : Executor σ} (hc : c.executor = some e)
    (m : Model α) (hm : m.IsNamed) (v : Evaluation) {steps : List ModelStep}
    (hsteps : ∀ step ∈ steps, step.isFlat = true)
    (hkeys : ∀ row ∈ v.rows m.table, (row.value m.primaryKey).isNull = false)
    (hget : e.Answers c.style v (m.chained steps).statement)
    (hcount : e.Answers c.style v (m.chained steps).counting) (session session' : Session σ) :
    let q := m.chained steps
    let fetched := q.statement.answer c.style v
    let taken := (q.statement.rowsIn c.style v.toStore).length
    let counted := if q.select.limit = some 0 ∨ 0 < q.select.skipped then 0 else taken
    q.statement.IsFlat ∧ q.counting.IsFlat ∧
    match q.statement.misuse? with
    | some misuse =>
      ((m.get c q).outcome session).1 = .error (.misuse misuse) ∧
        ((q.count c).outcome session').1 = .error (.misuse misuse)
    | none =>
      ((m.get c q).outcome session).1 = fetched.mapM m.ofRow ∧
      ((q.count c).outcome session').1 = .ok (Int64.ofNat counted) ∧
      fetched.length = q.select.pageSize taken ∧
      (counted = fetched.length ↔
        (q.select.skipped = 0 ∧ ∀ most, q.select.limit = some most → taken ≤ most.toNat) ∨
          q.select.limit = some 0 ∨ (0 < q.select.skipped ∧ taken ≤ q.select.skipped)) ∧
      ((∀ step ∈ steps, step.pages = false) → counted = fetched.length) := by
  intro q fetched taken counted
  have hflat : q.IsFlat := (ModelQuery.isFlat_ofSchema m.toSchema).steps hsteps
  have hschema : q.schema = m.toSchema := m.query.schema_steps steps
  have htable : q.statement.table ≠ "" := by
    rw [show q.statement.table = q.schema.table from hflat.table, hschema]
    exact hm.table
  refine ⟨ModelQuery.isFlat_statement hflat, ModelQuery.isFlat_counting hflat, ?_⟩
  cases hmisuse : q.statement.misuse? with
  | some misuse =>
    have hfetch : (c.fetchAll (.select q.statement)).outcome session =
        (.error (.misuse misuse), session) :=
      Connection.outcome_perform_of_error
        (Connection.check_of_misuse (s := .select q.statement) hmisuse) _ session
    have hone : (c.fetchOne (.select q.counting)).outcome session' =
        (.error (.misuse misuse), session') :=
      Connection.outcome_perform_of_error (Connection.check_of_misuse (s := .select q.counting)
        (q.misuse?_counting.trans hmisuse)) _ session'
    exact ⟨congrArg Prod.fst (Run.outcome_bind_of_error hfetch),
      congrArg Prod.fst (Run.outcome_bind_of_error (Run.outcome_bind_of_error hone))⟩
  | none =>
    have hcounted : counted = if q.select.pageSize 1 = 0 then 0 else taken := by
      simp only [counted, Select.pageSize_one_eq_zero_iff]
    have hlength : fetched.length = q.select.pageSize taken :=
      ModelQuery.length_answer_statement hflat c.style v
    have hagree : counted = fetched.length ↔
        (q.select.skipped = 0 ∧ ∀ most, q.select.limit = some most → taken ≤ most.toNat) ∨
          q.select.limit = some 0 ∨ (0 < q.select.skipped ∧ taken ≤ q.select.skipped) := by
      rw [hlength, hcounted]
      exact q.select.counted_eq_pageSize_iff taken
    refine ⟨answer_get hc session m hmisuse htable hget, ?_, hlength, hagree, ?_⟩
    · rw [hcounted]
      apply ModelQuery.count_of_isFlat hc session' hflat _ _ hmisuse htable hcount
      · rw [hschema]
        exact hm.primaryKey
      · rw [hschema]
        exact hkeys
    · intro hpages
      obtain ⟨hlimit, hoffset⟩ := m.unpaged_chained hpages
      have hskipped : q.select.skipped = 0 := by
        unfold Select.skipped
        rw [hoffset]
        rfl
      refine hagree.mpr (.inl ⟨hskipped, fun most hmost => ?_⟩)
      rw [hlimit] at hmost
      cases hmost

/-- An executor without a state that answers the given statements by what they mean, and nothing to any
    other. -/
def Executor.answering (st : Style) (v : Evaluation) (statements : List Select) : Executor Unit where
  driverName := "sqlite"
  execute _ _ state := (.ok 0, state)
  fetchAll sql _ state :=
    match statements.find? fun q => ((Statement.select q).build st).sql == sql with
    | some q => (.ok (q.answer st v), state)
    | none => (.ok [], state)
  lastInsertId state := (.ok none, state)

theorem Executor.answers_answering {st : Style} (v : Evaluation) {q q' : Select}
    (h : ((Statement.select q).build st).sql ≠ ((Statement.select q').build st).sql) :
    (answering st v [q, q']).Answers st v q ∧ (answering st v [q, q']).Answers st v q' := by
  constructor
  · exact answers_of_fetchAll (fun _ _ => rfl) fun state => by simp [answering]
  · exact answers_of_fetchAll (fun _ _ => rfl) fun state => by simp [answering, h]

/-- A user. -/
def Row.user (id : Int64) (name : String) : Row := ⟨[("id", .int id), ("name", .text name)]⟩

/-- Four users, stored in the order of their keys. -/
def Evaluation.fourUsers : Evaluation where
  rows
    | "users" => [.user 1 "Ann", .user 2 "Bob", .user 3 "Ann", .user 4 "Cy"]
    | _ => []
  same := Value.agrees
  decides _ _ := false
  arrange _ rows := rows
  perm_arrange _ rows := .refl rows
  aggregate _ _ _ := .null

/-- A connection to the four users, for one query. -/
def Connection.toFourUsers (q : ModelQuery) : Connection Unit where
  executor := some (.answering { dialect := .sqlite } .fourUsers [q.statement, q.counting])
  style := { dialect := .sqlite }

/-- All users called Ann, in the order of their keys, but no more than five. -/
def ModelStep.fiveAnns : List ModelStep :=
  [.filter (.compare .and (.name "name") .equal (.text "Ann")), .order (.name "id") .ascending, .limit 5]

/-- There are two, and two are counted. -/
theorem Model.fiveAnns_counted :
    let q := Model.users.chained ModelStep.fiveAnns
    let e := Executor.answering { dialect := .sqlite } .fourUsers [q.statement, q.counting]
    (∀ step ∈ ModelStep.fiveAnns, step.isFlat = true) ∧
      (∀ row ∈ Evaluation.fourUsers.rows Model.users.table,
        (row.value Model.users.primaryKey).isNull = false) ∧
      e.Answers { dialect := .sqlite } .fourUsers q.statement ∧
      e.Answers { dialect := .sqlite } .fourUsers q.counting ∧
      ((Model.users.get (.toFourUsers q) q).outcome { state := (), now := default }).1 =
        .ok [.ofPairs (Row.user 1 "Ann").columns, .ofPairs (Row.user 3 "Ann").columns] ∧
      ((q.count (.toFourUsers q)).outcome { state := (), now := default }).1 = .ok 2 := by
  intro q e
  have hflat : ∀ step ∈ ModelStep.fiveAnns, step.isFlat = true := by decide
  have hkeys : ∀ row ∈ Evaluation.fourUsers.rows Model.users.table,
      (row.value Model.users.primaryKey).isNull = false := by decide
  have htexts : ((Statement.select q.statement).build { dialect := .sqlite }).sql ≠
      ((Statement.select q.counting).build { dialect := .sqlite }).sql := by decide +kernel
  obtain ⟨hget, hcount⟩ := Executor.answers_answering .fourUsers htexts
  obtain ⟨-, -, hruns⟩ := Model.counts_and_gets (c := .toFourUsers q) (e := e) rfl Model.users
    isNamed_users .fourUsers hflat hkeys hget hcount { state := (), now := default }
    { state := (), now := default }
  have hmisuse : q.statement.misuse? = none := by decide
  rw [show (Model.users.chained ModelStep.fiveAnns).statement.misuse? = none from hmisuse] at hruns
  obtain ⟨hfetched, hcounted, -⟩ := hruns
  exact ⟨hflat, hkeys, hget, hcount, hfetched, hcounted⟩

/-- Users two and three. -/
def ModelStep.secondAndThird : List ModelStep := [.limit 2, .offset 1]

/-- **There are two of them, and none is counted.** -/
theorem Model.secondAndThird_miscounted :
    let q := Model.users.chained ModelStep.secondAndThird
    let e := Executor.answering { dialect := .sqlite } .fourUsers [q.statement, q.counting]
    (∀ step ∈ ModelStep.secondAndThird, step.isFlat = true) ∧
      (∀ row ∈ Evaluation.fourUsers.rows Model.users.table,
        (row.value Model.users.primaryKey).isNull = false) ∧
      e.Answers { dialect := .sqlite } .fourUsers q.statement ∧
      e.Answers { dialect := .sqlite } .fourUsers q.counting ∧
      ((Model.users.get (.toFourUsers q) q).outcome { state := (), now := default }).1 =
        .ok [.ofPairs (Row.user 2 "Bob").columns, .ofPairs (Row.user 3 "Ann").columns] ∧
      ((q.count (.toFourUsers q)).outcome { state := (), now := default }).1 = .ok 0 := by
  intro q e
  have htexts : ((Statement.select q.statement).build { dialect := .sqlite }).sql ≠
      ((Statement.select q.counting).build { dialect := .sqlite }).sql := by decide +kernel
  obtain ⟨hget, hcount⟩ := Executor.answers_answering .fourUsers htexts
  have hmisuse : q.statement.misuse? = none := by decide
  have htable : q.statement.table ≠ "" := by decide
  refine ⟨by decide, by decide, hget, hcount, ?_, ?_⟩
  · rw [answer_get (c := .toFourUsers q) (e := e) rfl _ _ hmisuse htable hget]
    rfl
  · rw [ModelQuery.answer_count (c := .toFourUsers q) (e := e) rfl _ hmisuse htable hcount]
    rfl

end FluentSql
