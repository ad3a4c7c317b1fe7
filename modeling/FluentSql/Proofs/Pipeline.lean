import FluentSql.Proofs.Recording
/-!
# `FluentSql.Proofs.Pipeline` — in which order a statement is run

The executor is any function on a state of its own, and the logger has any setting. The relation
`Connection.Pipeline` says what a run comes to without computing it: five rules, one for each point at
which a run can end.

* `Connection.exists_pipeline` — some rule applies;
* `Connection.outcome_perform_of_pipeline` — the rule that applies is what the run comes to;
* `Connection.runs_through_pipeline` — the same for every way to ask for a statement's answer.
-/

namespace FluentSql

variable {σ α β : Type}

/-! ## What is seen of a run -/

namespace Session

/-- The session after events were logged. -/
def logged (session : Session σ) (events : List Event) : Session σ :=
  { session with events := session.events ++ events }

/-- The session after the executor was called once and left a state behind. -/
def called (session : Session σ) (state : σ) : Session σ :=
  { session with state := state, calledAfter := session.calledAfter ++ [session.events.length] }

end Session

/-- **What is logged before a statement is handed over**: one event if the logger is on. -/
def Connection.announcement (c : Connection σ) (s : Statement) : List Event :=
  if c.logger.enabled then
    [.statement c.logger.level s.kind (s.build c.style).params.size
      (c.logger.shorten (s.build c.style).sql)]
  else []

/-- A call of the executor with the text of a statement and its binds. -/
def Connection.handOver (c : Connection σ) (s : Statement)
    (call : Executor σ → String → List Bind → Call σ α) (e : Executor σ) : Call σ α :=
  call e (s.build c.style).sql (Bind.ofParams (s.build c.style).params)

/-- **The pipeline** of a statement whose answer is asked for by a call of the executor. -/
inductive Connection.Pipeline (c : Connection σ) (s : Statement)
    (call : Executor σ → String → List Bind → Call σ α) (session : Session σ) :
    Except Error α → Session σ → Prop where
  /-- What was misused is not run. -/
  | misused {misuse : Misuse} (hmisuse : s.misuse? = some misuse) :
      Pipeline c s call session (.error (.misuse misuse)) session
  /-- A statement without text is not run. -/
  | blank (hmisuse : s.misuse? = none) (hsql : (s.build c.style).sql = "") :
      Pipeline c s call session (.error .emptyStatement) session
  /-- Nothing is run without an executor. -/
  | offline (hmisuse : s.misuse? = none) (hsql : (s.build c.style).sql ≠ "")
      (hc : c.executor = none) : Pipeline c s call session (.error .noConnection) session
  /-- A statement is announced and handed over once. -/
  | answered {e : Executor σ} {a : α} {state : σ} (hmisuse : s.misuse? = none)
      (hsql : (s.build c.style).sql ≠ "") (hc : c.executor = some e)
      (hcall : c.handOver s call e session.state = (.ok a, state)) :
      Pipeline c s call session (.ok a) ((session.logged (c.announcement s)).called state)
  /-- If it fails there, the failure is logged and the error stays as it is. -/
  | failed {e : Executor σ} {error : Error} {state : σ} (hmisuse : s.misuse? = none)
      (hsql : (s.build c.style).sql ≠ "") (hc : c.executor = some e)
      (hcall : c.handOver s call e session.state = (.error error, state)) :
      Pipeline c s call session (.error error)
        (((session.logged (c.announcement s)).called state).logged
          [.failure s.kind (c.logger.shorten (s.build c.style).sql) error])

namespace Connection

variable {c : Connection σ} {s : Statement} {call : Executor σ → String → List Bind → Call σ α}
  {session after : Session σ} {answer : Except Error α}

/-! ## One statement -/

theorem check_of_misuse {misuse : Misuse} (h : s.misuse? = some misuse) :
    s.check c.style = .error (.misuse misuse) := by
  unfold Statement.check Statement.validate
  rw [h]
  rfl

theorem check_of_blank (h : s.misuse? = none) (hsql : (s.build c.style).sql = "") :
    s.check c.style = .error .emptyStatement := by
  have hempty : (s.build c.style).sql.isEmpty = true := String.isEmpty_iff.mpr hsql
  unfold Statement.check Statement.validate
  rw [h]
  exact if_pos hempty

theorem check_of_fit (h : s.misuse? = none) (hsql : (s.build c.style).sql ≠ "") :
    s.check c.style = .ok (s.build c.style) := by
  refine Statement.check_eq_ok_iff.mpr ⟨h, ?_, rfl⟩
  exact Bool.eq_false_iff.mpr fun hempty => hsql (String.isEmpty_iff.mp hempty)

/-- A statement fit to be run is handed to `runBuilt`. -/
theorem outcome_perform_of_fit (h : s.misuse? = none) (hsql : (s.build c.style).sql ≠ "") :
    (c.perform s call).outcome session =
      (c.runBuilt s.kind (s.build c.style) call).outcome session := by
  rw [perform, Run.outcome_bind, Run.outcome_ofExcept, check_of_fit h hsql]

/-- **With an executor** the statement is announced and handed over, and a failure is logged. -/
theorem outcome_runBuilt {e : Executor σ} (hc : c.executor = some e) :
    (c.runBuilt s.kind (s.build c.style) call).outcome session =
      match c.handOver s call e session.state with
      | (.ok a, state) => (.ok a, (session.logged (c.announcement s)).called state)
      | (.error error, state) =>
        (.error error, ((session.logged (c.announcement s)).called state).logged
          [.failure s.kind (c.logger.shorten (s.build c.style).sql) error]) := by
  have hget : c.getExecutor = pure e := by rw [getExecutor, hc]
  rw [runBuilt, hget, pure_bind, Run.outcome_bind, Run.outcome_log]
  dsimp only
  rw [Run.outcome_tryCatch, Run.outcome_lift]
  unfold handOver
  -- the call sees the state alone, so the events before it do not matter to its answer
  generalize call e (s.build c.style).sql (Bind.ofParams (s.build c.style).params) session.state =
    result
  obtain ⟨answer, state⟩ := result
  cases answer with
  | ok a => rfl
  | error error =>
    show ((Run.log _ >>= fun _ => throw error : Run σ α).outcome _) = _
    rw [Run.outcome_bind, Run.outcome_log]
    rfl

/-- **Some rule applies** to every statement, every executor and every session. -/
theorem exists_pipeline (c : Connection σ) (s : Statement)
    (call : Executor σ → String → List Bind → Call σ α) (session : Session σ) :
    ∃ answer after, c.Pipeline s call session answer after := by
  cases hmisuse : s.misuse? with
  | some misuse => exact ⟨_, _, .misused hmisuse⟩
  | none =>
    by_cases hsql : (s.build c.style).sql = ""
    · exact ⟨_, _, .blank hmisuse hsql⟩
    · cases hc : c.executor with
      | none => exact ⟨_, _, .offline hmisuse hsql hc⟩
      | some e =>
        rcases hcall : c.handOver s call e session.state with ⟨answer, state⟩
        cases answer with
        | ok a => exact ⟨_, _, .answered hmisuse hsql hc hcall⟩
        | error error => exact ⟨_, _, .failed hmisuse hsql hc hcall⟩

/-- **The rule that applies** is what the run comes to. -/
theorem outcome_perform_of_pipeline (h : c.Pipeline s call session answer after) :
    (c.perform s call).outcome session = (answer, after) := by
  cases h with
  | misused hmisuse => exact outcome_perform_of_error (check_of_misuse hmisuse) call session
  | blank hmisuse hsql => exact outcome_perform_of_error (check_of_blank hmisuse hsql) call session
  | offline hmisuse hsql hc =>
    have hget : (c.getExecutor : Run σ (Executor σ)) = throw .noConnection := by
      rw [getExecutor, hc]
    rw [outcome_perform_of_fit hmisuse hsql, runBuilt, hget]
    exact Run.outcome_bind_of_error rfl
  | answered hmisuse hsql hc hcall =>
    rw [outcome_perform_of_fit hmisuse hsql, outcome_runBuilt hc, hcall]
  | failed hmisuse hsql hc hcall =>
    rw [outcome_perform_of_fit hmisuse hsql, outcome_runBuilt hc, hcall]

/-- **A run comes to what the pipeline says**, and to nothing else. -/
theorem outcome_perform_eq_iff :
    (c.perform s call).outcome session = (answer, after) ↔
      c.Pipeline s call session answer after := by
  constructor
  · intro houtcome
    obtain ⟨answer', after', hpipeline⟩ := exists_pipeline c s call session
    have heq := outcome_perform_of_pipeline hpipeline
    rw [houtcome] at heq
    obtain ⟨rfl, rfl⟩ := Prod.mk.inj heq
    exact hpipeline
  · exact outcome_perform_of_pipeline

/-! ## Answers that are read -/

/-- What is made of an answer logs nothing and calls nothing. -/
theorem outcome_bind_ofExcept_eq_iff {x : Run σ α} {read : α → Except Error β}
    {result : Except Error β} :
    (x >>= fun a => Run.ofExcept (read a)).outcome session = (result, after) ↔
      ∃ answer, x.outcome session = (answer, after) ∧ result = answer.bind read := by
  rw [Run.outcome_bind]
  rcases hx : x.outcome session with ⟨answer, after'⟩
  cases answer with
  | ok a =>
    show (Run.ofExcept (read a)).outcome after' = (result, after) ↔ _
    rw [Run.outcome_ofExcept]
    constructor
    · rintro ⟨⟩
      exact ⟨.ok a, rfl, rfl⟩
    · rintro ⟨answer, ⟨⟩, rfl⟩
      rfl
  | error error =>
    constructor
    · rintro ⟨⟩
      exact ⟨.error error, rfl, rfl⟩
    · rintro ⟨answer, ⟨⟩, rfl⟩
      rfl

/-- **An answer that is read** comes out of the same pipeline. -/
theorem outcome_perform_read_eq_iff {read : α → Except Error β} {result : Except Error β} :
    (c.perform s call >>= fun a => Run.ofExcept (read a)).outcome session = (result, after) ↔
      ∃ answer, c.Pipeline s call session answer after ∧ result = answer.bind read := by
  rw [outcome_bind_ofExcept_eq_iff]
  simp only [outcome_perform_eq_iff]

/-- The first value of the first row; a pure step is the reading of an answer that never fails. -/
theorem outcome_fetchValue_eq_iff {result : Except Error (Option Value)} :
    (c.fetchValue s).outcome session = (result, after) ↔
      ∃ answer, c.Pipeline s Executor.fetchOne session answer after ∧
        result = answer.map fun row => row.bind (·.values.head?) := by
  show (c.perform s Executor.fetchOne >>= fun row =>
      Run.ofExcept (.ok (row.bind (·.values.head?)))).outcome session = (result, after) ↔
    ∃ answer, c.Pipeline s Executor.fetchOne session answer after ∧
      result = answer.bind fun row => .ok (row.bind (·.values.head?))
  exact outcome_perform_read_eq_iff

/-! ## The key of an inserted row -/

/-- The key of the row inserted last: one more call, and no event. -/
theorem outcome_lastInsertId {e : Executor σ} (hc : c.executor = some e) :
    c.lastInsertId.outcome session =
      ((e.lastInsertId session.state).1, session.called (e.lastInsertId session.state).2) := by
  have hget : c.getExecutor = pure e := by rw [getExecutor, hc]
  rw [lastInsertId, hget, pure_bind, Run.outcome_lift]
  rfl

/-- What was answered was answered by an executor. -/
theorem Pipeline.exists_executor {a : α} (h : c.Pipeline s call session (.ok a) after) :
    ∃ e, c.executor = some e := by
  cases h with
  | answered _ _ hc _ => exact ⟨_, hc⟩

/-- **The key is asked for only after the rows are there.** -/
theorem outcome_insertGetId_eq_iff {q : Insert} {result : Except Error (Option Value)} :
    (c.insertGetId q).outcome session = (result, after) ↔
      (∃ error, c.Pipeline (.insert q) Executor.execute session (.error error) after ∧
        result = .error error) ∨
      (∃ n e inserted, c.Pipeline (.insert q) Executor.execute session (.ok n) inserted ∧
        c.executor = some e ∧ result = (e.lastInsertId inserted.state).1 ∧
        after = inserted.called (e.lastInsertId inserted.state).2) := by
  have hrun : ∀ answer after', c.Pipeline (.insert q) Executor.execute session answer after' ↔
      (c.execute (.insert q)).outcome session = (answer, after') :=
    fun answer after' => outcome_perform_eq_iff.symm
  rw [insertGetId, Run.outcome_bind]
  rcases hx : (c.execute (.insert q)).outcome session with ⟨answer, inserted⟩
  simp only [hrun, hx]
  cases answer with
  | error error =>
    constructor
    · rintro ⟨⟩
      exact .inl ⟨error, rfl, rfl⟩
    · rintro (⟨_, ⟨⟩, rfl⟩ | ⟨_, _, _, ⟨⟩, _⟩)
      rfl
  | ok n =>
    obtain ⟨e, hc⟩ := ((hrun _ _).mpr hx).exists_executor
    show c.lastInsertId.outcome inserted = (result, after) ↔ _
    rw [outcome_lastInsertId hc]
    constructor
    · rintro ⟨⟩
      exact .inr ⟨n, e, inserted, rfl, hc, rfl, rfl⟩
    · rintro (⟨_, ⟨⟩, _⟩ | ⟨_, e', _, ⟨⟩, hc', rfl, rfl⟩)
      obtain rfl : e = e' := Option.some.inj (hc.symm.trans hc')
      rfl

end Connection

/-! ## Every way to ask -/

/-- **Every statement is run through one pipeline**, whatever its kind, the connection, the executor
    and the logger are, and whatever was run before: affected rows, all rows, the first row, its first
    value, the key of an inserted row, and any other call of an executor. Binds stand in the order of
    their registration, and a failure is a warning. -/
theorem Connection.runs_through_pipeline (c : Connection σ) (s : Statement) (session : Session σ) :
    (∀ (α : Type) (call : Executor σ → String → List Bind → Call σ α) answer after,
      (c.perform s call).outcome session = (answer, after) ↔
        c.Pipeline s call session answer after) ∧
    (∀ answer after, (c.execute s).outcome session = (answer, after) ↔
      c.Pipeline s Executor.execute session answer after) ∧
    (∀ (α : Type) (read : Row → Except Error α) result after,
      (do let rows ← c.fetchAll s
          Run.ofExcept (rows.mapM read) : Run σ (List α)).outcome session = (result, after) ↔
        ∃ answer, c.Pipeline s Executor.fetchAll session answer after ∧
          result = answer.bind (List.mapM read)) ∧
    (∀ (α : Type) (m : Model α) result after,
      (do let row ← c.fetchOne s
          Run.ofExcept (m.ofRow? row) : Run σ (Option α)).outcome session = (result, after) ↔
        ∃ answer, c.Pipeline s Executor.fetchOne session answer after ∧
          result = answer.bind m.ofRow?) ∧
    (∀ result after, (c.fetchValue s).outcome session = (result, after) ↔
      ∃ answer, c.Pipeline s Executor.fetchOne session answer after ∧
        result = answer.map fun row => row.bind (·.values.head?)) ∧
    (∀ (q : Insert) result after, (c.insertGetId q).outcome session = (result, after) ↔
      (∃ error, c.Pipeline (.insert q) Executor.execute session (.error error) after ∧
        result = .error error) ∨
      (∃ n e inserted, c.Pipeline (.insert q) Executor.execute session (.ok n) inserted ∧
        c.executor = some e ∧ result = (e.lastInsertId inserted.state).1 ∧
        after = inserted.called (e.lastInsertId inserted.state).2)) ∧
    (Bind.ofParams (s.build c.style).params).map (fun b => (b.placeholder, b.value, b.bindType)) =
      (s.build c.style).params.entries.map (fun (name, value) => (name, value, value.bindType)) ∧
    (∀ sql error, (Event.failure s.kind sql error).level = .warn) := by
  refine ⟨?_, ?_, ?_, ?_, ?_, ?_, ?_, ?_⟩
  · intro α call answer after
    exact outcome_perform_eq_iff
  · intro answer after
    exact outcome_perform_eq_iff
  · intro α read result after
    exact outcome_perform_read_eq_iff
  · intro α m result after
    exact outcome_perform_read_eq_iff
  · intro result after
    exact outcome_fetchValue_eq_iff
  · intro q result after
    exact outcome_insertGetId_eq_iff
  · rw [Bind.ofParams, List.map_map]
    rfl
  · intro sql error
    rfl

end FluentSql
