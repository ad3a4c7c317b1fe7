import FluentSql.Executor.Script
import FluentSql.Model.Run
/-!
# `FluentSql.Proofs.Recording` — which statements reach the executor

`Executor.recording` is any executor with a record of its calls beside its state. What a run adds to
the record is what it hands to the executor.

* `Run.outcome_bind` and its siblings — a run, step by step;
* `Connection.record_perform` — a statement run is handed over once if it is fit to be run, else not
  at all;
* `ModelMethod.record_run` — a method of a query hands over its one statement.
-/

namespace FluentSql

variable {σ α β : Type}

/-! ## Runs, step by step -/

namespace Run

/-- **What a run comes to**: its answer and the session after it. -/
def outcome (x : Run σ α) (session : Session σ) : Except Error α × Session σ := x.run.run session

/-- **One step after the other**; an error ends the run and keeps the session. -/
theorem outcome_bind (x : Run σ α) (f : α → Run σ β) (session : Session σ) :
    (x >>= f).outcome session =
      match x.outcome session with
      | (.ok a, after) => (f a).outcome after
      | (.error error, after) => (.error error, after) := by
  rw [outcome, ExceptT.run_bind, StateT.run_bind, outcome]
  obtain ⟨answer, after⟩ := x.run.run session
  cases answer <;> rfl

theorem outcome_tryCatch (x : Run σ α) (handle : Error → Run σ α) (session : Session σ) :
    (tryCatch x handle).outcome session =
      match x.outcome session with
      | (.ok a, after) => (.ok a, after)
      | (.error error, after) => (handle error).outcome after := by
  rw [outcome, ExceptT.run_tryCatch, StateT.run_bind, outcome]
  obtain ⟨answer, after⟩ := x.run.run session
  cases answer <;> rfl

theorem outcome_ofExcept (x : Except Error α) (session : Session σ) :
    (Run.ofExcept x).outcome session = (x, session) := by
  cases x <;> rfl

theorem outcome_lift (call : Call σ α) (session : Session σ) :
    (Run.lift call).outcome session =
      ((call session.state).1, { session with
        state := (call session.state).2
        calledAfter := session.calledAfter ++ [session.events.length] }) := rfl

theorem outcome_log (events : List Event) (session : Session σ) :
    (Run.log events).outcome session =
      (.ok (), { session with events := session.events ++ events }) := rfl

theorem outcome_now (session : Session σ) :
    (Run.now : Run σ DateTime).outcome session = (.ok session.now, session) := rfl

end Run

/-- **An error ends the run**, whatever was to come. -/
theorem Run.outcome_bind_of_error {x : Run σ α} {f : α → Run σ β} {session after : Session σ}
    {error : Error} (h : x.outcome session = (.error error, after)) :
    (x >>= f).outcome session = (.error error, after) := by
  rw [outcome_bind, h]

/-! ## Recording -/

/-- A call that is put on record. -/
def Call.recorded (entry : RecordedCall) (call : Call σ α) : Call (σ × List RecordedCall) α :=
  fun s => ((call s.1).1, (call s.1).2, s.2 ++ [entry])

/-- **The executor with a record** of its calls. It fetches one row as most executors do, as the first of
    all. -/
def Executor.recording (e : Executor σ) : Executor (σ × List RecordedCall) where
  driverName := e.driverName
  execute sql binds := Call.recorded (.execute sql binds) (e.execute sql binds)
  fetchAll sql binds := Call.recorded (.fetchAll sql binds) (e.fetchAll sql binds)
  lastInsertId := Call.recorded .lastInsertId e.lastInsertId

/-- The record of a session. -/
def Session.record (session : Session (σ × List RecordedCall)) : List RecordedCall :=
  session.state.2

/-- **The record after a run.** -/
def Run.record (x : Run (σ × List RecordedCall) α) (session : Session (σ × List RecordedCall)) :
    List RecordedCall :=
  (x.outcome session).2.record

/-- What is made of an answer is not recorded. -/
theorem Run.record_bind_ofExcept (x : Run (σ × List RecordedCall) α) (f : α → Except Error β)
    (session : Session (σ × List RecordedCall)) :
    (x >>= fun a => Run.ofExcept (f a)).record session = x.record session := by
  rw [Run.record, Run.record, outcome_bind]
  obtain ⟨answer, after⟩ := x.outcome session
  cases answer with
  | ok a =>
    show ((Run.ofExcept (f a)).outcome after).2.record = after.record
    rw [outcome_ofExcept]
  | error error => rfl

theorem Run.record_bind_pure (x : Run (σ × List RecordedCall) α) (f : α → β)
    (session : Session (σ × List RecordedCall)) :
    (x >>= fun a => pure (f a)).record session = x.record session :=
  record_bind_ofExcept x (fun a => .ok (f a)) session

theorem Run.record_bind_now (f : DateTime → Run (σ × List RecordedCall) α)
    (session : Session (σ × List RecordedCall)) :
    (Run.now >>= f).record session = (f session.now).record session := by
  rw [Run.record, outcome_bind, outcome_now]
  rfl

/-- **A statement is fit to be run** if nothing was misused and there is something to run. -/
theorem Statement.check_eq_ok_iff {st : Style} {s : Statement} {built : Built} :
    s.check st = .ok built ↔
      s.misuse? = none ∧ (s.build st).sql.isEmpty = false ∧ built = s.build st := by
  unfold check validate
  cases s.misuse? with
  | some misuse =>
    constructor
    · intro h
      cases h
    · intro h
      cases h.1
  | none =>
    show (if (s.build st).sql.isEmpty then Except.error Error.emptyStatement
      else .ok (s.build st)) = .ok built ↔ _
    cases (s.build st).sql.isEmpty with
    | true =>
      constructor
      · intro h
        cases h
      · intro h
        cases h.2.1
    | false =>
      constructor
      · intro h
        cases h
        exact ⟨rfl, rfl, rfl⟩
      · rintro ⟨-, -, rfl⟩
        rfl

/-- **What a statement hands over**: itself if it is fit to be run, else nothing. -/
def Statement.handedOver (st : Style) (entry : String → List Bind → RecordedCall) (s : Statement) :
    List RecordedCall :=
  match s.check st with
  | .ok built => [entry built.sql (Bind.ofParams built.params)]
  | .error _ => []

/-- **A statement unfit to be run** ends in its error before anything is logged or handed over. -/
theorem Connection.outcome_perform_of_error {c : Connection σ} {s : Statement} {error : Error}
    (h : s.check c.style = .error error) (call : Executor σ → String → List Bind → Call σ α)
    (session : Session σ) : (c.perform s call).outcome session = (.error error, session) := by
  rw [perform, Run.outcome_bind, Run.outcome_ofExcept, h]

namespace Connection

variable {c : Connection (σ × List RecordedCall)} {e : Executor σ}
  {call : Executor (σ × List RecordedCall) → String → List Bind → Call (σ × List RecordedCall) α}
  {entry : String → List Bind → RecordedCall}

/-- A finished statement is handed over once, whether it fails there or not. -/
theorem record_runBuilt (hc : c.executor = some e.recording)
    (hcall : ∀ sql binds state,
      (call e.recording sql binds state).2.2 = state.2 ++ [entry sql binds])
    (kind : StatementKind) (built : Built) (session : Session (σ × List RecordedCall)) :
    (c.runBuilt kind built call).record session =
      session.record ++ [entry built.sql (Bind.ofParams built.params)] := by
  have hget : c.getExecutor = pure e.recording := by rw [getExecutor, hc]
  rw [Run.record, runBuilt, hget, pure_bind, Run.outcome_bind, Run.outcome_log]
  dsimp only
  rw [Run.outcome_tryCatch, Run.outcome_lift]
  have hstate := hcall built.sql (Bind.ofParams built.params) session.state
  generalize call e.recording built.sql (Bind.ofParams built.params) session.state = result
    at hstate ⊢
  obtain ⟨answer, state⟩ := result
  cases answer with
  | ok a => exact hstate
  | error error =>
    show ((Run.log [c.logger.onFailure kind built error] >>= fun _ => throw error :
      Run (σ × List RecordedCall) α).outcome _).2.record = _
    rw [Run.outcome_bind, Run.outcome_log]
    exact hstate

/-- **A statement run** is handed over once if it is fit to be run, else not at all. -/
theorem record_perform (hc : c.executor = some e.recording)
    (hcall : ∀ sql binds state,
      (call e.recording sql binds state).2.2 = state.2 ++ [entry sql binds])
    (s : Statement) (session : Session (σ × List RecordedCall)) :
    (c.perform s call).record session = session.record ++ s.handedOver c.style entry := by
  rw [Run.record, perform, Run.outcome_bind, Run.outcome_ofExcept, Statement.handedOver]
  cases s.check c.style with
  | error error => exact (List.append_nil _).symm
  | ok built => exact record_runBuilt hc hcall s.kind built session

theorem record_execute (hc : c.executor = some e.recording) (s : Statement)
    (session : Session (σ × List RecordedCall)) :
    (c.execute s).record session = session.record ++ s.handedOver c.style .execute :=
  record_perform hc (fun _ _ _ => rfl) s session

theorem record_fetchAll (hc : c.executor = some e.recording) (s : Statement)
    (session : Session (σ × List RecordedCall)) :
    (c.fetchAll s).record session = session.record ++ s.handedOver c.style .fetchAll :=
  record_perform hc (fun _ _ _ => rfl) s session

/-- The first row is asked for as all rows are. -/
theorem record_fetchOne (hc : c.executor = some e.recording) (s : Statement)
    (session : Session (σ × List RecordedCall)) :
    (c.fetchOne s).record session = session.record ++ s.handedOver c.style .fetchAll := by
  refine record_perform hc (fun sql binds state => ?_) s session
  have hstate : (e.recording.fetchAll sql binds state).2.2 = state.2 ++ [.fetchAll sql binds] := rfl
  show ((e.recording.fetchAll sql binds).first state).2.2 = _
  unfold Call.first
  generalize e.recording.fetchAll sql binds state = result at hstate ⊢
  obtain ⟨answer, after⟩ := result
  cases answer <;> exact hstate

end Connection

/-! ## Methods of a query -/

/-- **A method** of a query that runs a statement. -/
inductive ModelMethod where
  | get
  | first
  | last
  | find (id : Value)
  | isInhabited
  | count
  | aggregate (fn : AggregateFn) (column : String)
  | update (data : Payload)
  | delete
  | forceDelete
  | restore

namespace ModelMethod

/-- The method called; its answer does not matter. -/
def run (m : Model α) (c : Connection σ) (q : ModelQuery) : ModelMethod → Run σ Unit
  | .get => do let _ ← m.get c q
  | .first => do let _ ← m.first c q
  | .last => do let _ ← m.last c q
  | .find id => do let _ ← m.find c q id
  | .isInhabited => do let _ ← q.isInhabited c
  | .count => do let _ ← q.count c
  | .aggregate fn column => do let _ ← q.aggregateNumber c fn column
  | .update data => do let _ ← q.update c data
  | .delete => do let _ ← q.delete c
  | .forceDelete => do let _ ← q.forceDelete c
  | .restore => do let _ ← q.restore c

/-- **The statement of a method**; nothing is restored without a delete column. -/
def statement? (now : DateTime) (q : ModelQuery) : ModelMethod → Option Statement
  | .get => some (.select q.statement)
  | .first => some (.select q.firstStatement)
  | .last => some (.select q.lastStatement)
  | .find id => some (.select (q.found id).firstStatement)
  | .isInhabited => some (.select q.existsStatement)
  | .count => some (.select (q.aggregateStatement .count q.schema.primaryKey))
  | .aggregate fn column => some (.select (q.aggregateStatement fn column))
  | .update data => some (.update (q.touching now data))
  | .delete => some (q.deleting now)
  | .forceDelete => some (.delete q.forceDeleting)
  | .restore => (q.restoring? now).map .update

/-- How a method's statement is handed over. -/
def entry : ModelMethod → String → List Bind → RecordedCall
  | .update _ | .delete | .forceDelete | .restore => .execute
  | _ => .fetchAll

end ModelMethod

section Methods

variable {c : Connection (σ × List RecordedCall)} {e : Executor σ}

theorem Model.record_fetch (hc : c.executor = some e.recording) (m : Model α) (q : Select)
    (session : Session (σ × List RecordedCall)) :
    (m.fetch c q).record session =
      session.record ++ (Statement.select q).handedOver c.style .fetchAll := by
  rw [fetch, Run.record_bind_ofExcept, Connection.record_fetchOne hc]

theorem ModelQuery.record_aggregateValue (hc : c.executor = some e.recording) (q : ModelQuery)
    (fn : AggregateFn) (column : String) (session : Session (σ × List RecordedCall)) :
    (q.aggregateValue c fn column).record session =
      session.record ++
        (Statement.select (q.aggregateStatement fn column)).handedOver c.style .fetchAll := by
  rw [aggregateValue, Run.record_bind_pure, Connection.record_fetchOne hc]

/-- **A method hands over its statement** if it is fit to be run, and nothing else. -/
theorem ModelMethod.record_run (hc : c.executor = some e.recording) (m : Model α) (q : ModelQuery)
    (method : ModelMethod) (session : Session (σ × List RecordedCall)) :
    (method.run m c q).record session =
      session.record ++
        ((method.statement? session.now q).map
          (Statement.handedOver c.style method.entry)).getD [] := by
  cases method with
  | get =>
    rw [run, Run.record_bind_pure, Model.get, Run.record_bind_ofExcept,
      Connection.record_fetchAll hc]
    rfl
  | first =>
    rw [run, Run.record_bind_pure, Model.first, Model.record_fetch hc]
    rfl
  | last =>
    rw [run, Run.record_bind_pure, Model.last, Model.record_fetch hc]
    rfl
  | find id =>
    rw [run, Run.record_bind_pure, Model.find, Model.first, Model.record_fetch hc]
    rfl
  | isInhabited =>
    rw [run, Run.record_bind_pure, ModelQuery.isInhabited, Run.record_bind_pure,
      Connection.record_fetchOne hc]
    rfl
  | count =>
    rw [run, Run.record_bind_pure, ModelQuery.count, Run.record_bind_pure,
      ModelQuery.record_aggregateValue hc]
    rfl
  | aggregate fn column =>
    rw [run, Run.record_bind_pure, ModelQuery.aggregateNumber, Run.record_bind_pure,
      ModelQuery.record_aggregateValue hc]
    rfl
  | update data =>
    rw [run, Run.record_bind_pure, ModelQuery.update, Run.record_bind_now,
      Connection.record_execute hc]
    rfl
  | delete =>
    rw [run, Run.record_bind_pure, ModelQuery.delete, Run.record_bind_now,
      Connection.record_execute hc]
    rfl
  | forceDelete =>
    rw [run, Run.record_bind_pure, ModelQuery.forceDelete, Connection.record_execute hc]
    rfl
  | restore =>
    rw [run, Run.record_bind_pure, ModelQuery.restore, Run.record_bind_now, statement?]
    cases q.restoring? session.now with
    | some update => exact Connection.record_execute hc (.update update) session
    | none => exact (List.append_nil _).symm

end Methods

/-! ## A recorded script -/

/-- A connection that puts on record what it hands to a script. -/
def Connection.scripted : Connection (Script × List RecordedCall) :=
  .ofExecutor (Script.executor "mysql").recording

/-- A session on a script without responses, with nothing on record. -/
def Session.scripted : Session (Script × List RecordedCall) := { state := ({}, []), now := default }

end FluentSql
