import FluentSql.Executor
/-!
# `FluentSql.Connection` — where statements are rendered and run

A connection has a style, a logger and, unless it is offline, an executor. Every statement runs
through `Connection.perform`: it is checked, logged and handed to the executor, in this order.
-/

namespace FluentSql

/-- **A connection.** -/
structure Connection (σ : Type) where
  executor : Option (Executor σ)
  style : Style
  logger : Logger := {}

namespace Connection

variable {σ α : Type}

/-- A connection that only renders. -/
def offline (d : Dialect) : Connection σ := ⟨none, { dialect := d }, {}⟩

/-- **A connection on an executor**, in the dialect of its driver. -/
def ofExecutor (e : Executor σ) : Connection σ :=
  ⟨some e, { dialect := .ofDriver e.driverName }, {}⟩

/-- The name of the executor's driver. -/
def driverName (c : Connection σ) : Option String := c.executor.map (·.driverName)

/-- The connection as a message shows it. -/
def describe (c : Connection σ) : String :=
  let dialect := match c.style.dialect with
    | .mysql => "MySql"
    | .postgres => "Postgres"
    | .sqlite => "Sqlite"
    | .ansi => "Ansi"
  let driver := match c.driverName with
    | some name => "Some(" ++ Text.quoteForMessage name ++ ")"
    | none => "None"
  "Connection \x7b dialect: " ++ dialect ++ ", driver: " ++ driver ++ ", .. \x7d"

/-- The executor; a connection without one runs nothing. -/
def getExecutor (c : Connection σ) : Run σ (Executor σ) :=
  match c.executor with
  | some e => pure e
  | none => throw .noConnection

/-- **A finished statement run**: logged, handed to the executor, and logged again if it fails. -/
def runBuilt (c : Connection σ) (kind : StatementKind) (built : Built)
    (call : Executor σ → String → List Bind → Call σ α) : Run σ α := do
  let e ← c.getExecutor
  Run.log (c.logger.before kind built)
  tryCatch (Run.lift (call e built.sql (Bind.ofParams built.params))) fun error => do
    Run.log [c.logger.onFailure kind built error]
    throw error

/-- **A statement run**, if it is fit to be. -/
def perform (c : Connection σ) (s : Statement) (call : Executor σ → String → List Bind → Call σ α) :
    Run σ α := do
  let built ← Run.ofExcept (s.check c.style)
  c.runBuilt s.kind built call

/-- Runs a statement and counts the rows it affects. -/
def execute (c : Connection σ) (s : Statement) : Run σ Nat := c.perform s Executor.execute

/-- Runs a statement and returns its rows. -/
def fetchAll (c : Connection σ) (s : Statement) : Run σ (List Row) := c.perform s Executor.fetchAll

/-- Runs a statement and returns its first row. -/
def fetchOne (c : Connection σ) (s : Statement) : Run σ (Option Row) :=
  c.perform s Executor.fetchOne

/-- Runs a statement and returns the first value of its first row. -/
def fetchValue (c : Connection σ) (s : Statement) : Run σ (Option Value) := do
  return (← c.fetchOne s).bind (·.values.head?)

/-- The key of the row inserted last. -/
def lastInsertId (c : Connection σ) : Run σ (Option Value) := do
  Run.lift (← c.getExecutor).lastInsertId

/-- **Inserts rows and asks for the key** of the last one. -/
def insertGetId (c : Connection σ) (q : Insert) : Run σ (Option Value) := do
  let _ ← c.execute (.insert q)
  c.lastInsertId

end Connection

end FluentSql
