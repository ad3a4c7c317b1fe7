import FluentSql.Executor
import FluentSql.Sqlite.Database
/-!
# `FluentSql.Sqlite.Executor` — running statements on a database in memory

A statement is read and its names are resolved before its parameters get their values; a parameter
without one is a misuse. Values of names that do not appear are ignored.

Where a connection is opened on a database, any `Library` may be the one that keeps it.
-/

namespace FluentSql.Sqlite

/-- The database's way to refuse. -/
def refusal (message : String) : Error := .database .sqlite message

/-- The values of numbers, the last one that is bound first. -/
def bound (binds : List Bind) (params : Parameters) : List (Nat × Value) :=
  (binds.filterMap fun b => (params.number? b.placeholder).map (·, b.value)).reverse

/-- **The values of parameters**, in the order of their numbers. A number without a value is a misuse
    of its name. -/
def bindAll (binds : List Bind) (params : Parameters) : Except Error (List Value) :=
  let values := bound binds params
  (List.range params.count).mapM fun i =>
    match values.lookup (i + 1) with
    | some v => .ok v
    | none => .error (.misuse (.unbound ((params.name? (i + 1)).getD "?")))

/-- A statement read and resolved, with its parameters. -/
def prepare (sql : String) (db : Database) : Except Error (Plan × Parameters) :=
  match Command.parse? sql with
  | none => .error (refusal ("syntax error in " ++ sql))
  | some (command, params) =>
    match db.plan command with
    | .ok plan => .ok (plan, params)
    | .error message => .error (refusal message)

/-- **A statement run** and its answer read off the outcome. -/
def run {α : Type} (read : Outcome → Except Error α) (sql : String) (binds : List Bind) :
    Call Database α := fun db =>
  match prepare sql db with
  | .error e => (.error e, db)
  | .ok (plan, params) =>
    match bindAll binds params with
    | .error e => (.error e, db)
    | .ok values =>
      match plan values with
      | (.ok outcome, db) => (read outcome, db)
      | (.error message, db) => (.error (refusal message), db)

/-- How many rows a statement affected; one that returns rows is not executed. -/
def Outcome.count (o : Outcome) : Except Error Nat :=
  if o.rows.isEmpty then .ok o.affected else .error (refusal "statement returned rows")

/-- **The executor** on a database. -/
def executor : Executor Database where
  driverName := Dialect.sqlite.driverName
  execute := run Outcome.count
  fetchAll := run fun o => .ok o.rows
  lastInsertId db := (.ok (some (.int (Int64.ofInt db.lastNumber))), db)

/-- **A library for SQLite**, which keeps databases as values of a type. -/
class Library (δ : Type) where
  /-- The database in a file, or a new one in memory. -/
  database : String → δ
  /-- What runs statements on a database. -/
  executor : Executor δ

/-- Databases in memory begin empty, whatever they are called. -/
instance : Library Database where
  database _ := {}
  executor := executor

end FluentSql.Sqlite
