import FluentSql.Logger
import FluentSql.Row
/-!
# `FluentSql.Executor` — what runs statements

An executor runs finished statements and changes a state of its own type `σ` while doing so. A
session is that state with the time of day, the events logged so far, and where among the events the
executor was called; `Run` is a computation in a session, which may fail and keeps the session when it
does.
-/

namespace FluentSql

/-- **A value bound to a placeholder.** -/
structure Bind where
  placeholder : String
  value : Value
  deriving DecidableEq, Inhabited

namespace Bind

/-- The placeholder without its colons. -/
def name (b : Bind) : String :=
  String.ofList (b.placeholder.toList.dropWhile (· == ':'))

/-- How the value is bound. -/
def bindType (b : Bind) : BindType := b.value.bindType

/-- **The binds of parameters**, in their order. -/
def ofParams (ps : Params) : List Bind := ps.entries.map fun (name, value) => ⟨name, value⟩

end Bind

/-- A call of an executor: what it answers and the state after it. -/
abbrev Call (σ α : Type) := σ → Except Error α × σ

/-- The first of the rows that a call answers. -/
def Call.first {σ : Type} (call : Call σ (List Row)) : Call σ (Option Row) := fun s =>
  match call s with
  | (.ok rows, s) => (.ok rows.head?, s)
  | (.error error, s) => (.error error, s)

/-- **An executor.** It may have a way of its own to fetch one row, and knows no keys unless it says
    so. -/
structure Executor (σ : Type) where
  /-- The name that decides on the dialect. -/
  driverName : String
  /-- Runs a statement and counts the rows it affects. -/
  execute : String → List Bind → Call σ Nat
  /-- Runs a statement and returns its rows. -/
  fetchAll : String → List Bind → Call σ (List Row)
  /-- Runs a statement and returns its first row. -/
  fetchOne : String → List Bind → Call σ (Option Row) := fun sql binds => (fetchAll sql binds).first
  /-- The key of the row inserted last. -/
  lastInsertId : Call σ (Option Value) := fun s => (.ok none, s)

/-- **A session.** -/
structure Session (σ : Type) where
  state : σ
  /-- The time of day. -/
  now : DateTime
  /-- The events so far, the first one first. -/
  events : List Event := []
  /-- For each call of the executor so far, how many events were logged before it. -/
  calledAfter : List Nat := []

/-- **A computation in a session.** -/
abbrev Run (σ : Type) := ExceptT Error (StateM (Session σ))

namespace Run

variable {σ α : Type}

/-- Events logged. -/
def log (events : List Event) : Run σ Unit :=
  modify fun s => { s with events := s.events ++ events }

/-- The time of day. -/
def now : Run σ DateTime := do
  return (← get).now

/-- A call of an executor made in the session. -/
def lift (call : Call σ α) : Run σ α := fun s =>
  let (answer, state) := call s.state
  (answer, { s with state := state, calledAfter := s.calledAfter ++ [s.events.length] })

/-- What is no computation at all. -/
def ofExcept (x : Except Error α) : Run σ α :=
  match x with
  | .ok a => pure a
  | .error error => throw error

end Run

end FluentSql
