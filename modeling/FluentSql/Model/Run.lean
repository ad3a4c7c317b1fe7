import FluentSql.Connection
import FluentSql.Model
/-!
# `FluentSql.Model.Run` — running the queries of a model

Queries of a model are run on a connection; `save`, `refresh` and `delete` keep a value and its row
in step.
-/

namespace FluentSql

variable {σ α : Type}

namespace ModelQuery

/-- The value of an aggregate; null without rows. -/
def aggregateValue (q : ModelQuery) (c : Connection σ) (fn : AggregateFn) (column : String) :
    Run σ Value := do
  let row ← c.fetchOne (.select (q.aggregateStatement fn column))
  return (row.bind (·.get? (aggregateName fn column))).getD .null

/-- **The number of rows.** -/
def count (q : ModelQuery) (c : Connection σ) : Run σ Int64 := do
  return (← q.aggregateValue c .count q.schema.primaryKey).asInteger.getD 0

/-- An aggregate over a column as a number; zero if it is none. -/
def aggregateNumber (q : ModelQuery) (c : Connection σ) (fn : AggregateFn) (column : String) :
    Run σ Number.Double := do
  return (← q.aggregateValue c fn column).asNumber.getD .zero

/-- Whether there is a row. -/
def isInhabited (q : ModelQuery) (c : Connection σ) : Run σ Bool := do
  return (← c.fetchOne (.select q.existsStatement)).isSome

/-- **Updates all rows** and counts them. -/
def update (q : ModelQuery) (c : Connection σ) (data : Payload) : Run σ Nat := do
  c.execute (.update (q.touching (← Run.now) data))

/-- **Deletes all rows**, softly if the model does so. -/
def delete (q : ModelQuery) (c : Connection σ) : Run σ Nat := do
  c.execute (q.deleting (← Run.now))

/-- Removes all rows. -/
def forceDelete (q : ModelQuery) (c : Connection σ) : Run σ Nat :=
  c.execute (.delete q.forceDeleting)

/-- Takes back the soft deletion of all rows. -/
def restore (q : ModelQuery) (c : Connection σ) : Run σ Nat := do
  match q.restoring? (← Run.now) with
  | some update => c.execute (.update update)
  | none => pure 0

end ModelQuery

namespace Model

/-! ## Reading -/

/-- A row read as a value, if there is one. -/
def ofRow? (m : Model α) : Option Row → Except Error (Option α)
  | some row => (m.ofRow row).map some
  | none => .ok none

/-- **All values** of a query. -/
def get (m : Model α) (c : Connection σ) (q : ModelQuery) : Run σ (List α) := do
  let rows ← c.fetchAll (.select q.statement)
  Run.ofExcept (rows.mapM m.ofRow)

/-- The first row of a statement as a value. -/
def fetch (m : Model α) (c : Connection σ) (q : Select) : Run σ (Option α) := do
  let row ← c.fetchOne (.select q)
  Run.ofExcept (m.ofRow? row)

/-- **The first value.** -/
def first (m : Model α) (c : Connection σ) (q : ModelQuery) : Run σ (Option α) :=
  m.fetch c q.firstStatement

/-- The value with the greatest primary key. -/
def last (m : Model α) (c : Connection σ) (q : ModelQuery) : Run σ (Option α) :=
  m.fetch c q.lastStatement

/-- **The value that is found by a key.** -/
def find (m : Model α) (c : Connection σ) (q : ModelQuery) (id : Value) : Run σ (Option α) :=
  m.first c (q.found id)

/-- The value that is found by a key and has to be there. -/
def findOrFail (m : Model α) (c : Connection σ) (id : Value) : Run σ α := do
  match ← m.find c m.query id with
  | some a => pure a
  | none => throw (.noRow m.table m.findColumn id)

/-! ## Writing -/

/-- **Inserts a row** and returns its key, if the executor knows it. -/
def create (m : Model α) (c : Connection σ) (data : Payload) : Run σ (Option Value) := do
  c.insertGetId (m.inserting (← Run.now) data)

/-- Deletes the row of a primary key. -/
def destroy (m : Model α) (c : Connection σ) (id : Value) : Run σ Nat :=
  (m.query.whereEqual m.primaryKey id).delete c

/-- The query for the row of a value, softly deleted or not. -/
def ownRow (m : Model α) (id : Value) : ModelQuery :=
  (m.query.step (.trashed .included)).whereEqual m.primaryKey id

/-- **Saves a value**: updates its row if it has a key, else inserts one and takes over the key.
    Answers whether a row was written. -/
def save (m : Model α) (c : Connection σ) (a : α) : Run σ (Bool × α) := do
  let data := (m.attributes a).erase m.primaryKey
  match m.id? a with
  | some id =>
    let affected ← (m.ownRow id).update c data
    return (affected > 0, a)
  | none =>
    match ← m.create c data with
    | some id => return (true, m.setId a id)
    | none => return (true, a)

/-- **Deletes the row of a value.** -/
def delete (m : Model α) (c : Connection σ) (a : α) : Run σ Nat :=
  match m.id? a with
  | some id => m.destroy c id
  | none => throw (.misuse (.noPrimaryKey m.table))

/-- **Reads the row of a value again.** Answers whether there is one. -/
def refresh (m : Model α) (c : Connection σ) (a : α) : Run σ (Bool × α) := do
  match m.id? a with
  | none => return (false, a)
  | some id =>
    match ← m.first c (m.ownRow id) with
    | some fresh => return (true, fresh)
    | none => return (false, a)

end Model

end FluentSql
