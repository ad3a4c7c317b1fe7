import FluentSql.Executor
/-!
# `FluentSql.Executor.Script` — an executor that answers from a script

Every statement is recorded and answered by the next response of a list; when the list is used up,
nothing is affected and there are no rows. It serves to see what is run without a database.
-/

namespace FluentSql

/-- An answer of the script. -/
inductive Response where
  | failure (message : String)
  | answer (affected : Nat) (rows : List Row)
  deriving Inhabited

/-- A recorded call. -/
inductive RecordedCall where
  | execute (sql : String) (binds : List Bind)
  | fetchAll (sql : String) (binds : List Bind)
  | lastInsertId
  deriving DecidableEq, Inhabited

/-- **A script** and what was recorded so far. -/
structure Script where
  responses : List Response := []
  /-- The keys of inserted rows; without a list no keys are known and asking is not recorded. -/
  ids : Option (List Value) := none
  calls : List RecordedCall := []
  deriving Inhabited

namespace Script

/-- A call recorded. -/
def record (call : RecordedCall) (s : Script) : Script := { s with calls := s.calls ++ [call] }

/-- The next response, taken off the list. -/
def next (s : Script) : Response × Script :=
  match s.responses with
  | [] => (.answer 0 [], s)
  | response :: responses => (response, { s with responses := responses })

/-- A response read as the answer to a call. -/
def respond {α : Type} (read : Nat → List Row → α) (s : Script) : Except Error α × Script :=
  match s.next with
  | (.failure message, s) => (.error (.executor message), s)
  | (.answer affected rows, s) => (.ok (read affected rows), s)

/-- The next key of an inserted row. -/
def nextId (s : Script) : Except Error (Option Value) × Script :=
  match s.ids with
  | none => (.ok none, s)
  | some [] => (.ok none, s.record .lastInsertId)
  | some (id :: ids) => (.ok (some id), { s.record .lastInsertId with ids := some ids })

/-- **The executor** that goes by a driver's name. -/
def executor (driverName : String) : Executor Script where
  driverName := driverName
  execute sql binds s := (s.record (.execute sql binds)).respond fun affected _ => affected
  fetchAll sql binds s := (s.record (.fetchAll sql binds)).respond fun _ rows => rows
  lastInsertId := nextId

end Script

end FluentSql
