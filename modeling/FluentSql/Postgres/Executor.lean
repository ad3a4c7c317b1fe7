import FluentSql.Postgres.Positional
import FluentSql.Postgres.Server
/-!
# `FluentSql.Postgres.Executor` — running statements on a server

A statement is numbered, prepared and bound. What goes wrong before the parameters are sent stops it
there: a placeholder without a value before anything is sent, parameters that the server does not
expect after the statement is prepared.
-/

namespace FluentSql.Postgres

/-- The server's way to refuse. -/
def refusal (message : String) : Error := .database .postgres message

/-- **The cells of parameters**, as many as the server expects and each of its type. -/
def encodeAll (types : List ColumnType) (values : List Value) :
    Except Error (List (Option (List UInt8))) :=
  if types.length ≠ values.length then
    .error (refusal s!"expected {types.length} parameters but got {values.length}")
  else
    (values.zip types).mapM fun (v, type) =>
      (encode v type).mapError fun fault => refusal fault.message

/-- **A message sent**, if it can be. -/
def send (message : Message) : Call Server Unit := fun s =>
  if message.isSendable then (.ok (), s.receive message)
  else (.error (refusal "statement holds a NUL"), s)

/-- **A numbered statement run**: prepared, bound and executed. -/
def perform (sql : String) (values : List Value) : Call Server Unit := fun s =>
  match send (.prepare sql) s with
  | (.error e, s) => (.error e, s)
  | (.ok (), s) =>
    match encodeAll s.paramTypes values with
    | .error e => (.error e, s)
    | .ok cells => send (.bind cells) s

/-- **A statement run** and its answer read off the server. -/
def run {α : Type} (read : Server → Except Error α) (sql : String) (binds : List Bind) :
    Call Server α := fun s =>
  match positional sql binds with
  | .error e => (.error e, s)
  | .ok (sql, values) =>
    match perform sql values s with
    | (.error e, s) => (.error e, s)
    | (.ok (), s) => if s.isReadable then (read s, s) else (.error (refusal "tag holds a NUL"), s)

/-- The one cell of the one row, a number of eight bytes. -/
def Server.lastValue (s : Server) : Except Error (Option Value) :=
  match s.columns, s.rows with
  | ⟨_, .int8⟩ :: _, [some bytes :: _] =>
    (decodeCell? .int8 bytes).elim (.error (refusal "cell is no number")) (.ok ∘ some)
  | _, _ => .error (refusal "no single number")

/-- **The executor** on a server. -/
def executor : Executor Server where
  driverName := Dialect.postgres.driverName
  execute := run fun s => .ok s.affected
  fetchAll := run fun s => s.rows.mapM (decodeRow s.columns)
  lastInsertId := run Server.lastValue "SELECT lastval()" []

end FluentSql.Postgres
