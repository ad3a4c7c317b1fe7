import FluentSql.Error
import FluentSql.Json.Reader
import FluentSql.Number.BigEndian
import FluentSql.Postgres.ColumnType
import FluentSql.Postgres.Epoch
import FluentSql.Row
/-!
# `FluentSql.Postgres.Decode` — cells of a result as values

A cell holds the binary form of its column's type. A cell that does not have that form is the
database's fault; a type that is not understood, or text that is no UTF-8, is a fault of the column.
-/

namespace FluentSql.Postgres

open FluentSql.Number FluentSql.Text

/-- A column of a result. -/
structure ResultColumn where
  name : String
  type : ColumnType
  deriving DecidableEq, Repr, Inhabited

/-- A cell of exactly `width` bytes. -/
def exactly {α : Type} (width : Nat) (read : List UInt8 → α) (bytes : List UInt8) : Option α :=
  if bytes.length = width then some (read bytes) else none

/-- A signed number of `width` bytes. -/
def readSigned? (width : Nat) : List UInt8 → Option Int := exactly width BigEndian.toInt

/-- A date-time in microseconds. -/
def readDateTime? (bytes : List UInt8) : Option Value :=
  ((readSigned? 8 bytes).bind Epoch.dateTime?).map Value.ofDateTime

/-- JSON text. -/
def readJson? (bytes : List UInt8) : Option Value :=
  ((Utf8.decode bytes).toOption.bind Json.parse?).map Value.ofJson

/-- Text behind the version of its form. -/
def readText? (version : List UInt8) (bytes : List UInt8) : Option Value :=
  if version.isPrefixOf bytes then (Utf8.decode (bytes.drop version.length)).toOption.map .text
  else none

/-- **The value of a cell**, `none` if it does not have the form of the type. -/
def decodeCell? (type : ColumnType) (bytes : List UInt8) : Option Value :=
  match type with
  | .bool => exactly 1 (fun bytes => .bool (bytes != [0])) bytes
  | .int2 => (readSigned? 2 bytes).map fun n => .int (Int64.ofInt n)
  | .int4 => (readSigned? 4 bytes).map fun n => .int (Int64.ofInt n)
  | .int8 => (readSigned? 8 bytes).map fun n => .int (Int64.ofInt n)
  | .float4 =>
    exactly 4 (fun bytes => .float (.ofSingle (UInt32.ofNat (BigEndian.toNat bytes))))
      bytes
  | .float8 =>
    exactly 8 (fun bytes => .float ⟨UInt64.ofNat (BigEndian.toNat bytes)⟩) bytes
  | .bytea => some (.blob bytes)
  | .timestamp | .timestamptz => readDateTime? bytes
  | .date => ((readSigned? 4 bytes).bind Epoch.date?).map Value.ofDate
  | .uuid => exactly 16 Value.ofUuid bytes
  | .json => readJson? bytes
  | .jsonb =>
    match bytes with
    | 1 :: bytes => readJson? bytes
    | _ => none
  | .text | .varchar | .bpchar | .name | .unknown => readText? [] bytes
  | .other _ => readText? type.textVersion bytes

/-- **A cell of a column as a value.** -/
def decodeCell (column : ResultColumn) (cell : Option (List UInt8)) : Except Error Value :=
  let unsupported := Error.decode column.name (.unsupportedType column.type.label)
  let fault :=
    match column.type with
    | .other _ => unsupported
    | type =>
      if type.isText then unsupported
      else .database .postgres ("cell does not have the form of " ++ type.label)
  if column.type.isRead then
    match cell with
    | none => .ok .null
    | some bytes => (decodeCell? column.type bytes).elim (.error fault) .ok
  else .error unsupported

/-- **A row of cells as a row**: the first column that cannot be read is the error. -/
def decodeRow (columns : List ResultColumn) (cells : List (Option (List UInt8))) :
    Except Error Row := do
  let values ← (columns.zip cells).mapM fun (column, cell) => do
    return (column.name, ← decodeCell column cell)
  return ⟨values⟩

end FluentSql.Postgres
