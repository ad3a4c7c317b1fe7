import FluentSql.Calendar.Reader
import FluentSql.Number.Whole
import FluentSql.Text.Utf8
import FluentSql.Value
/-!
# `FluentSql.Error.Decode` — why a column cannot be read
-/

namespace FluentSql

/-- **Why a column of a row cannot be read** as the kind of data asked for. -/
inductive DecodeFault where
  /-- The row has no such column. -/
  | missing
  /-- The value is of another kind. -/
  | mismatch (expected : String) (found : Value)
  /-- The number is out of range. -/
  | narrowing (fault : Number.WholeFault)
  /-- The bytes are no text. -/
  | encoding (fault : Text.Utf8.Fault)
  /-- The text is no date or time. -/
  | calendar (fault : Calendar.Fault)
  /-- The database sent a type that is not understood. -/
  | unsupportedType (name : String)
  /-- Any other reason, in its own words. -/
  | other (message : String)

/-- **The wording of a decoding fault.** -/
def DecodeFault.message : DecodeFault → String
  | .missing => "column not found in row"
  | .mismatch expected found => "expected " ++ expected ++ ", got " ++ found.describe
  | .narrowing fault => fault.message
  | .encoding fault => fault.message
  | .calendar fault => fault.message
  | .unsupportedType name => "unsupported column type " ++ name
  | .other message => message

end FluentSql
