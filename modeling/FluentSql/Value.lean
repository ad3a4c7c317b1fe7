import FluentSql.Calendar
import FluentSql.Json
import FluentSql.Number.FloatReader
import FluentSql.Number.FloatText
import FluentSql.Text.Blank
import FluentSql.Text.Printable
import FluentSql.Text.Quoted
import FluentSql.Uuid
/-!
# `FluentSql.Value` — values bound to placeholders

A `Value` is what a statement sends in place of a placeholder and what a column of a row holds. Its
kind decides once how it is bound (`Value.bindType`).

* `Value.asInteger`, `Value.asNumber`, `Value.asText` — the lenient readings of a value;
* `Value.literal` — the value written out in SQL, for logs only;
* `Value.ofJson`, `Value.ofUnsigned`, … — conversions from other kinds of data.
-/

namespace FluentSql

open FluentSql.Number FluentSql.Text

/-- **A bound value.** -/
inductive Value where
  | null
  | bool (b : Bool)
  | int (n : Int64)
  | float (x : Double)
  | text (s : String)
  | blob (bytes : List UInt8)
  deriving DecidableEq, Inhabited

/-- How a driver is told to bind a value. -/
inductive BindType where
  | null
  | bool
  | int
  | lob
  | str
  deriving DecidableEq, Repr

namespace Value

/-! ## Kinds -/

/-- **The bind type of a value.** Floats travel as text so that no digit is lost. -/
def bindType : Value → BindType
  | .null => .null
  | .bool _ => .bool
  | .int _ => .int
  | .float _ => .str
  | .text _ => .str
  | .blob _ => .lob

/-- Whether the value is null. -/
def isNull : Value → Bool
  | .null => true
  | _ => false

/-- **Equality of what values mean**: floats are compared as numbers, so a float that is no number
    equals nothing. -/
def agrees : Value → Value → Bool
  | .null, .null => true
  | .bool a, .bool b => a == b
  | .int m, .int n => m == n
  | .float x, .float y => x.sameNumber y
  | .text s, .text t => s == t
  | .blob a, .blob b => a == b
  | _, _ => false

/-! ## Lenient readings -/

/-- **The value as a whole number**: numbers, truth values, and text that spells a number. -/
def asInteger : Value → Option Int64
  | .int n => some n
  | .bool b => some (if b then 1 else 0)
  | .text s => (parseWhole .signed64 (trimChars s.toList)).toOption.map Int64.ofInt
  | _ => none

/-- **The value as a float**: numbers, and text that spells one; truth values are none. -/
def asNumber : Value → Option Double
  | .float x => some x
  | .int n => some (.ofFloat n.toFloat)
  | .text s => (parseDouble (trimChars s.toList)).toOption
  | _ => none

/-- The text of a text value. -/
def asText : Value → Option String
  | .text s => some s
  | _ => none

/-! ## Text -/

/-- **The value as an SQL literal**, for logs and debugging. -/
def literal : Value → String
  | .null => "NULL"
  | .bool b => if b then "true" else "false"
  | .int n => toString n.toInt
  | .float x => plain x
  | .text s => quoteWith '\'' s
  | .blob bytes => "X'" ++ Hex.upper bytes ++ "'"

/-- **The value as plain text**: text as it is, all else as a literal. -/
def plainText : Value → String
  | .text s => s
  | v => v.literal

/-- The value as an error message shows it, with its kind. -/
def describe : Value → String
  | .null => "Null"
  | .bool b => if b then "Bool(true)" else "Bool(false)"
  | .int n => s!"Int({n.toInt})"
  | .float x => s!"Float({detailed x})"
  | .text s => s!"Text({quoteForMessage s})"
  | .blob bytes => "Blob([" ++ ", ".intercalate (bytes.map fun b => toString b.toNat) ++ "])"

/-! ## Conversions -/

/-- A signed number if it fits 64 bits, else the text of its digits. -/
def ofUnsigned (n : UInt64) : Value :=
  if WholeRange.signed64.contains n.toNat then .int (Int64.ofNat n.toNat) else .text (toString n.toNat)

/-- **A JSON value**: scalars keep their kind, arrays and objects become their compact text. -/
def ofJson : Json → Value
  | .null => .null
  | .bool b => .bool b
  | .int n =>
    if WholeRange.signed64.low ≤ n ∧ n ≤ WholeRange.signed64.high then .int (Int64.ofInt n)
    else .float (.ofFloat (Float.ofInt n))
  | .float x => .float x
  | .str s => .text s
  | .arr items => .text (Json.arr items).compact
  | .obj members => .text (Json.obj members).compact

/-- The stored text of a date. -/
def ofDate (d : Date) : Value := .text d.text

/-- The stored text of a date-time. -/
def ofDateTime (t : DateTime) : Value := .text t.text

/-- The stored text of a zoned time, which is that of the time on UTC clocks. -/
def ofZonedTime (t : ZonedTime) : Value := ofDateTime t.utc

/-- The text of an identifier. -/
def ofUuid (bytes : List UInt8) : Value := .text (Uuid.text bytes)

/-- A value that may be missing; missing is null. -/
def ofOption (v : Option Value) : Value := v.getD .null

end Value

end FluentSql
