import FluentSql.Calendar.Reader
import FluentSql.Json.Reader
import FluentSql.Number.BigEndian
import FluentSql.Postgres.ColumnType
import FluentSql.Postgres.Epoch
import FluentSql.Value
/-!
# `FluentSql.Postgres.Encode` — values as bytes of a parameter

A parameter is sent in the binary form of the type that the server expects. Whole numbers and text
are adapted to that type or refused; values of other kinds are written in the form of their own kind,
whatever the type.

* `encodeWhole`, `encodeText` — the two kinds that adapt;
* `encode` — every value; `none` stands for null.
-/

namespace FluentSql.Postgres

open FluentSql.Number FluentSql.Text

/-- **Why a value cannot be sent** as a type. -/
inductive EncodeFault where
  | whole (fault : WholeFault)
  | float (fault : FloatFault)
  | calendar (fault : Calendar.Fault)
  | notUuid
  | notJson
  deriving DecidableEq, Repr

/-- The wording of a fault. -/
def EncodeFault.message : EncodeFault → String
  | .whole fault => fault.message
  | .float fault => fault.message
  | .calendar fault => fault.message
  | .notUuid => "the text is no UUID"
  | .notJson => "the text is no JSON"

/-- The bytes of a text. -/
def textBytes (s : String) : List UInt8 := s.toUTF8.toList

/-- One byte for a truth value. -/
def boolBytes (b : Bool) : List UInt8 := [if b then 1 else 0]

/-! ## Floats -/

/-- The four bytes of the nearest single-precision number. -/
def singleBytes (x : Double) : List UInt8 :=
  BigEndian.ofNat 4 x.singleBits.toNat

/-- The eight bytes of a double. -/
def doubleBytes (x : Double) : List UInt8 :=
  BigEndian.ofNat 8 x.bits.toNat

/-- **A float**: of four bytes where the server expects one of those, its text where it expects text,
    else of eight bytes. -/
def encodeFloat (x : Double) (type : ColumnType) : List UInt8 :=
  if type.isText then textBytes (plain x)
  else
    match type with
    | .float4 => singleBytes x
    | _ => doubleBytes x

/-! ## Whole numbers -/

/-- A whole number in the range of a type, in as many bytes. -/
def narrowBytes (range : WholeRange) (width : Nat) (n : Int) : Except WholeFault (List UInt8) :=
  (range.narrow n).map (BigEndian.ofInt width)

/-- **A whole number** in the form of the type; a type that has none gets eight bytes. -/
def encodeWhole (n : Int64) (type : ColumnType) : Except WholeFault (List UInt8) :=
  if type.isText then .ok (textBytes (toString n.toInt))
  else
    match type with
    | .int2 => narrowBytes .signed16 2 n.toInt
    | .int4 => narrowBytes .signed32 4 n.toInt
    | .float4 => .ok (BigEndian.ofNat 4 n.toFloat32.toBits.toNat)
    | .float8 => .ok (doubleBytes (.ofFloat n.toFloat))
    | .bool => .ok (boolBytes (n != 0))
    | _ => .ok (BigEndian.ofInt 8 n.toInt)

/-! ## Text -/

/-- A text that spells a whole number, sent as one. -/
def encodeDigits (s : String) (type : ColumnType) : Except EncodeFault (List UInt8) :=
  match parseWhole .signed64 (trimChars s.toList) with
  | .ok n => (encodeWhole (Int64.ofInt n) type).mapError .whole
  | .error fault => .error (.whole fault)

/-- A text that spells a float, rounded to a double and then sent in the type's width. -/
def encodeDecimal (s : String) (bytes : Double → List UInt8) : Except EncodeFault (List UInt8) :=
  match parseDouble (trimChars s.toList) with
  | .ok x => .ok (bytes x)
  | .error fault => .error (.float fault)

/-- A text that spells a date-time. -/
def encodeDateTime (s : String) : Except EncodeFault (List UInt8) :=
  match Calendar.readStored s with
  | .ok t => .ok (BigEndian.ofInt 8 (Epoch.microseconds t))
  | .error fault => .error (.calendar fault)

/-- A text that spells a date. -/
def encodeDate (s : String) : Except EncodeFault (List UInt8) :=
  match Calendar.readDate s with
  | .ok d => .ok (BigEndian.ofInt 4 (Epoch.days d))
  | .error fault => .error (.calendar fault)

/-- A text that is JSON, in compact form behind `version`. -/
def encodeJson (s : String) (version : List UInt8) : Except EncodeFault (List UInt8) :=
  match Json.parse? s with
  | some j => .ok (version ++ textBytes j.compact)
  | none => .error .notJson

/-- **A text**: read as what the type holds, else sent as it is, behind the version of its form if the
    type has one. -/
def encodeText (s : String) (type : ColumnType) : Except EncodeFault (List UInt8) :=
  match type with
  | .timestamp | .timestamptz => encodeDateTime s
  | .date => encodeDate s
  | .uuid => (Uuid.parse? s).elim (.error .notUuid) .ok
  | .json => encodeJson s []
  | .jsonb => encodeJson s [1]
  | .int2 | .int4 | .int8 => encodeDigits s type
  | .float4 => encodeDecimal s singleBytes
  | .float8 => encodeDecimal s doubleBytes
  | type => .ok (type.textVersion ++ textBytes s)

/-! ## Values -/

/-- **A value as the bytes of a parameter**; null has none. -/
def encode (v : Value) (type : ColumnType) : Except EncodeFault (Option (List UInt8)) :=
  match v with
  | .null => .ok none
  | .bool b => .ok (some (boolBytes b))
  | .int n => ((encodeWhole n type).mapError .whole).map some
  | .float x => .ok (some (encodeFloat x type))
  | .text s => (encodeText s type).map some
  | .blob bytes => .ok (some bytes)

end FluentSql.Postgres
