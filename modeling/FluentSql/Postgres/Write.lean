import FluentSql.Postgres.Encode
/-!
# `FluentSql.Postgres.Write` — values written into the buffer of a request

The parameters of a request share one buffer, in which each is written behind those before it. Writing a
value tells null, which has no bytes, from what was written, or it fails and leaves the buffer with what
it had written by then. A text that the server wants as a number is read and written as that number.

* `putWhole`, `putFloat`, `putText` — the kinds that adapt to the type of the parameter;
* `write` — every value.
-/

namespace FluentSql.Postgres

open FluentSql.Number FluentSql.Text

variable {ε α : Type}

/-- **A computation that writes** behind what is in a buffer. A failure leaves what was written. -/
abbrev Writing := ExceptT EncodeFault (StateM (List UInt8))

/-- Whether a parameter is null. -/
inductive Presence where
  | absent
  | present
  deriving DecidableEq, Repr

namespace Writing

/-- What a computation answers and leaves in a buffer. -/
def outcome (w : Writing α) (out : List UInt8) : Except EncodeFault α × List UInt8 := w.run.run out

/-- Bytes behind the others. -/
def put (bytes : List UInt8) : Writing Unit := modify (· ++ bytes)

/-- What was read before anything is written. -/
def obtain (read : Except ε α) (fault : ε → EncodeFault) : Writing α :=
  match read with
  | .ok x => pure x
  | .error e => throw (fault e)

/-- A whole number in the range of a type, in as many bytes. -/
def putNarrowed (range : WholeRange) (width : Nat) (n : Int) : Writing Unit := do
  let n ← obtain (range.narrow n) .whole
  put (BigEndian.ofInt width n)

/-- **A whole number** in the form of the type. -/
def putWhole (n : Int64) (type : ColumnType) : Writing Unit :=
  match type with
  | .int2 => putNarrowed .signed16 2 n.toInt
  | .int4 => putNarrowed .signed32 4 n.toInt
  | .float4 => put (BigEndian.ofNat 4 n.toFloat32.toBits.toNat)
  | .float8 => put (doubleBytes (.ofFloat n.toFloat))
  | .bool => put (boolBytes (n != 0))
  | type =>
    if type.isText then put (textBytes (toString n.toInt)) else put (BigEndian.ofInt 8 n.toInt)

/-- **A float** in the form of the type. -/
def putFloat (x : Double) (type : ColumnType) : Writing Unit :=
  match type with
  | .float4 => put (singleBytes x)
  | type => if type.isText then put (textBytes (plain x)) else put (doubleBytes x)

/-- A text that spells a whole number, written as that number. -/
def putDigits (s : String) (type : ColumnType) : Writing Unit := do
  let n ← obtain (parseWhole .signed64 (trimChars s.toList)) .whole
  putWhole (Int64.ofInt n) type

/-- A text that spells a float, written as that float. -/
def putDecimal (s : String) (type : ColumnType) : Writing Unit := do
  let x ← obtain (parseDouble (trimChars s.toList)) .float
  putFloat x type

/-- A text that spells a date-time. -/
def putDateTime (s : String) : Writing Unit := do
  let t ← obtain (Calendar.readStored s) .calendar
  put (BigEndian.ofInt 8 (Epoch.microseconds t))

/-- A text that spells a date. -/
def putDate (s : String) : Writing Unit := do
  let d ← obtain (Calendar.readDate s) .calendar
  put (BigEndian.ofInt 4 (Epoch.days d))

/-- A text that spells an identifier. -/
def putUuid (s : String) : Writing Unit := do
  let bytes ← obtain ((Uuid.parse? s).elim (.error .notUuid) .ok) id
  put bytes

/-- A text that is JSON, in compact form behind `version`. -/
def putJson (s : String) (version : List UInt8) : Writing Unit := do
  let j ← obtain ((Json.parse? s).elim (.error .notJson) .ok) id
  put version
  put (textBytes j.compact)

/-- **A text**: read as what the type holds, else as it is, behind the version of its form if the type
    has one. -/
def putText (s : String) (type : ColumnType) : Writing Unit :=
  match type with
  | .timestamp | .timestamptz => putDateTime s
  | .date => putDate s
  | .uuid => putUuid s
  | .json => putJson s []
  | .jsonb => putJson s [1]
  | .int2 | .int4 | .int8 => putDigits s type
  | .float4 | .float8 => putDecimal s type
  | type => do
    put type.textVersion
    put (textBytes s)

end Writing

open Writing

/-- **A value as a parameter of a type.** -/
def write (v : Value) (type : ColumnType) : Writing Presence := do
  match v with
  | .null => return .absent
  | .bool b => put (boolBytes b)
  | .int n => putWhole n type
  | .float x => putFloat x type
  | .text s => putText s type
  | .blob bytes => put bytes
  return .present

end FluentSql.Postgres
