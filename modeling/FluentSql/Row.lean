import FluentSql.Error
/-!
# `FluentSql.Row` — rows and the reading of their columns

A row is a list of named values. `FromValue` is the class of types that a value can be read as, and
`ToValue` that of types that can be stored; `Row.tryGet` reads one column.
-/

namespace FluentSql

open FluentSql.Number FluentSql.Text

/-- **A row.** -/
structure Row where
  columns : List (String × Value) := []
  deriving DecidableEq, Inhabited

/-- **Types that a value can be read as.** -/
class FromValue (α : Type) where
  fromValue : Value → Except DecodeFault α

/-- **Types that can be stored as a value.** -/
class ToValue (α : Type) where
  toValue : α → Value

export FromValue (fromValue)
export ToValue (toValue)

/-! ## Storing -/

instance : ToValue Value := ⟨id⟩
instance : ToValue Bool := ⟨.bool⟩
instance : ToValue Int64 := ⟨.int⟩
instance : ToValue Int32 := ⟨fun n => .int n.toInt64⟩
instance : ToValue UInt64 := ⟨Value.ofUnsigned⟩
instance : ToValue Double := ⟨.float⟩
instance : ToValue String := ⟨.text⟩
instance : ToValue (List UInt8) := ⟨.blob⟩
instance : ToValue Date := ⟨Value.ofDate⟩
instance : ToValue DateTime := ⟨Value.ofDateTime⟩
instance : ToValue ZonedTime := ⟨Value.ofZonedTime⟩
instance {α : Type} [ToValue α] : ToValue (Option α) := ⟨fun x => Value.ofOption (x.map toValue)⟩

/-! ## Reading -/

/-- A whole number. -/
def wholeOfValue (v : Value) : Except DecodeFault Int64 :=
  match v.asInteger with
  | some n => .ok n
  | none => .error (.mismatch "integer" v)

/-- A whole number of a range. -/
def rangedOfValue (range : WholeRange) (v : Value) : Except DecodeFault Int := do
  let n ← wholeOfValue v
  match range.narrow n.toInt with
  | .ok n => .ok n
  | .error fault => .error (.narrowing fault)

instance : FromValue Value := ⟨.ok⟩
instance : FromValue Int64 := ⟨wholeOfValue⟩
instance : FromValue Int32 := ⟨fun v => (rangedOfValue .signed32 v).map Int32.ofInt⟩
instance : FromValue UInt64 := ⟨fun v => (rangedOfValue .unsigned64 v).map UInt64.ofInt⟩

instance : FromValue Double where
  fromValue v :=
    match v.asNumber with
    | some x => .ok x
    | none => .error (.mismatch "number" v)

/-- **Truth values** are also read from numbers and from the texts databases write for them. -/
instance : FromValue Bool where
  fromValue
    | .bool b => .ok b
    | .int n => .ok (n != 0)
    | .text "t" | .text "true" => .ok true
    | .text "f" | .text "false" => .ok false
    | v => .error (.mismatch "boolean" v)

/-- **Text** is read from everything but null; bytes have to be UTF-8. -/
instance : FromValue String where
  fromValue
    | .null => .error (.mismatch "text" .null)
    | .blob bytes =>
      match Utf8.decode bytes with
      | .ok s => .ok s
      | .error fault => .error (.encoding fault)
    | v => .ok v.plainText

instance : FromValue (List UInt8) where
  fromValue
    | .blob bytes => .ok bytes
    | .text s => .ok (Utf8.encode s)
    | v => .error (.mismatch "blob" v)

/-- A text read as a calendar value. -/
def calendarOfValue {α : Type} (expected : String) (read : String → Except Calendar.Fault α)
    (v : Value) : Except DecodeFault α :=
  match v.asText with
  | none => .error (.mismatch expected v)
  | some s =>
    match read s with
    | .ok t => .ok t
    | .error fault => .error (.calendar fault)

instance : FromValue DateTime := ⟨calendarOfValue "datetime text" Calendar.readDateTime⟩
instance : FromValue Date := ⟨calendarOfValue "date text" Calendar.readDate⟩

instance {α : Type} [FromValue α] : FromValue (Option α) where
  fromValue
    | .null => .ok none
    | v => (fromValue v).map some

namespace Row

/-- The value of the first column of this name. -/
def get? (row : Row) (column : String) : Option Value := row.columns.lookup column

/-- **Reading a column** as a type. -/
def tryGet (α : Type) [FromValue α] (row : Row) (column : String) : Except Error α :=
  match row.get? column with
  | none => .error (.decode column .missing)
  | some v =>
    match fromValue v with
    | .ok x => .ok x
    | .error fault => .error (.decode column fault)

/-- The column names in order. -/
def names (row : Row) : List String := row.columns.map Prod.fst

/-- The values in order. -/
def values (row : Row) : List Value := row.columns.map Prod.snd

/-- The number of columns. -/
def size (row : Row) : Nat := row.columns.length

/-- Whether there is no column. -/
def isEmpty (row : Row) : Bool := row.columns.isEmpty

/-- **Equality of what rows mean**: the same names in the same order, with agreeing values. -/
def agrees (row other : Row) : Bool :=
  row.names == other.names && row.size == other.size
    && (row.values.zip other.values).all fun (v, w) => v.agrees w

end Row

end FluentSql
