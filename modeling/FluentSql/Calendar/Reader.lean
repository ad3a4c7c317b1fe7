import FluentSql.Calendar
import FluentSql.Number.FloatReader
import FluentSql.Text.Blank
/-!
# `FluentSql.Calendar.Reader` — reading dates and times from text

A layout is a list of items that are consumed from left to right; the first item that does not fit is
the fault. Numbers may be preceded by blanks, a year may carry a sign and then any number of digits,
and the range of each number is checked at once. Only after the whole text is consumed is the date
checked to exist.
-/

namespace FluentSql.Calendar

open FluentSql.Number FluentSql.Text

/-- **Why a text does not follow a layout.** -/
inductive Fault where
  | premature
  | invalid
  | outOfRange
  | trailing
  deriving DecidableEq, Repr

/-- The wording of a fault. -/
def Fault.message : Fault → String
  | .premature => "premature end of input"
  | .invalid => "input contains invalid characters"
  | .outOfRange => "input is out of range"
  | .trailing => "trailing input"

/-- The numbers of a date-time. -/
inductive Field where
  | year
  | month
  | day
  | hour
  | minute
  | second
  deriving DecidableEq, Repr

/-- **One item of a layout.** -/
inductive Item where
  | field (f : Field)
  /-- An optional point and digits of a second. -/
  | fraction
  /-- Exactly this character. -/
  | mark (c : Char)
  /-- Any number of blanks. -/
  | blanks
  deriving DecidableEq, Repr

namespace Field

/-- The range of a number. -/
def range : Field → WholeRange
  | .year => .signed32
  | .month => ⟨1, 12⟩
  | .day => ⟨1, 31⟩
  | .hour => ⟨0, 23⟩
  | .minute => ⟨0, 59⟩
  | .second => ⟨0, 60⟩

/-- The number put into its place. -/
def store (f : Field) (n : Int) (t : DateTime) : DateTime :=
  match f with
  | .year => { t with date.year := n }
  | .month => { t with date.month := n.toNat }
  | .day => { t with date.day := n.toNat }
  | .hour => { t with hour := n.toNat }
  | .minute => { t with minute := n.toNat }
  | .second => { t with second := n.toNat }

end Field

/-- One to `width` digits, as many as there are, and the rest. -/
def readNumber (width : Option Nat) (cs : List Char) : Except Fault (Nat × List Char) :=
  let digits := cs.takeWhile Char.isDigit
  let digits := (width.map digits.take).getD digits
  match cs, digits with
  | [], _ => .error .premature
  | _, [] => .error .invalid
  | _, _ => .ok (digitsValue digits, cs.drop digits.length)

/-- The number of a field: four digits for a year without a sign, two for the others. -/
def readField (f : Field) (cs : List Char) : Except Fault (Int × List Char) :=
  match f, cs.dropWhile isBlank with
  | .year, '-' :: cs => (readNumber none cs).map fun (n, rest) => (-(n : Int), rest)
  | .year, '+' :: cs => (readNumber none cs).map fun (n, rest) => ((n : Int), rest)
  | .year, cs => (readNumber (some 4) cs).map fun (n, rest) => ((n : Int), rest)
  | _, cs => (readNumber (some 2) cs).map fun (n, rest) => ((n : Int), rest)

/-- The nanoseconds that the first nine digits of a fraction spell. -/
def nanoseconds (digits : List Char) : Nat :=
  digitsValue ((digits ++ List.replicate 9 '0').take 9)

/-- **One item consumed.** -/
def Item.read (item : Item) (t : DateTime) (cs : List Char) : Except Fault (DateTime × List Char) :=
  match item with
  | .field f => do
    let (n, rest) ← readField f cs
    match f.range.narrow n with
    | .ok n => .ok (f.store n t, rest)
    | .error _ => .error .outOfRange
  | .fraction =>
    match cs with
    | '.' :: cs =>
      match cs, cs.takeWhile Char.isDigit with
      | [], _ => .error .premature
      | _, [] => .error .invalid
      | _, digits => .ok ({ t with nanosecond := nanoseconds digits }, cs.dropWhile Char.isDigit)
    | cs => .ok (t, cs)
  | .mark c =>
    match cs with
    | [] => .error .premature
    | d :: rest => if c = d then .ok (t, rest) else .error .invalid
  | .blanks => .ok (t, cs.dropWhile isBlank)

/-- A layout consumed item by item, and what is left of the text. -/
def readItems : List Item → DateTime → List Char → Except Fault (DateTime × List Char)
  | [], t, cs => .ok (t, cs)
  | item :: items, t, cs => do
    let (t, rest) ← item.read t cs
    readItems items t rest

/-- The date-time before any field is read. -/
def midnight : DateTime := ⟨⟨1970, 1, 1⟩, 0, 0, 0, 0⟩

/-- **Reading by a layout**: all items, nothing left over, a date that exists. -/
def read (layout : List Item) (s : String) : Except Fault DateTime := do
  let (t, rest) ← readItems layout midnight s.toList
  if !rest.isEmpty then .error .trailing
  else if t.date.isValid then .ok t
  else .error .outOfRange

/-! ## Layouts -/

/-- Year, month and day with dashes. -/
def dateLayout : List Item :=
  [.field .year, .mark '-', .field .month, .mark '-', .field .day]

/-- Hour, minute and second with colons. -/
def clockLayout : List Item :=
  [.field .hour, .mark ':', .field .minute, .mark ':', .field .second]

/-- The layout of stored date-times. -/
def storedLayout : List Item :=
  dateLayout ++ .blanks :: clockLayout

/-- The layout of stored date-times with a fraction. -/
def fractionalLayout : List Item :=
  storedLayout ++ [.fraction]

/-- The layout with a `T` between date and time, and a fraction. -/
def markedLayout : List Item :=
  dateLayout ++ .mark 'T' :: clockLayout ++ [.fraction]

/-- **Reading a date.** -/
def readDate (s : String) : Except Fault Date :=
  (read dateLayout s).map DateTime.date

/-- **Reading a stored date-time**, without a fraction. -/
def readStored (s : String) : Except Fault DateTime :=
  read storedLayout s

/-- **Reading a date-time in any layout**; the fault is that of the last layout tried. -/
def readDateTime (s : String) : Except Fault DateTime :=
  match read storedLayout s with
  | .ok t => .ok t
  | .error _ =>
    match read markedLayout s with
    | .ok t => .ok t
    | .error _ => read fractionalLayout s

/-! ## Zoned times -/

/-- The sign of an offset: plus, a hyphen or the minus sign U+2212. -/
def offsetSign? : Char → Option Int
  | '+' => some 1
  | '-' | '\u2212' => some (-1)
  | _ => none

/-- The offset from UTC in minutes: `Z` or a sign, hours and minutes of a day. -/
def readOffset : List Char → Option Int
  | ['Z'] => some 0
  | ['z'] => some 0
  | [sign, h, h', ':', m, m'] => do
    let sign ← offsetSign? sign
    let hours := digitsValue [h, h']
    let minutes := digitsValue [m, m']
    if [h, h', m, m'].all Char.isDigit && hours < 24 && minutes < 60 then
      some (sign * (hours * 60 + minutes : Nat))
    else none
  | _ => none

/-- Whether a text begins like `shape`, where `0` stands for any digit and `T` for what may stand
    between date and time. -/
def hasShape : List Char → List Char → Bool
  | [], _ => true
  | '0' :: shape, c :: cs => c.isDigit && hasShape shape cs
  | 'T' :: shape, c :: cs => ['T', 't', ' '].contains c && hasShape shape cs
  | mark :: shape, c :: cs => mark == c && hasShape shape cs
  | _ :: _, [] => false

/-- **A zoned time**: date, `T` or a space, time, all numbers in full width, an optional fraction and an
    offset. -/
def readZoned (s : String) : Option ZonedTime := do
  let cs := s.toList
  if !hasShape "0000-00-00T00:00:00".toList cs then none
  let between ← cs[10]?
  let layout := dateLayout ++ .mark between :: clockLayout ++ [.fraction]
  let (t, rest) ← (readItems layout midnight cs).toOption
  let offset ← readOffset rest
  if t.date.isValid then some ⟨t, offset⟩ else none

end FluentSql.Calendar
