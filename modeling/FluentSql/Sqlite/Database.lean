import FluentSql.Error
import FluentSql.Row
import FluentSql.Sqlite.Command
/-!
# `FluentSql.Sqlite.Database` — tables in memory

A table is a list of records in the order of their numbers. One column may be declared to be that
number. Columns have no types: what is stored comes back.

* `Relation.insert`, `Relation.update`, `Relation.delete` — the changes of a table;
* `Database.plan` — a command with its names resolved, which waits for the values of its parameters.
-/

namespace FluentSql.Sqlite

open FluentSql.Number FluentSql.Text

/-! ## Values -/

/-- A value as it is stored: truth values are numbers, and a float that is no number is null. -/
def stored : Value → Value
  | .bool b => .int (if b then 1 else 0)
  | .float x => if x.isNaN then .null else .float x
  | v => v

/-- A float that is a whole number of 64 bits, ends excluded. -/
def wholeFloat? (x : Double) : Option Int :=
  let n := x.toFloat.toInt64
  if n.toFloat == x.toFloat && n != Int64.minValue && n != Int64.maxValue then some n.toInt else none

/-- The whole number that a text spells, as a whole number or as a float. -/
def wholeText? (cs : List Char) : Option Int :=
  let space (c : Char) : Bool := isSpace c || c == '\x0b'
  let cs := ((cs.dropWhile space).reverse.dropWhile space).reverse
  let (negative, digits) := match cs with
    | '-' :: cs => (true, cs)
    | '+' :: cs => (false, cs)
    | cs => (false, cs)
  match parseWhole .signed64 cs with
  | .ok n => some n
  | .error _ => do
    let l ← decimal? digits
    wholeFloat? ((l.round nearestDouble).withSign negative)

/-- **The row number that a value stands for.** -/
def whole? : Value → Option Int
  | .int n => some n.toInt
  | .float x => wholeFloat? x
  | .text s => wholeText? s.toList
  | _ => none

/-- Whether two stored values are equal; null equals nothing. -/
def sameStored : Value → Value → Bool
  | .null, _ | _, .null => false
  | .int n, .float x | .float x, .int n => wholeFloat? x = some n.toInt
  | .float x, .float y => x.sameNumber y
  | v, w => v = w

/-! ## Tables -/

/-- **A record**: its number and the values of the columns. -/
structure Record where
  number : Int
  cells : List Value
  deriving Inhabited

/-- **A table.** -/
structure Relation where
  name : String
  columns : List String
  /-- The column that is the number of the record. -/
  key : Option Nat
  /-- The records in the order of their numbers. -/
  records : List Record := []
  deriving Inhabited

/-- Where the value of a column goes. -/
inductive Place where
  | number
  | cell (index : Nat)
  deriving DecidableEq, Repr

/-- What goes wrong in a database, in its words. -/
abbrev Refusable := Except String

namespace Relation

/-- The number of records. -/
def size (r : Relation) : Nat := r.records.length

/-- **The place of a column**, whose name is compared without case. The number of a record has names
    of its own, which columns may take. -/
def place? (r : Relation) (column : String) : Refusable Place :=
  match r.columns.findIdx? (equalIgnoringAsciiCase column) with
  | some i => .ok (if r.key = some i then .number else .cell i)
  | none =>
    if ["rowid", "oid", "_rowid_"].any (equalIgnoringAsciiCase column) then .ok .number
    else .error ("no such column: " ++ column)

/-- The value at a place. -/
def valueAt (record : Record) : Place → Value
  | .number => .int (Int64.ofInt record.number)
  | .cell i => record.cells.getD i .null

/-- A record as a row. -/
def row (r : Relation) (record : Record) : Row :=
  ⟨r.columns.mapIdx fun i column =>
    (column, valueAt record (if r.key = some i then .number else .cell i))⟩

/-- The number of the next record: one more than the greatest, and one at first. -/
def nextNumber (r : Relation) : Int :=
  match r.records.getLast? with
  | some last => last.number + 1
  | none => 1

/-- A record put into its place. -/
def place (record : Record) : List Record → List Record
  | [] => [record]
  | other :: records =>
    if record.number < other.number then record :: other :: records
    else other :: place record records

/-- The number that is given for a record; null is none. -/
def givenNumber? (given : List (Place × Value)) : Refusable (Option Int) :=
  match (given.filter fun (p, _) => p = .number).getLast? with
  | none | some (_, .null) => .ok none
  | some (_, v) => (whole? v).elim (.error "datatype mismatch") (.ok ∘ some)

/-- A record added; its number must be free. -/
def add (r : Relation) (record : Record) : Refusable Relation :=
  if r.records.any fun other => other.number = record.number then
    .error "UNIQUE constraint failed"
  else .ok { r with records := place record r.records }

/-- **A record inserted** with the first value given for each column; columns without a value are
    null, and a record without a number gets the next one. -/
def insert (r : Relation) (given : List (Place × Value)) : Refusable (Int × Relation) := do
  let number := (← givenNumber? given).getD r.nextNumber
  let cells := r.columns.mapIdx fun i _ => (given.lookup (.cell i)).getD .null
  return (number, ← r.add ⟨number, cells⟩)

/-- A record with values given; the last value given for a column counts. -/
def changed (record : Record) (given : List (Place × Value)) : Refusable Record := do
  let number ←
    if given.any fun (p, _) => p = .number then
      match ← givenNumber? given with
      | some n => pure n
      | none => .error "datatype mismatch"
    else pure record.number
  return ⟨number, record.cells.mapIdx fun i v => (given.reverse.lookup (.cell i)).getD v⟩

/-- **One record changed.** -/
def updateOne (given : List (Place × Value)) (r : Relation) (record : Record) :
    Refusable Relation := do
  let rest := r.records.filter fun other => other.number ≠ record.number
  { r with records := rest }.add (← changed record given)

/-- **Records changed**, one after the other. -/
def update (r : Relation) (which : Record → Bool) (given : List (Place × Value)) :
    Refusable Relation :=
  (r.records.filter which).foldlM (updateOne given) r

/-- **Records deleted.** -/
def delete (r : Relation) (which : Record → Bool) : Relation :=
  { r with records := r.records.filter fun record => !which record }

end Relation

/-! ## Conditions -/

/-- The value of an operand, given those of the parameters from number one on. -/
def Operand.eval (values : List Value) : Operand → Value
  | .literal v => stored v
  | .param number => stored (values.getD (number - 1) .null)

/-- A side of a comparison with its column resolved: whether it is the number of the record, and its
    value. -/
def Term.plan (r : Relation) : Term → Refusable (Bool × (List Value → Record → Value))
  | .column name => do
    let p ← r.place? name
    return (p = .number, fun _ record => Relation.valueAt record p)
  | .operand o => return (false, fun values _ => o.eval values)

/-- **Equality**; beside the number of a record, text and floats are numbers if they spell one. -/
def compare (numeric : Bool) (v w : Value) : Bool :=
  if numeric then
    match whole? v, whole? w with
    | some m, some n => m = n
    | _, _ => false
  else sameStored v w

/-- **A condition with its columns resolved.** -/
def Condition.plan (r : Relation) : Condition → Refusable (List Value → Record → Bool)
  | .all => return fun _ _ => true
  | .equal left right => do
    let (numeric, left) ← left.plan r
    let (numeric', right) ← right.plan r
    return fun values record =>
      compare (numeric || numeric') (left values record) (right values record)
  | .among left items => do
    let (numeric, left) ← left.plan r
    return fun values record =>
      items.any fun item => compare numeric (left values record) (item.eval values)

/-! ## Databases -/

/-- **A database.** -/
structure Database where
  relations : List Relation := []
  /-- The number of the record inserted last. -/
  lastNumber : Int := 0
  deriving Inhabited

/-- What a command did. -/
structure Outcome where
  affected : Nat := 0
  rows : List Row := []

/-- **A command that waits for the values of its parameters.** -/
abbrev Plan := List Value → Refusable Outcome × Database

namespace Database

/-- The table of a name, whose case does not matter. -/
def relation? (db : Database) (name : String) : Refusable Relation :=
  match db.relations.find? fun r => equalIgnoringAsciiCase r.name name with
  | some r => .ok r
  | none => .error ("no such table: " ++ name)

/-- A table replaced by one of the same name. -/
def replace (db : Database) (r : Relation) : Database :=
  { db with relations := db.relations.map fun other => if other.name = r.name then r else other }

/-- Whether there is a table of a name. -/
def has (db : Database) (name : String) : Bool :=
  db.relations.any fun r => equalIgnoringAsciiCase r.name name

/-- A table created. -/
def create (db : Database) (name : String) (columns : List ColumnDef) : Refusable Database :=
  let names := columns.map (·.name)
  if db.has name then .error ("table already exists: " ++ name)
  else if ¬ (names.map asciiLower).Nodup then .error "duplicate column name"
  else .ok { db with
    relations := db.relations ++ [⟨name, names, columns.findIdx? (·.isKey), []⟩] }

/-- Records inserted one after the other: how many there were, and the database. A record that cannot
    be inserted takes those before it away again, but the number of the last of them is kept. -/
def insertAll (db : Database) (r : Relation) (number : Int) (count : Nat) :
    List (List (Place × Value)) → Refusable Outcome × Database
  | [] => (.ok { affected := count }, { db.replace r with lastNumber := number })
  | given :: rest =>
    match r.insert given with
    | .ok (number, r) => insertAll db r number (count + 1) rest
    | .error message => (.error message, { db with lastNumber := number })

/-- The places of the columns of an insertion, as many as each record has values. -/
def insertPlaces (r : Relation) (columns : Option (List String)) (rows : List (List Operand)) :
    Refusable (List Place) := do
  let places ← (columns.getD r.columns).mapM r.place?
  if rows.all fun row => row.length = places.length then return places
  else throw "wrong number of values"

/-- The records of a selection: by their numbers, or backwards. -/
def ordered (r : Relation) : Option (String × Bool) → Refusable (List Record → List Record)
  | none => return id
  | some (column, ascending) => do
    match ← r.place? column with
    | .number => return if ascending then id else List.reverse
    | .cell _ => throw ("cannot order by " ++ column)

/-- **A command with its names resolved.** -/
def plan (db : Database) : Command → Refusable Plan
  | .setting answers => return fun _ => (.ok { rows := if answers then [⟨[]⟩] else [] }, db)
  | .create table columns unlessPresent => do
    let db ← if unlessPresent && db.has table then pure db else db.create table columns
    return fun _ => (.ok {}, db)
  | .drop table ifPresent => do
    if ifPresent && !db.has table then return fun _ => (.ok {}, db)
    let r ← db.relation? table
    return fun _ =>
      (.ok {}, { db with relations := db.relations.filter fun other => other.name ≠ r.name })
  | .insert table columns rows => do
    let r ← db.relation? table
    let places ← insertPlaces r columns rows
    return fun values =>
      db.insertAll r db.lastNumber 0 (rows.map fun row => places.zip (row.map (·.eval values)))
  | .update table changes which => do
    let r ← db.relation? table
    let places ← changes.mapM fun (column, o) => do return (← r.place? column, o)
    let which ← which.plan r
    return fun values =>
      match r.update (which values) (places.map fun (p, o) => (p, o.eval values)) with
      | .ok changed =>
        (.ok { affected := (r.records.filter (which values)).length }, db.replace changed)
      | .error message => (.error message, db)
  | .delete table which => do
    let r ← db.relation? table
    let which ← which.plan r
    return fun values =>
      let left := r.delete (which values)
      (.ok { affected := r.size - left.size }, db.replace left)
  | .select selection table which order => do
    let r ← db.relation? table
    let which ← which.plan r
    let arrange ← ordered r order
    return fun values =>
      let records := arrange (r.records.filter (which values))
      let rows := match selection with
        | .rows => records.map r.row
        | .count called => [⟨[(called, .int (Int64.ofNat records.length))]⟩]
      (.ok { rows }, db)
  | .values items =>
    return fun values =>
      (.ok { rows := [⟨items.map fun (o, called) => (called, o.eval values)⟩] }, db)

end Database

end FluentSql.Sqlite
