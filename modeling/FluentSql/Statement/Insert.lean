import FluentSql.Payload
import FluentSql.Select
/-!
# `FluentSql.Statement.Insert` — INSERT statements

The columns are those of the first row, in its order; a later row that lacks one of them inserts null.
Rows are also given without any column, then all of them are.
-/

namespace FluentSql

open Template

/-- **An INSERT statement.** -/
structure Insert where
  table : String := ""
  rows : List Payload := []
  misuse : Option Misuse := none
  deriving Inhabited

/-- **A call in a chain** that builds an INSERT statement. -/
inductive InsertStep where
  | target (table : String)
  | rows (rows : List Payload)
  /-- A value of the last row; of a first row if there is none. -/
  | set (column : String) (value : Value)
  | clean

namespace Insert

/-- **The table.** -/
def target (q : Insert) (table : String) : Insert :=
  let (table, misuse) := retarget q.table q.misuse table
  { q with table := table, misuse := misuse }

/-- Rows at the end. -/
def addRows (q : Insert) (rows : List Payload) : Insert := { q with rows := q.rows ++ rows }

/-- A value in the last of some rows. -/
def setLast (column : String) (value : Value) : List Payload → List Payload
  | [] => [OrderedMap.empty.insert column value]
  | [row] => [row.insert column value]
  | row :: rows => row :: setLast column value rows

/-- **A call made.** -/
def step (q : Insert) : InsertStep → Insert
  | .target table => q.target table
  | .rows rows => q.addRows rows
  | .set column value => { q with rows := setLast column value q.rows }
  | .clean => {}

/-- The slots of one row, in the order of the columns. -/
def rowTemplate (table : String) (columns : List String) (row : Payload) : Template :=
  text "("
    ++ joined ", " (columns.map fun column => [.slot table column ((row.get? column).getD .null)])
    ++ text ")"

/-- **The template.** Without columns the database supplies the whole row. -/
def template (st : Style) (q : Insert) : Template :=
  if q.table.isEmpty then []
  else
    match (q.rows.head?.map OrderedMap.keys).getD [] with
    | [] =>
      match st.dialect with
      | .mysql => text ("INSERT INTO " ++ st.quote q.table ++ " () VALUES ()")
      | _ => text ("INSERT INTO " ++ st.quote q.table ++ " DEFAULT VALUES")
    | columns =>
      squeeze (
        text ("INSERT INTO " ++ st.quote q.table ++ " (" ++ ", ".intercalate (columns.map st.quote)
          ++ ") VALUES ")
        ++ joined ", " (q.rows.map (rowTemplate q.table columns)))

/-- Whether some rows have columns and others have none. -/
def isMixed (q : Insert) : Bool :=
  q.rows.any OrderedMap.isEmpty && q.rows.any fun row => !row.isEmpty

/-- **The first misuse.** -/
def misuse? (q : Insert) : Option Misuse :=
  q.misuse.or ((if q.isMixed then some .mixedRows else none).or (q.rows.findSome? Payload.misuse?))

end Insert

end FluentSql
