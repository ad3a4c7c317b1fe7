import FluentSql.Chain
import FluentSql.Payload
import FluentSql.Select.Render
/-!
# `FluentSql.Statement.Update` — UPDATE statements
-/

namespace FluentSql

open Template

/-- **An UPDATE statement.** -/
structure Update where
  table : String := ""
  data : Payload := {}
  joins : JoinClause := {}
  wheres : WhereClause := .empty
  misuse : Option Misuse := none
  deriving Inhabited

/-- **A call in a chain** that builds an UPDATE statement. -/
inductive UpdateStep where
  | target (table : String)
  | set (data : Payload)
  | filter (step : WhereStep)
  | join (step : JoinStep)
  | clean

namespace Update

/-- **The table.** -/
def target (q : Update) (table : String) : Update :=
  let (table, misuse) := retarget q.table q.misuse table
  { q with table := table, misuse := misuse }

/-- Values to set, after those there are. -/
def set (q : Update) (data : Payload) : Update := { q with data := q.data.insertAll data.entries }

/-- **A call made.** -/
def step (q : Update) : UpdateStep → Update
  | .target table => q.target table
  | .set data => q.set data
  | .filter step => { q with wheres := q.wheres.step step }
  | .join step => { q with joins := q.joins.step step }
  | .clean => {}

/-- A column and its new value. -/
def assignmentTemplate (st : Style) (table column : String) (value : Value) : Template :=
  text (st.quote column ++ " = ") ++ [.slot table column value]

/-- **The template.** -/
def template (st : Style) (q : Update) : Template :=
  if q.table.isEmpty then []
  else
    squeeze (
      text ("UPDATE " ++ st.quote q.table ++ " " ++ q.joins.sql st q.table ++ " SET ")
      ++ joined ", "
        (q.data.entries.map fun (column, value) => assignmentTemplate st q.table column value)
      ++ text " " ++ q.wheres.template st q.table)

/-- **The first misuse.** -/
def misuse? (q : Update) : Option Misuse :=
  q.misuse.or (q.wheres.misuse.or (q.joins.misuse.or ((Payload.misuse? q.data).or
    (if q.data.isEmpty then some .nothingToSet else none))))

end Update

end FluentSql
