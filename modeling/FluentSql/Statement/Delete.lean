import FluentSql.Chain
import FluentSql.Select.Render
/-!
# `FluentSql.Statement.Delete` — DELETE statements

With joins the table whose rows are deleted is named once more.
-/

namespace FluentSql

open Template

/-- **A DELETE statement.** -/
structure Delete where
  table : String := ""
  joins : JoinClause := {}
  wheres : WhereClause := .empty
  misuse : Option Misuse := none
  deriving Inhabited

/-- **A call in a chain** that builds a DELETE statement. -/
inductive DeleteStep where
  | target (table : String)
  | filter (step : WhereStep)
  | join (step : JoinStep)
  | clean

namespace Delete

/-- **The table.** -/
def target (q : Delete) (table : String) : Delete :=
  let (table, misuse) := retarget q.table q.misuse table
  { q with table := table, misuse := misuse }

/-- **A call made.** -/
def step (q : Delete) : DeleteStep → Delete
  | .target table => q.target table
  | .filter step => { q with wheres := q.wheres.step step }
  | .join step => { q with joins := q.joins.step step }
  | .clean => {}

/-- **The template.** -/
def template (st : Style) (q : Delete) : Template :=
  if q.table.isEmpty then []
  else
    let table := st.quote q.table
    let joins := q.joins.sql st q.table
    squeeze (
      text ("DELETE " ++ (if joins.isEmpty then "" else table) ++ " FROM " ++ table ++ " " ++ joins
        ++ " ")
      ++ q.wheres.template st q.table)

/-- **The first misuse.** -/
def misuse? (q : Delete) : Option Misuse :=
  q.misuse.or (q.wheres.misuse.or q.joins.misuse)

end Delete

end FluentSql
