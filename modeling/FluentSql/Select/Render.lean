import FluentSql.Select
/-!
# `FluentSql.Select.Render` — the templates of conditions and SELECT statements

A statement is rendered part by part and then squeezed to single spaces. What shows nothing leaves no
trace: a statement without a table, a group of nothing, a subquery without a table.

* `Predicate.template`, `Conditions.template`, `WhereClause.template`;
* `Select.template`.
-/

namespace FluentSql

open Template

/-- The clauses that hold conditions. -/
inductive ClauseKind where
  | wheres
  | having
  deriving DecidableEq, Repr

/-! ## Comparisons -/

/-- **A column of a condition.** After grouping a column is known by its alias, which is one
    identifier even if it holds dots. -/
def conditionColumn (st : Style) : ClauseKind → Column → String
  | .having, .name s => st.quoteIdent s
  | _, column => st.quoteColumn column

/-- What no value can be among, and what every value is not among. -/
def amongNothing : Operator → String
  | .notAmong => "1 = 1"
  | _ => "1 = 0"

/-- **A column compared.** The slots are named after the table of the statement and the column. -/
def compareTemplate (st : Style) (kind : ClauseKind) (table : String) (column : Column)
    (op : Operator) : Operand → Template
  | .single value =>
    text (conditionColumn st kind column ++ " " ++ op.sql ++ " ") ++ [.slot table column.text value]
  | .pair low high =>
    text (conditionColumn st kind column ++ " " ++ op.sql ++ " ") ++ [.slot table column.text low]
      ++ text " AND " ++ [.slot table column.text high]
  | .list [] => text (amongNothing op)
  | .list values =>
    text (conditionColumn st kind column ++ " " ++ op.sql ++ " (")
      ++ joined ", " (values.map fun value => [.slot table column.text value]) ++ text ")"
  | .null => text (conditionColumn st kind column ++ " " ++ op.sql ++ " NULL")

/-- The keyword of a subquery. -/
def existsKeyword (wanted : Bool) : String :=
  if wanted then "EXISTS" else "NOT EXISTS"

/-- **Rows of another table that refer to the row at hand.** By default they do so by the foreign key
    of the statement's table, which is compared with `id`. -/
def relatedSql (st : Style) (current table : String) (column parent : Option String)
    (wanted : Bool) : String :=
  let column := st.quote (column.getD (st.foreignKey current))
  existsKeyword wanted ++ " (SELECT " ++ column ++ " FROM " ++ st.quote table ++ " WHERE "
    ++ st.quote table ++ "." ++ column ++ " = " ++ st.quote current ++ "."
    ++ st.quote (parent.getD "id") ++ ")"

/-! ## Parts of a statement -/

/-- A column of the select list; an alias that is the column's own text is not written. -/
def SelectColumn.sql (st : Style) (c : SelectColumn) : String :=
  match c.called with
  | some called =>
    if called = c.column.text then st.quoteColumn c.column
    else st.quoteColumn c.column ++ " AS " ++ st.quoteIdent called
  | none => st.quoteColumn c.column

/-- **The select list and the table.** Nothing selected is everything selected. -/
def selectListSql (st : Style) (table : String) (called : Option String)
    (columns : List SelectColumn) (distinct : Bool) (aggregates : AggregateClause) : String :=
  let items := columns.map (SelectColumn.sql st)
  let aggregated := AggregateClause.sql st aggregates
  let items := if aggregated.isEmpty then items else items ++ [aggregated]
  let list := if items.isEmpty then "*" else ", ".intercalate items
  let sql := "SELECT " ++ (if distinct then "DISTINCT " else "") ++ list ++ " FROM " ++ st.quote table
  match called with
  | some called => sql ++ " " ++ st.quoteIdent called
  | none => sql

/-- A number of rows after its keyword. -/
def rowCountTemplate (keyword table name : String) (n : UInt64) : Template :=
  text (keyword ++ " ") ++ [.slot table name (.ofUnsigned n)]

/-- A part after its keyword; nothing if the part shows nothing. -/
def headed (keyword : String) (body : Template) : Template :=
  if body.isEmpty then body else text (keyword ++ " ") ++ body

/-- A part in parentheses after an opening text; nothing if the part shows nothing. -/
def enclosed (opening : String) (body : Template) : Template :=
  if body.isEmpty then body else text opening ++ body ++ text ")"

/-- What stands between two conditions. -/
def joinerText : Option Conjunction → String
  | some joiner => " " ++ joiner.sql ++ " "
  | none => " "

/-! ## Rendering -/

mutual

/-- **A test** of a statement on `table`. -/
def Predicate.template (st : Style) (kind : ClauseKind) (table : String) : Predicate → Template
  | .compare column op operand => compareTemplate st kind table column op operand
  | .raw sql params => .given params :: text sql
  | .related other column parent wanted => text (relatedSql st table other column parent wanted)
  | .subquery query wanted =>
    enclosed (existsKeyword wanted ++ " (") (Select.template st query)
  | .group conditions => enclosed "(" (Conditions.templateFrom st kind table false conditions)

/-- Conditions, after something that shows (`started`) or after nothing. -/
def Conditions.templateFrom (st : Style) (kind : ClauseKind) (table : String) (started : Bool) :
    List Condition → Template
  | [] => []
  | ⟨joiner, predicate⟩ :: conditions =>
    let body := Predicate.template st kind table predicate
    if body.isEmpty then body ++ Conditions.templateFrom st kind table started conditions
    else
      (if started then text (joinerText joiner) else []) ++ body
        ++ Conditions.templateFrom st kind table true conditions

/-- **A SELECT statement.** -/
def Select.template (st : Style) : Select → Template
  | ⟨table, called, columns, distinct, joins, ⟨conditions, _⟩, groups, havings, orders, aggregates,
      unions, limit, offset, _⟩ =>
    if table.isEmpty then []
    else
      squeeze (joined " " (
        [text (selectListSql st table called columns distinct aggregates),
          text (joins.sql st table),
          headed "WHERE" (Conditions.templateFrom st .wheres table false conditions),
          text (groups.sql st),
          headed "HAVING" (Conditions.templateFrom st .having table false havings),
          text (orders.sql st)]
        ++ Select.branchTemplates st unions
        ++ (limit.map (rowCountTemplate "LIMIT" table "limit")).toList
        ++ (offset.map (rowCountTemplate "OFFSET" table "offset")).toList))

/-- The union branches that have a table. -/
def Select.branchTemplates (st : Style) : List UnionBranch → List Template
  | [] => []
  | ⟨all, query⟩ :: unions =>
    let body := Select.template st query
    if body.isEmpty then Select.branchTemplates st unions
    else headed (if all then "UNION ALL" else "UNION") body :: Select.branchTemplates st unions

end

/-- **A list of conditions.** -/
def Conditions.template (st : Style) (kind : ClauseKind) (table : String)
    (conditions : Conditions) : Template :=
  Conditions.templateFrom st kind table false conditions

/-- **The WHERE clause.** -/
def WhereClause.template (st : Style) (table : String) (clause : WhereClause) : Template :=
  headed "WHERE" (Conditions.template st .wheres table clause.conditions)

/-- **The HAVING clause.** -/
def havingTemplate (st : Style) (table : String) (conditions : Conditions) : Template :=
  headed "HAVING" (Conditions.template st .having table conditions)

end FluentSql
