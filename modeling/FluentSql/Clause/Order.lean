import FluentSql.OrderedMap
import FluentSql.Style
/-!
# `FluentSql.Clause.Order` — the ORDER BY and GROUP BY clauses

A column is ordered by once: ordering by it again changes the direction and keeps the place. A column
is grouped by once as well.
-/

namespace FluentSql

/-- The direction of an order. -/
inductive Direction where
  | ascending
  | descending
  deriving DecidableEq, Repr, Inhabited

/-- The SQL keyword. -/
def Direction.sql : Direction → String
  | .ascending => "ASC"
  | .descending => "DESC"

/-- **The ORDER BY clause.** -/
abbrev OrderClause := OrderedMap Column Direction

namespace OrderClause

/-- **Ordering by a column.** -/
def push (clause : OrderClause) (column : Column) (direction : Direction) : OrderClause :=
  clause.insert column direction

/-- **The text of the clause**; nothing for no column. -/
def sql (st : Style) (clause : OrderClause) : String :=
  match clause.entries with
  | [] => ""
  | entries =>
    "ORDER BY " ++ ", ".intercalate (entries.map fun (c, d) => st.quoteColumn c ++ " " ++ d.sql)

end OrderClause

/-- **The GROUP BY clause.** -/
structure GroupClause where
  columns : List Column := []
  deriving DecidableEq, Repr, Inhabited

namespace GroupClause

/-- **Grouping by a column.** -/
def push (clause : GroupClause) (column : Column) : GroupClause :=
  if column ∈ clause.columns then clause else ⟨clause.columns ++ [column]⟩

/-- **The text of the clause**; nothing for no column. -/
def sql (st : Style) (clause : GroupClause) : String :=
  match clause.columns with
  | [] => ""
  | columns => "GROUP BY " ++ ", ".intercalate (columns.map st.quoteColumn)

end GroupClause

end FluentSql
