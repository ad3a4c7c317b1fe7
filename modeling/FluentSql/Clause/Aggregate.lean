import FluentSql.OrderedMap
import FluentSql.Style
/-!
# `FluentSql.Clause.Aggregate` — aggregates in a select list

An aggregate is known by its function and its alias; without an alias it goes by its column. Giving
an aggregate again replaces its column and keeps its place. The functions are listed in a fixed order.
-/

namespace FluentSql

/-- The aggregate functions. -/
inductive AggregateFn where
  | count
  | sum
  | avg
  | min
  | max
  deriving DecidableEq, Repr, Inhabited

namespace AggregateFn

/-- All functions, in the order in which they are listed. -/
def all : List AggregateFn := [.count, .sum, .avg, .min, .max]

/-- The SQL name. -/
def sql : AggregateFn → String
  | .count => "COUNT"
  | .sum => "SUM"
  | .avg => "AVG"
  | .min => "MIN"
  | .max => "MAX"

/-- The name in lower case, which default aliases begin with. -/
def label : AggregateFn → String
  | .count => "count"
  | .sum => "sum"
  | .avg => "avg"
  | .min => "min"
  | .max => "max"

end AggregateFn

/-- **The aggregates of a select list**: columns by function and alias. -/
abbrev AggregateClause := OrderedMap (AggregateFn × String) Column

namespace AggregateClause

/-- **An aggregate**; without an alias it goes by the text of its column. -/
def push (clause : AggregateClause) (fn : AggregateFn) (column : Column) (called : Option String) :
    AggregateClause :=
  clause.insert (fn, called.getD column.text) column

/-- The aliases and columns of one function, in order. -/
def entriesOf (clause : AggregateClause) (fn : AggregateFn) : List (String × Column) :=
  clause.entries.filterMap fun ((f, called), column) => if f = fn then some (called, column) else none

/-- One aggregate; an alias that is the column's own text is not written. -/
def itemSql (st : Style) (fn : AggregateFn) (called : String) (column : Column) : String :=
  let call := fn.sql ++ "(" ++ st.quoteColumn column ++ ")"
  if called = column.text then call else call ++ " AS " ++ st.quoteIdent called

/-- The aggregates in the order of their functions. -/
def items (st : Style) (clause : AggregateClause) : List String :=
  AggregateFn.all.flatMap fun fn =>
    (entriesOf clause fn).map fun (called, column) => itemSql st fn called column

/-- **The text of all aggregates.** -/
def sql (st : Style) (clause : AggregateClause) : String :=
  ", ".intercalate (items st clause)

end AggregateClause

end FluentSql
