import FluentSql.Select
/-!
# `FluentSql.Chain` — chains of calls that build a SELECT statement

A statement is written as a chain of calls. Here the calls are data, so that a chain can be read,
stored and reasoned about; groups, subqueries and union branches hold chains of their own.

* `WhereStep`, `HavingStep`, `SelectStep` — the calls;
* `WhereClause.step`, `Conditions.havingStep`, `Select.step` — a call made;
* `Select.ofSteps` — the statement that a chain builds.
-/

namespace FluentSql

mutual

/-- **A call about conditions.** -/
inductive WhereStep where
  /-- A column compared with a value. -/
  | compare (joiner : Conjunction) (column : Column) (op : Operator) (value : Value)
  /-- A column compared with a value by an operator that is given as text. -/
  | compareBy (column : Column) (op : String) (value : Value)
  /-- Whether a column is null. -/
  | null (joiner : Conjunction) (column : Column) (wanted : Bool)
  /-- Whether a column lies between two values. -/
  | between (joiner : Conjunction) (column : Column) (low high : Value) (wanted : Bool)
  /-- Whether a column is one of several values. -/
  | among (joiner : Conjunction) (column : Column) (values : List Value) (wanted : Bool)
  /-- Raw SQL with parameters under names of its own. -/
  | raw (joiner : Conjunction) (sql : String) (bindings : List (String × Value))
  /-- Whether rows of another table refer to this one. -/
  | related (joiner : Conjunction) (table : String) (column parent : Option String) (wanted : Bool)
  /-- Whether a statement has rows. -/
  | subquery (steps : List SelectStep) (wanted : Bool)
  /-- Conditions in parentheses. -/
  | group (joiner : Conjunction) (steps : List WhereStep)

/-- **A call about conditions on groups.** -/
inductive HavingStep where
  | compare (joiner : Conjunction) (column : Column) (op : Operator) (value : Value)
  | null (column : Column) (wanted : Bool)
  | between (column : Column) (low high : Value)
  | among (column : Column) (values : List Value)
  | raw (sql : String)
  | group (joiner : Conjunction) (steps : List HavingStep)

/-- **A call about a SELECT statement.** -/
inductive SelectStep where
  | target (table : String)
  | targetAs (table called : String)
  | columns (columns : List SelectColumn)
  | distinct
  | filter (step : WhereStep)
  | having (step : HavingStep)
  | join (step : JoinStep)
  | group (column : Column)
  | order (column : Column) (direction : Direction)
  | aggregate (fn : AggregateFn) (column : Column) (called : Option String)
  | limit (n : UInt64)
  | offset (n : UInt64)
  | page (page perPage : UInt64)
  /-- Rows of another statement added. -/
  | union (all : Bool) (steps : List SelectStep)
  /-- Everything forgotten. -/
  | clean

end

/-- Whether a column is null. -/
def nullTest (column : Column) (wanted : Bool) : Predicate :=
  .compare column (if wanted then .is else .isNot) .null

/-- Whether a column lies between two values. -/
def betweenTest (column : Column) (low high : Value) (wanted : Bool) : Predicate :=
  .compare column (if wanted then .between else .notBetween) (.pair low high)

/-- Whether a column is one of several values. -/
def amongTest (column : Column) (values : List Value) (wanted : Bool) : Predicate :=
  .compare column (if wanted then .among else .notAmong) (.list values)

mutual

/-- **A call about HAVING conditions made.** -/
def Conditions.havingStep (conditions : Conditions) : HavingStep → Conditions
  | .compare joiner column op value => conditions.push joiner (.compare column op (.single value))
  | .null column wanted => conditions.push .and (nullTest column wanted)
  | .between column low high => conditions.push .and (betweenTest column low high true)
  | .among column values => conditions.push .and (amongTest column values true)
  | .raw sql => conditions.push .and (.raw sql .empty)
  | .group joiner steps => conditions.push joiner (.group (Conditions.havingSteps [] steps))

/-- Calls made one after the other. -/
def Conditions.havingSteps (conditions : Conditions) : List HavingStep → Conditions
  | [] => conditions
  | step :: steps => Conditions.havingSteps (Conditions.havingStep conditions step) steps

end

mutual

/-- **A call about conditions made.** -/
def WhereClause.step (clause : WhereClause) : WhereStep → WhereClause
  | .compare joiner column op value => clause.push joiner (.compare column op (.single value))
  | .compareBy column text value =>
    match Operator.ofText? text with
    | some op => clause.push .and (.compare column op (.single value))
    | none => clause.record (.unknownOperator text (Operator.suggestion? text))
  | .null joiner column wanted => clause.push joiner (nullTest column wanted)
  | .between joiner column low high wanted => clause.push joiner (betweenTest column low high wanted)
  | .among joiner column values wanted => clause.push joiner (amongTest column values wanted)
  | .raw joiner sql bindings => clause.push joiner (.raw sql (.ofList bindings))
  | .related joiner table column parent wanted =>
    clause.push joiner (.related table column parent wanted)
  | .subquery steps wanted => clause.pushSubquery (Select.steps .empty steps) wanted
  | .group joiner steps => clause.pushGroup joiner (WhereClause.steps .empty steps)

/-- Calls made one after the other. -/
def WhereClause.steps (clause : WhereClause) : List WhereStep → WhereClause
  | [] => clause
  | step :: steps => WhereClause.steps (WhereClause.step clause step) steps

/-- **A call about a SELECT statement made.** -/
def Select.step (q : Select) : SelectStep → Select
  | .target table => q.target table
  | .targetAs table called => q.targetAs table called
  | .columns columns => q.addColumns columns
  | .distinct => { q with distinct := true }
  | .filter step => { q with wheres := WhereClause.step q.wheres step }
  | .having step => { q with havings := Conditions.havingStep q.havings step }
  | .join step => { q with joins := q.joins.step step }
  | .group column => q.groupBy column
  | .order column direction => q.orderBy column direction
  | .aggregate fn column called => q.aggregate fn column called
  | .limit n => q.take n
  | .offset n => q.skip n
  | .page page perPage => q.page page perPage
  | .union all steps => q.union all (Select.steps .empty steps)
  | .clean => .empty

/-- Calls made one after the other. -/
def Select.steps (q : Select) : List SelectStep → Select
  | [] => q
  | step :: steps => Select.steps (Select.step q step) steps

end

/-- **The statement that a chain builds.** -/
def Select.ofSteps (steps : List SelectStep) : Select := Select.steps .empty steps

theorem WhereClause.steps_eq_foldl (clause : WhereClause) (steps : List WhereStep) :
    clause.steps steps = steps.foldl WhereClause.step clause := by
  induction steps generalizing clause with
  | nil => rfl
  | cons step steps ih => exact ih (clause.step step)

theorem Select.steps_eq_foldl (q : Select) (steps : List SelectStep) :
    q.steps steps = steps.foldl Select.step q := by
  induction steps generalizing q with
  | nil => rfl
  | cons step steps ih => exact ih (q.step step)

end FluentSql
