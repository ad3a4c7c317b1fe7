import FluentSql.Chain
import FluentSql.Statement
/-!
# `FluentSql.Model.Query` — queries for the rows of a model

A schema names the table of a model and its special columns. Rows of a model with a delete column are
deleted softly: the column holds when, and a query leaves such rows out unless it says otherwise.

* `ModelQuery.scopedWhere` — the conditions with the filter for deleted rows in front;
* `ModelQuery.statement` — the SELECT statement;
* `ModelQuery.updating`, `ModelQuery.deleting`, … — the statements that write.
-/

namespace FluentSql

/-- **The table of a model** and its special columns. -/
structure Schema where
  table : String
  primaryKey : String := "id"
  /-- The column by which rows are found, if it is not the primary key. -/
  findBy : Option String := none
  /-- The column that holds when a row was deleted. -/
  softDelete : Option String := none
  /-- Whether rows hold when they were created and changed. -/
  timestamps : Bool := false
  deriving DecidableEq, Repr, Inhabited

namespace Schema

/-- The column that holds when a row was created. -/
def createdAt : String := "created_at"

/-- The column that holds when a row was changed. -/
def updatedAt : String := "updated_at"

/-- The table that a type of this name is kept in. -/
def defaultTable (typeName : String) : String := Inflector.english.tableName typeName

/-- The column by which rows are found. -/
def findColumn (s : Schema) : String := s.findBy.getD s.primaryKey

/-- **A changed row**: its columns, and when it was changed if the model holds that. -/
def touch (s : Schema) (now : DateTime) (data : Payload) : Payload :=
  if s.timestamps then data.insert updatedAt (.ofDateTime now) else data

/-- **A new row**: it was created now unless it says otherwise, and changed now. -/
def stamp (s : Schema) (now : DateTime) (data : Payload) : Payload :=
  if s.timestamps then
    let dated :=
      if ((data.get? createdAt).getD .null).isNull then data.insert createdAt (.ofDateTime now)
      else data
    dated.insert updatedAt (.ofDateTime now)
  else data

/-- The insertion of a new row. -/
def inserting (s : Schema) (now : DateTime) (data : Payload) : Insert :=
  (({} : Insert).target s.table).addRows [s.stamp now data]

end Schema

/-- **Which rows a query sees**, softly deleted ones or not. -/
inductive Trashed where
  | excluded
  | included
  | only
  deriving DecidableEq, Repr, Inhabited

/-- **A query for the rows of a model.** -/
structure ModelQuery where
  schema : Schema
  select : Select
  trashed : Trashed
  deriving Inhabited

/-- **A call in a chain** about a query of a model. -/
inductive ModelStep where
  | filter (step : WhereStep)
  | having (step : HavingStep)
  | join (step : JoinStep)
  | group (column : Column)
  | order (column : Column) (direction : Direction)
  | limit (n : UInt64)
  | offset (n : UInt64)
  /-- Softly deleted rows too, or only these. -/
  | trashed (which : Trashed)
  /-- Whether rows of another model refer to this one. -/
  | related (other : Schema) (wanted : Bool)

namespace ModelQuery

/-- **All rows** of a model. -/
def ofSchema (s : Schema) : ModelQuery := ⟨s, Select.empty.target s.table, .excluded⟩

/-- A call about the statement. -/
def selectStep (q : ModelQuery) (step : SelectStep) : ModelQuery :=
  { q with select := q.select.step step }

/-- **A call made.** -/
def step (q : ModelQuery) : ModelStep → ModelQuery
  | .filter step => q.selectStep (.filter step)
  | .having step => q.selectStep (.having step)
  | .join step => q.selectStep (.join step)
  | .group column => q.selectStep (.group column)
  | .order column direction => q.selectStep (.order column direction)
  | .limit n => q.selectStep (.limit n)
  | .offset n => q.selectStep (.offset n)
  | .trashed which => { q with trashed := which }
  | .related other wanted =>
    q.selectStep (.filter (.related .and other.table none (some q.schema.primaryKey) wanted))

/-- The rows with a value in a column. -/
def whereEqual (q : ModelQuery) (column : String) (value : Value) : ModelQuery :=
  q.step (.filter (.compare .and (.name column) .equal value))

/-! ## Conditions -/

/-- The filter for softly deleted rows, by the qualified delete column; none if the model has no such
    column or deleted rows are included. -/
def trashFilter (q : ModelQuery) : Option Predicate :=
  match q.schema.softDelete, q.trashed with
  | none, _ => none
  | _, .included => none
  | some column, .excluded => some (nullTest (.name (q.schema.table ++ "." ++ column)) true)
  | some column, .only => some (nullTest (.name (q.schema.table ++ "." ++ column)) false)

/-- **The conditions with the filter in front.** The caller's conditions become one group, so that no
    OR among them can undo the filter. -/
def scopedWhere (q : ModelQuery) : WhereClause :=
  match q.trashFilter with
  | none => q.select.wheres
  | some filter => (WhereClause.empty.push .and filter).pushGroup .and q.select.wheres

/-- **The SELECT statement.** -/
def statement (q : ModelQuery) : Select := { q.select with wheres := q.scopedWhere }

/-! ## Reading -/

/-- The first row only. -/
def firstStatement (q : ModelQuery) : Select := q.statement.take 1

/-- The row with the greatest primary key. -/
def lastStatement (q : ModelQuery) : Select :=
  (q.statement.orderBy (.name q.schema.primaryKey) .descending).take 1

/-- The rows that are found by a key. -/
def found (q : ModelQuery) (id : Value) : ModelQuery := q.whereEqual q.schema.findColumn id

/-- A row of which nothing is wanted but that it is there. -/
def existsStatement (q : ModelQuery) : Select := (q.statement.addColumns [⟨.raw "1", none⟩]).take 1

/-- The alias of an aggregate. -/
def aggregateName (fn : AggregateFn) (column : String) : String := fn.label ++ "_" ++ column

/-- An aggregate over a column. -/
def aggregateStatement (q : ModelQuery) (fn : AggregateFn) (column : String) : Select :=
  q.statement.aggregate fn (.name column) (some (aggregateName fn column))

/-! ## Writing -/

/-- **The update of all rows** of a query. -/
def updating (q : ModelQuery) (data : Payload) : Update :=
  { ((({} : Update).target q.schema.table).set data) with
    joins := q.select.joins, wheres := q.scopedWhere }

/-- The update by a caller, which also holds when. -/
def touching (q : ModelQuery) (now : DateTime) (data : Payload) : Update :=
  q.updating (q.schema.touch now data)

/-- **The removal of all rows** of a query. -/
def forceDeleting (q : ModelQuery) : Delete :=
  { (({} : Delete).target q.schema.table) with
    joins := q.select.joins, wheres := q.scopedWhere }

/-- **The deletion of all rows** of a query: softly if the model has a delete column. -/
def deleting (q : ModelQuery) (now : DateTime) : Statement :=
  match q.schema.softDelete with
  | some column => .update (q.touching now (OrderedMap.empty.insert column (.ofDateTime now)))
  | none => .delete q.forceDeleting

/-- The return of all softly deleted rows of a query; nothing to do without a delete column. -/
def restoring? (q : ModelQuery) (now : DateTime) : Option Update :=
  q.schema.softDelete.map fun column =>
    { q with trashed := .only }.touching now (OrderedMap.empty.insert column .null)

end ModelQuery

end FluentSql
