import FluentSql.Clause.Aggregate
import FluentSql.Clause.Join
import FluentSql.Clause.Order
import FluentSql.Template
/-!
# `FluentSql.Select` — SELECT statements and their conditions

Conditions, WHERE clauses and SELECT statements refer to each other: a condition may be a subquery,
and a statement has conditions. A WHERE clause and a statement remember the first misuse they met, so
that a chain of calls is never interrupted.

* `Conditions.push` — a condition at the end of a list;
* `Select.misuse?` — the first misuse in a statement, its conditions and its union branches.
-/

namespace FluentSql

/-- **What a column is compared with.** -/
inductive Operand where
  | single (value : Value)
  | pair (low high : Value)
  | list (values : List Value)
  | null
  deriving DecidableEq, Inhabited

/-- A column of a select list and its alias. -/
structure SelectColumn where
  column : Column
  called : Option String := none
  deriving DecidableEq, Repr, Inhabited

mutual

/-- **A test.** -/
inductive Predicate where
  /-- A column compared with values. -/
  | compare (column : Column) (op : Operator) (operand : Operand)
  /-- Raw SQL, with parameters under names of its own. -/
  | raw (sql : String) (params : Params)
  /-- Whether rows of another table refer to this one. -/
  | related (table : String) (column parent : Option String) (wanted : Bool)
  /-- Whether a statement has rows. -/
  | subquery (query : Select) (wanted : Bool)
  /-- Conditions in parentheses. -/
  | group (conditions : List Condition)

/-- **A test in a list**, with how it is joined to the one before it. -/
structure Condition where
  joiner : Option Conjunction
  predicate : Predicate

/-- **The WHERE clause**: conditions in order, and the first misuse. -/
structure WhereClause where
  conditions : List Condition
  misuse : Option Misuse

/-- A statement whose rows are added to those of another. -/
structure UnionBranch where
  /-- Whether rows that occur twice stay. -/
  all : Bool
  query : Select

/-- **A SELECT statement.** -/
structure Select where
  table : String
  called : Option String
  columns : List SelectColumn
  distinct : Bool
  joins : JoinClause
  wheres : WhereClause
  groups : GroupClause
  havings : List Condition
  orders : OrderClause
  aggregates : AggregateClause
  unions : List UnionBranch
  limit : Option UInt64
  offset : Option UInt64
  misuse : Option Misuse

end

/-- **A list of conditions.** -/
abbrev Conditions := List Condition

/-- Whether a condition is a group. -/
def Condition.isGroup : Condition → Bool
  | ⟨_, .group _⟩ => true
  | _ => false

namespace Conditions

/-- **A condition at the end.** The first one is joined to nothing, and an empty group is dropped. -/
def push (conditions : Conditions) (joiner : Conjunction) (predicate : Predicate) : Conditions :=
  match predicate with
  | .group [] => conditions
  | predicate =>
    conditions ++ [⟨if conditions.isEmpty then none else some joiner, predicate⟩]

end Conditions

namespace WhereClause

/-- No condition and no misuse. -/
def empty : WhereClause := ⟨[], none⟩

instance : Inhabited WhereClause := ⟨empty⟩

/-- A misuse is kept if it is the first one. -/
def record (clause : WhereClause) (misuse : Misuse) : WhereClause :=
  ⟨clause.conditions, clause.misuse.or (some misuse)⟩

/-- **A condition at the end.** -/
def push (clause : WhereClause) (joiner : Conjunction) (predicate : Predicate) : WhereClause :=
  ⟨Conditions.push clause.conditions joiner predicate, clause.misuse⟩

/-- **A group of conditions at the end**; its misuse is kept if it is the first one. -/
def pushGroup (clause : WhereClause) (joiner : Conjunction) (group : WhereClause) : WhereClause :=
  ⟨Conditions.push clause.conditions joiner (.group group.conditions),
    clause.misuse.or group.misuse⟩

/-- Whether there is no condition. -/
def isEmpty (clause : WhereClause) : Bool := clause.conditions.isEmpty

end WhereClause

/-- **Pointing a statement at a table.** The empty name and the table it has already change nothing;
    a second, different table is a misuse. -/
def retarget (current : String) (misuse : Option Misuse) (table : String) :
    String × Option Misuse :=
  if table.isEmpty then (current, misuse)
  else if current.isEmpty || current == table then (table, misuse)
  else (current, misuse.or (some (.retarget current table)))

/-- A new statement takes any table. -/
theorem retarget_new (table : String) : retarget "" none table = (table, none) := by
  unfold retarget
  by_cases h : table.isEmpty = true
  · rw [if_pos h, String.isEmpty_iff.mp h]
  · rw [if_neg h]
    rfl

namespace Select

/-- **No table and no clause.** -/
def empty : Select :=
  ⟨"", none, [], false, {}, .empty, {}, [], {}, {}, [], none, none, none⟩

instance : Inhabited Select := ⟨empty⟩

/-! ## Misuse -/

mutual

/-- **The first misuse** in a statement: of its table, its conditions, its joins, its branches. -/
def misuse? : Select → Option Misuse
  | ⟨_, _, _, _, joins, ⟨_, inConditions⟩, _, _, _, _, unions, _, _, inTable⟩ =>
    inTable.or (inConditions.or (joins.misuse.or (misuseOfBranches? unions)))

/-- The first misuse in union branches. -/
def misuseOfBranches? : List UnionBranch → Option Misuse
  | [] => none
  | ⟨_, query⟩ :: unions => (misuse? query).or (misuseOfBranches? unions)

end

theorem misuse?_eq (q : Select) :
    q.misuse? = q.misuse.or (q.wheres.misuse.or (q.joins.misuse.or (misuseOfBranches? q.unions))) := by
  cases q
  rename_i wheres _ _ _ _ _ _ _ _
  cases wheres
  simp [misuse?]

/-! ## Building -/

/-- **The table.** -/
def target (q : Select) (table : String) : Select :=
  let (table, misuse) := retarget q.table q.misuse table
  { q with table := table, misuse := misuse }

/-- The table under an alias; the empty alias is none. -/
def targetAs (q : Select) (table called : String) : Select :=
  { q.target table with called := if called.isEmpty then none else some called }

/-- Columns at the end of the select list. -/
def addColumns (q : Select) (columns : List SelectColumn) : Select :=
  { q with columns := q.columns ++ columns }

/-- Conditions changed. -/
def mapWheres (q : Select) (f : WhereClause → WhereClause) : Select :=
  { q with wheres := f q.wheres }

/-- **Grouping by a column**, which joins the select list unless it is there. -/
def groupBy (q : Select) (column : Column) : Select :=
  let columns :=
    if q.columns.any (·.column == column) then q.columns else q.columns ++ [⟨column, none⟩]
  { q with columns := columns, groups := q.groups.push column }

/-- Ordering by a column. -/
def orderBy (q : Select) (column : Column) (direction : Direction) : Select :=
  { q with orders := q.orders.push column direction }

/-- An aggregate in the select list. -/
def aggregate (q : Select) (fn : AggregateFn) (column : Column) (called : Option String) : Select :=
  { q with aggregates := q.aggregates.push fn column called }

/-- At most `n` rows. -/
def take (q : Select) (n : UInt64) : Select := { q with limit := some n }

/-- Without the first `n` rows. -/
def skip (q : Select) (n : UInt64) : Select := { q with offset := some n }

/-- The number of rows before a page; pages are counted from one, and the number stays within 64
    bits. -/
def rowsBefore (page perPage : UInt64) : UInt64 :=
  UInt64.ofNat (min (UInt64.size - 1) ((page.toNat - 1) * perPage.toNat))

/-- **One page of rows.** -/
def page (q : Select) (page perPage : UInt64) : Select :=
  (q.take perPage).skip (rowsBefore page perPage)

/-- A union branch at the end. -/
def union (q : Select) (all : Bool) (query : Select) : Select :=
  { q with unions := q.unions ++ [⟨all, query⟩] }

end Select

/-- **A statement with or without rows as a condition**; its misuse is kept if it is the first one. -/
def WhereClause.pushSubquery (clause : WhereClause) (query : Select) (wanted : Bool) : WhereClause :=
  let clause := match query.misuse? with
    | some misuse => clause.record misuse
    | none => clause
  clause.push .and (.subquery query wanted)

end FluentSql
