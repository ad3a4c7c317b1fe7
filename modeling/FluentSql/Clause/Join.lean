import FluentSql.Operator
import FluentSql.Style
/-!
# `FluentSql.Clause.Join` — the JOIN clause

A join without a predicate compares the key `id` of the statement's table with the column of the
joined table that refers to it. A predicate belongs to the last join; one that has no join to belong
to, or belongs to a cross join, is a misuse and changes nothing.
-/

namespace FluentSql

/-- The kinds of joins. -/
inductive JoinKind where
  | inner
  | left
  | right
  | cross
  deriving DecidableEq, Repr, Inhabited

/-- The SQL keywords. -/
def JoinKind.sql : JoinKind → String
  | .inner => "INNER JOIN"
  | .left => "LEFT JOIN"
  | .right => "RIGHT JOIN"
  | .cross => "CROSS JOIN"

/-- A join predicate: two columns compared. -/
structure JoinPredicate where
  near : Column
  op : Operator
  far : Column
  deriving DecidableEq, Repr

/-- **A join.** -/
structure Join where
  kind : JoinKind
  table : String
  called : Option String
  predicate : Option JoinPredicate
  deriving DecidableEq, Repr

/-- **The JOIN clause**: joins in order, and the first misuse. -/
structure JoinClause where
  joins : List Join := []
  misuse : Option Misuse := none
  deriving Inhabited

/-- The default predicate of a join to a table that goes by a name. -/
def Join.defaultPredicate (st : Style) (table name : String) : String :=
  st.quote (table ++ ".id") ++ " = " ++ st.quote (name ++ "." ++ st.foreignKey table)

/-- **One join** of a statement on a table. -/
def Join.sql (st : Style) (table : String) (j : Join) : String :=
  let target := j.kind.sql ++ " " ++ st.quote j.table
  let target := match j.called with
    | some called => target ++ " " ++ st.quoteIdent called
    | none => target
  match j.kind, j.predicate with
  | .cross, _ => target
  | _, some ⟨near, op, far⟩ =>
    target ++ " ON " ++ st.quoteColumn near ++ " " ++ op.sql ++ " " ++ st.quoteColumn far
  | _, none => target ++ " ON " ++ Join.defaultPredicate st table (j.called.getD j.table)

namespace JoinClause

/-- No join. -/
def empty : JoinClause := {}

/-- A misuse is kept if it is the first one. -/
def record (clause : JoinClause) (misuse : Misuse) : JoinClause :=
  { clause with misuse := clause.misuse.or (some misuse) }

/-- A join at the end. -/
def push (clause : JoinClause) (kind : JoinKind) (table : String) (called : Option String) :
    JoinClause :=
  { clause with joins := clause.joins ++ [⟨kind, table, called, none⟩] }

/-- **A predicate for the last join.** -/
def on (clause : JoinClause) (predicate : JoinPredicate) : JoinClause :=
  match clause.joins.getLast? with
  | none => clause.record .onWithoutJoin
  | some last =>
    if last.kind = .cross then clause.record (.onCrossJoin last.table)
    else { clause with joins := clause.joins.dropLast ++ [{ last with predicate := some predicate }] }

/-- **The text of the clause**; no join, no text. -/
def sql (st : Style) (table : String) (clause : JoinClause) : String :=
  " ".intercalate (clause.joins.map (Join.sql st table))

/-- Whether there is no join. -/
def isEmpty (clause : JoinClause) : Bool := clause.joins.isEmpty

end JoinClause

/-- **A call in a chain** that concerns joins. -/
inductive JoinStep where
  | join (kind : JoinKind) (table : String) (called : Option String)
  | on (predicate : JoinPredicate)
  deriving DecidableEq, Repr

/-- A call made. -/
def JoinClause.step (clause : JoinClause) : JoinStep → JoinClause
  | .join kind table called => clause.push kind table called
  | .on predicate => clause.on predicate

end FluentSql
