import FluentSql.Statement
/-!
# `FluentSql.Table` — statements on one table

A table, or none yet, from which statements of every kind start.
-/

namespace FluentSql

/-- **A table to start from.** -/
structure Table where
  name : Option String := none
  deriving DecidableEq, Repr, Inhabited

namespace Table

/-- The table of a name; the empty name is no table. -/
def named (name : String) : Table := ⟨if name.isEmpty then none else some name⟩

/-- The name that statements are pointed at. -/
def target (t : Table) : String := t.name.getD ""

/-- All columns. -/
def selectAll (t : Table) : Select := Select.empty.target t.target

/-- Some columns. -/
def select (t : Table) (columns : List SelectColumn) : Select := t.selectAll.addColumns columns

/-- Rows inserted. -/
def insert (t : Table) (rows : List Payload) : Insert := (({} : Insert).target t.target).addRows rows

/-- Rows updated. -/
def update (t : Table) : Update := ({} : Update).target t.target

/-- Rows deleted. -/
def delete (t : Table) : Delete := ({} : Delete).target t.target

end Table

end FluentSql
