/-!
# `FluentSql.Column` — references to columns

A column is named, and then quoted for the dialect, or given as raw SQL, and then written as it is.
-/

namespace FluentSql

/-- **A column reference.** -/
inductive Column where
  /-- An identifier, possibly dotted. -/
  | name (text : String)
  /-- SQL that is never quoted; its safety is the caller's. -/
  | raw (sql : String)
  deriving DecidableEq, Repr, Inhabited

namespace Column

/-- The unquoted text. -/
def text : Column → String
  | .name s => s
  | .raw s => s

/-- Whether the column is raw SQL. -/
def isRaw : Column → Bool
  | .name _ => false
  | .raw _ => true

/-- Whether the text is empty. -/
def isEmpty (c : Column) : Bool := c.text.isEmpty

end Column

end FluentSql
