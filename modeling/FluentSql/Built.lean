import FluentSql.Placeholder
import FluentSql.Template
/-!
# `FluentSql.Built` — finished statements

The SQL text with its placeholders, and the parameters that belong to them.
-/

namespace FluentSql

/-- **A finished statement.** -/
structure Built where
  sql : String
  params : Params := {}
  deriving DecidableEq, Inhabited

namespace Built

/-- The statement that a template describes. -/
def ofTemplate (t : Template) : Built :=
  let (sql, params) := t.assemble .empty
  ⟨String.ofList sql, params⟩

/-- **The text with every placeholder replaced by its value**, for logs and debugging. -/
def rawSql (b : Built) : String :=
  Placeholder.replace (fun name => (b.params.get? name).map Value.literal) b.sql

end Built

end FluentSql
