import FluentSql.Template
/-!
# `FluentSql.Statement.Raw` — statements written by hand

The text is passed on as it is, and the parameters under the names that they are given.
-/

namespace FluentSql

/-- **A statement written by hand.** -/
structure RawStatement where
  sql : String := ""
  params : Params := {}
  deriving Inhabited

/-- **A call in a chain** about a statement written by hand. -/
inductive RawStep where
  | bind (bindings : List (String × Value))
  | clean

namespace RawStatement

/-- **A call made.** -/
def step (q : RawStatement) : RawStep → RawStatement
  | .bind bindings =>
    { q with params := bindings.foldl (fun ps (name, value) => ps.add name value) q.params }
  | .clean => {}

/-- **The template**: the parameters, then the text. -/
def template (q : RawStatement) : Template := .given q.params :: Template.text q.sql

end RawStatement

end FluentSql
