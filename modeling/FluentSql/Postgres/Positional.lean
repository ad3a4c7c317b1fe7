import FluentSql.Executor
import FluentSql.Placeholder
/-!
# `FluentSql.Postgres.Positional` — named placeholders turned into numbered ones

The server numbers its parameters. Every distinct placeholder of a text gets the number of its first
appearance, and its value is sent once; values of placeholders that do not appear are not sent.
-/

namespace FluentSql.Postgres

/-- **What a numbering has met so far**: the distinct placeholders with their values, and the first
    one that has none. -/
structure Numbering where
  bound : List (String × Value) := []
  missing : Option String := none
  deriving Inhabited

namespace Numbering

/-- The text of a number. -/
def mark (n : Nat) : String := "$" ++ toString n

/-- **One placeholder**: its number, if it has a value. -/
def visit (binds : List Bind) (token : String) : StateM Numbering (Option String) := do
  let met ← get
  match met.bound.findIdx? fun (name, _) => name = token with
  | some i => return some (mark (i + 1))
  | none =>
    match binds.find? fun b => b.placeholder = token with
    | some b =>
      set { met with bound := met.bound ++ [(token, b.value)] }
      return some (mark (met.bound.length + 1))
    | none =>
      set { met with missing := met.missing.or (some token) }
      return none

end Numbering

/-- **A text with numbered placeholders and the values in their order**; a placeholder without a value
    is a misuse. -/
def positional (sql : String) (binds : List Bind) : Except Error (String × List Value) :=
  let (numbered, met) := (Placeholder.replaceM (Numbering.visit binds) sql).run {}
  match met.missing with
  | some name => .error (.misuse (.unbound name))
  | none => .ok (numbered, met.bound.map Prod.snd)

end FluentSql.Postgres
