import FluentSql.Json
/-!
# `FluentSql.Error.Misuse` — what a caller did wrong

A chain of calls is never interrupted: a call that makes no sense is recorded and reported when the
statement is run. `Misuse` says what was wrong, `Misuse.message` how it is worded.
-/

namespace FluentSql

/-- The wording for a name that means nothing, with the name that may have been meant. -/
def unknownNameMessage (name : String) (suggestion : Option String) : String :=
  let hint := match suggestion with
    | some s => " Did you mean \x60" ++ s ++ "\x60?"
    | none => ""
  "Call to undefined method \x60" ++ name ++ "\x60." ++ hint

/-- **A misuse.** -/
inductive Misuse where
  /-- A statement has a table and is pointed at another one. -/
  | retarget (current requested : String)
  /-- A comparison operator that does not exist. -/
  | unknownOperator (text : String) (suggestion : Option String)
  /-- A join predicate before any join. -/
  | onWithoutJoin
  /-- A join predicate for a cross join. -/
  | onCrossJoin (table : String)
  /-- A payload entry without a column name, by its position. -/
  | unnamedColumn (index : Nat)
  /-- Rows with columns beside rows without. -/
  | mixedRows
  /-- An update without a column to set. -/
  | nothingToSet
  /-- A placeholder without a value. -/
  | unbound (placeholder : String)
  /-- A payload given as an array. -/
  | positionalPayload
  /-- A payload given as a scalar. -/
  | scalarPayload (scalar : Json)
  /-- A payload whose keys are no text. -/
  | unnamedPayload
  /-- The row of a model without a primary key cannot be deleted. -/
  | noPrimaryKey (table : String)
  /-- Any other misuse, in its own words. -/
  | other (message : String)
  deriving Inhabited

/-- **The wording of a misuse.** -/
def Misuse.message : Misuse → String
  | .retarget current requested =>
    "target table is already \x60" ++ current ++ "\x60, cannot retarget to \x60" ++ requested ++ "\x60"
  | .unknownOperator text suggestion => unknownNameMessage text suggestion
  | .onWithoutJoin => "on() called before any join"
  | .onCrossJoin table => "CROSS JOIN " ++ table ++ " does not take an ON predicate"
  | .unnamedColumn index =>
    "entry #" ++ toString index ++ " has no column name; values must be keyed by column"
  | .mixedRows => "INSERT rows must either all carry columns or all be empty"
  | .nothingToSet => "UPDATE requires at least one column to SET"
  | .unbound placeholder => "placeholder " ++ placeholder ++ " has no bound value"
  | .positionalPayload => "values must be keyed by column name, got a positional array"
  | .scalarPayload scalar =>
    "values must be a JSON object keyed by column name, got \x60" ++ scalar.compact ++ "\x60"
  | .unnamedPayload => "cannot serialize values: key must be a string"
  | .noPrimaryKey table => "cannot delete a " ++ table ++ " row without a primary key"
  | .other message => message

end FluentSql
