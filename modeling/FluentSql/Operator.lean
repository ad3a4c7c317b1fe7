import FluentSql.Error
/-!
# `FluentSql.Operator` — the comparison operators of conditions

`Operator.parse` reads an operator from text, in any case and with any blanks between its words.
-/

namespace FluentSql

open FluentSql.Text

/-- **A comparison operator.** -/
inductive Operator where
  | equal
  | unequal
  | different
  | less
  | atMost
  | greater
  | atLeast
  | like
  | notLike
  | is
  | isNot
  | between
  | notBetween
  | among
  | notAmong
  deriving DecidableEq, Repr, Inhabited

namespace Operator

/-- All operators, in the order in which a text is compared with them. -/
def all : List Operator :=
  [.equal, .unequal, .different, .less, .atMost, .greater, .atLeast, .like, .notLike, .is, .isNot,
    .between, .notBetween, .among, .notAmong]

/-- **The SQL text.** -/
def sql : Operator → String
  | .equal => "="
  | .unequal => "!="
  | .different => "<>"
  | .less => "<"
  | .atMost => "<="
  | .greater => ">"
  | .atLeast => ">="
  | .like => "LIKE"
  | .notLike => "NOT LIKE"
  | .is => "IS"
  | .isNot => "IS NOT"
  | .between => "BETWEEN"
  | .notBetween => "NOT BETWEEN"
  | .among => "IN"
  | .notAmong => "NOT IN"

/-- The operator with this text, ASCII case and the width of blanks ignored. -/
def ofText? (text : String) : Option Operator :=
  all.find? fun op => equalIgnoringAsciiCase op.sql (squeezeText text)

/-- The operator that a text may have meant. -/
def suggestion? (text : String) : Option String :=
  Suggestion.closest? text (all.map sql)

/-- **Reading an operator.** -/
def parse (text : String) : Except Error Operator :=
  match ofText? text with
  | some op => .ok op
  | none => .error (.unknownName text (suggestion? text))

end Operator

/-- How a condition is joined to the one before it. -/
inductive Conjunction where
  | and
  | or
  deriving DecidableEq, Repr, Inhabited

/-- The SQL keyword. -/
def Conjunction.sql : Conjunction → String
  | .and => "AND"
  | .or => "OR"

end FluentSql
