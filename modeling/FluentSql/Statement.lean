import FluentSql.Built
import FluentSql.Statement.Delete
import FluentSql.Statement.Insert
import FluentSql.Statement.Raw
import FluentSql.Statement.Update
/-!
# `FluentSql.Statement` — statements of any kind

* `Statement.build` — the text and the parameters, whatever was misused;
* `Statement.check` — the finished statement, or why it must not be run.
-/

namespace FluentSql

/-- The kinds of statements. -/
inductive StatementKind where
  | select
  | insert
  | update
  | delete
  | raw
  deriving DecidableEq, Repr, Inhabited

/-- The name of a kind, as logs show it. -/
def StatementKind.label : StatementKind → String
  | .select => "SELECT"
  | .insert => "INSERT"
  | .update => "UPDATE"
  | .delete => "DELETE"
  | .raw => "RAW"

/-- **A statement.** -/
inductive Statement where
  | select (q : Select)
  | insert (q : Insert)
  | update (q : Update)
  | delete (q : Delete)
  | raw (q : RawStatement)
  deriving Inhabited

namespace Statement

/-- The kind of a statement. -/
def kind : Statement → StatementKind
  | .select _ => .select
  | .insert _ => .insert
  | .update _ => .update
  | .delete _ => .delete
  | .raw _ => .raw

/-- **The template of a statement** in a style. -/
def template (st : Style) : Statement → Template
  | .select q => q.template st
  | .insert q => q.template st
  | .update q => q.template st
  | .delete q => q.template st
  | .raw q => q.template

/-- **The first misuse** in a statement; statements written by hand have none. -/
def misuse? : Statement → Option Misuse
  | .select q => q.misuse?
  | .insert q => q.misuse?
  | .update q => q.misuse?
  | .delete q => q.misuse?
  | .raw _ => none

/-- **The text and the parameters.** -/
def build (st : Style) (s : Statement) : Built := .ofTemplate (s.template st)

/-- Whether nothing was misused. -/
def validate (s : Statement) : Except Error Unit :=
  match s.misuse? with
  | some misuse => .error (.misuse misuse)
  | none => .ok ()

/-- **A statement fit to be run**: nothing was misused and there is something to run. -/
def check (st : Style) (s : Statement) : Except Error Built := do
  s.validate
  let built := s.build st
  if built.sql.isEmpty then .error .emptyStatement else .ok built

end Statement

end FluentSql
