import FluentSql.Error
import FluentSql.Statement
/-!
# `FluentSql.Logger` — what is logged

A logger has a level for statements, a limit on the text that is logged and a switch. The switch is
for statements only: failures are always logged, as warnings.

* `Logger.shorten` — the text as it is logged;
* `takeBytes` — as many whole characters as fit a number of bytes.
-/

namespace FluentSql

open FluentSql.Text

/-- The levels of events. -/
inductive LogLevel where
  | error
  | warn
  | info
  | debug
  | trace
  deriving DecidableEq, Repr, Inhabited

namespace LogLevel

/-- The name of a level. -/
def label : LogLevel → String
  | .error => "ERROR"
  | .warn => "WARN"
  | .info => "INFO"
  | .debug => "DEBUG"
  | .trace => "TRACE"

/-- All levels, the most severe first. -/
def all : List LogLevel := [.error, .warn, .info, .debug, .trace]

/-- **Reading a level**: its name in any ASCII case, or its number, counted from one. -/
def parse? (s : String) : Option LogLevel :=
  match all.find? fun level => equalIgnoringAsciiCase level.label s with
  | some level => some level
  | none =>
    match Number.parseWhole .unsigned64 s.toList with
    | .ok n => if n < 1 then none else all[n.toNat - 1]?
    | .error _ => none

end LogLevel

/-- **An event.** -/
inductive Event where
  /-- A statement is about to be run. -/
  | statement (level : LogLevel) (kind : StatementKind) (paramCount : Nat) (sql : String)
  /-- A statement failed. -/
  | failure (kind : StatementKind) (sql : String) (error : Error)
  /-- A connection was opened and its commands were run. -/
  | opened (driver : Dialect) (commands : Nat)
  deriving Inhabited

/-- The level of an event. -/
def Event.level : Event → LogLevel
  | .statement level _ _ _ => level
  | .failure _ _ _ => .warn
  | .opened _ _ => .info

/-- The characters of a text that fit whole into a number of bytes of UTF-8. -/
def takeBytes (most : Nat) : List Char → List Char
  | [] => []
  | c :: cs => if c.utf8Size ≤ most then c :: takeBytes (most - c.utf8Size) cs else []

/-- The bytes of a text in UTF-8. -/
def byteLength : List Char → Nat
  | [] => 0
  | c :: cs => c.utf8Size + byteLength cs

/-- **A logger.** -/
structure Logger where
  level : LogLevel := .debug
  maxLength : Option Nat := some 200
  enabled : Bool := true
  deriving DecidableEq, Repr, Inhabited

namespace Logger

/-- **The text as it is logged**: a text above the limit is cut at a character and marked. -/
def shorten (logger : Logger) (sql : String) : String :=
  match logger.maxLength with
  | none => sql
  | some most =>
    if byteLength sql.toList ≤ most then sql
    else String.ofList (takeBytes most sql.toList ++ ['.', '.', '.'])

/-- **The events before a statement is run.** -/
def before (logger : Logger) (kind : StatementKind) (built : Built) : List Event :=
  if logger.enabled then
    [.statement logger.level kind built.params.size (logger.shorten built.sql)]
  else []

/-- **The event after a statement failed.** -/
def onFailure (logger : Logger) (kind : StatementKind) (built : Built) (error : Error) : Event :=
  .failure kind (logger.shorten built.sql) error

end Logger

/-! ## Laws -/

/-- What is taken fits. -/
theorem byteLength_takeBytes_le (most : Nat) (cs : List Char) :
    byteLength (takeBytes most cs) ≤ most := by
  induction cs generalizing most with
  | nil => simp [takeBytes, byteLength]
  | cons c cs ih =>
    by_cases h : c.utf8Size ≤ most
    · have := ih (most - c.utf8Size)
      simp only [takeBytes, if_pos h, byteLength]
      omega
    · simp [takeBytes, h, byteLength]

/-- What is taken begins the text. -/
theorem takeBytes_isPrefix (most : Nat) (cs : List Char) : takeBytes most cs <+: cs := by
  induction cs generalizing most with
  | nil => simp [takeBytes]
  | cons c cs ih =>
    by_cases h : c.utf8Size ≤ most
    · simpa [takeBytes, h] using ih (most - c.utf8Size)
    · simp [takeBytes, h]

end FluentSql
