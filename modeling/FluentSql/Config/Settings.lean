import FluentSql.Dialect
import FluentSql.Logger
/-!
# `FluentSql.Config.Settings` — what a connection and its logger are told
-/

namespace FluentSql

open FluentSql.Text

/-- **The settings of one connection.** -/
structure ConnectionSettings where
  driver : Dialect
  /-- The file of the database, or `:memory:`. -/
  database : Option String := none
  /-- The URL of the server. -/
  url : Option String := none
  /-- The time zone of the session. -/
  timezone : Option String := none
  /-- The statements that are run right after connecting. -/
  commands : List String := []
  deriving DecidableEq, Repr, Inhabited

namespace ConnectionSettings

/-- **The time zone as an offset or a name**: UTC, in any ASCII case, is the offset zero, and a blank
    one is none. -/
def timezoneOffset (s : ConnectionSettings) : Option String :=
  match s.timezone.map trim with
  | none | some "" => none
  | some zone => some (if equalIgnoringAsciiCase zone "utc" then "+00:00" else zone)

/-- Whether a setting is missing or blank. -/
def isBlank (value : Option String) : Bool :=
  (value.map isBlankText).getD true

end ConnectionSettings

/-- **The settings of loggers.** -/
structure LoggingSettings where
  level : String := "debug"
  maxLength : Option Nat := some 200
  enabled : Bool := true
  deriving DecidableEq, Repr, Inhabited

namespace LoggingSettings

/-- **The logger that is asked for**, if there is such a level. -/
def logger (s : LoggingSettings) : Except Error Logger :=
  match LogLevel.parse? s.level with
  | some level => .ok { level, maxLength := s.maxLength, enabled := s.enabled }
  | none => .error (.config (.unknownLevel s.level))

end LoggingSettings

end FluentSql
