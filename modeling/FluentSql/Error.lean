import FluentSql.Dialect
import FluentSql.Error.Config
import FluentSql.Error.Decode
import FluentSql.Error.Misuse
import FluentSql.Suggestion
/-!
# `FluentSql.Error` — everything that can go wrong

An `Error` says which part failed and holds the cause; `Error.message` words it.
-/

namespace FluentSql

/-- **An error.** -/
inductive Error where
  /-- The caller did something that makes no sense. -/
  | misuse (cause : Misuse)
  /-- A name that means nothing. -/
  | unknownName (name : String) (suggestion : Option String)
  /-- Nothing to run a statement on. -/
  | noConnection
  /-- A statement without a table. -/
  | emptyStatement
  /-- A row that had to exist does not. -/
  | notFound (message : String)
  /-- A column that cannot be read. -/
  | decode (column : String) (fault : DecodeFault)
  /-- A configuration that makes no sense. -/
  | config (fault : ConfigFault)
  /-- A configuration that is not well-formed. -/
  | malformed (message : String)
  /-- A file that cannot be read. -/
  | unreadable (message : String)
  /-- The database refused; `driver` says which kind of database. -/
  | database (driver : Dialect) (message : String)
  /-- An executor failed for a reason of its own. -/
  | executor (message : String)
  deriving Inhabited

namespace Error

/-- The name under which a database reports. -/
def databaseName : Dialect → String
  | .sqlite => "SQLite"
  | .postgres => "PostgreSQL"
  | .mysql => "MySQL"
  | .ansi => "SQL"

/-- **The wording of an error.** -/
def message : Error → String
  | .misuse cause => "Invalid argument: " ++ cause.message
  | .unknownName name suggestion => unknownNameMessage name suggestion
  | .noConnection => "No executor is attached to this connection"
  | .emptyStatement => "Cannot execute an empty statement (no table was targeted)"
  | .notFound message => "Not found: " ++ message
  | .decode column fault => "Decode error on column '" ++ column ++ "': " ++ fault.message
  | .config fault => "Configuration error: " ++ fault.message
  | .malformed message => "Invalid configuration file: " ++ message
  | .unreadable message => "I/O error: " ++ message
  | .database driver message => databaseName driver ++ " error: " ++ message
  | .executor message => "Executor error: " ++ message

/-- **A name that means nothing**, with the nearest of the names that would have. -/
def unknown (name : String) (candidates : List String) : Error :=
  .unknownName name (Suggestion.closest? name candidates)

/-- No row of a table where one had to be. -/
def noRow (table column : String) (wanted : Value) : Error :=
  .notFound ("no " ++ table ++ " row with " ++ column ++ " = " ++ wanted.plainText)

/-- Whether the caller is to blame. -/
def isUsage : Error → Bool
  | .misuse _ | .unknownName _ _ | .emptyStatement => true
  | _ => false

/-- Whether a row that had to exist does not. -/
def isNotFound : Error → Bool
  | .notFound _ => true
  | _ => false

end Error

end FluentSql
