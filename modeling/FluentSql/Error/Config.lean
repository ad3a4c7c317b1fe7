/-!
# `FluentSql.Error.Config` — what is wrong with a configuration
-/

namespace FluentSql

/-- **What is wrong with a configuration** that could be read. -/
inductive ConfigFault where
  /-- A reference to the environment is not closed. -/
  | unterminatedReference (name : String)
  /-- A reference to the environment names nothing. -/
  | emptyReference
  /-- A reference to a variable that is not set. -/
  | undefinedVariable (name : String)
  /-- There is no connection at all. -/
  | noConnections
  /-- The default connection does not exist. -/
  | undefinedDefault (name : String)
  /-- A connection to a file without a file. -/
  | blankDatabase (connection : String)
  /-- A connection to a server without a URL. -/
  | blankUrl (connection : String)
  /-- The log level is none. -/
  | unknownLevel (text : String)
  /-- A connection that is not configured was asked for. -/
  | unknownConnection (name : String)
  /-- There is no executor for the driver. -/
  | noExecutor (driver : String)
  /-- A server was to be reached without a URL. -/
  | missingUrl
  /-- Any other fault, in its own words. -/
  | other (message : String)
  deriving DecidableEq, Repr, Inhabited

/-- **The wording of a configuration fault.** -/
def ConfigFault.message : ConfigFault → String
  | .unterminatedReference name => "unterminated env var reference: $\x7b" ++ name ++ "\x7d"
  | .emptyReference => "invalid env var reference: $\x7b\x7d"
  | .undefinedVariable name => "missing env var for config expansion: " ++ name
  | .noConnections => "at least one [connections.<name>] entry is required"
  | .undefinedDefault name => "default connection \x60" ++ name ++ "\x60 is not defined"
  | .blankDatabase connection => "connections." ++ connection ++ ".database must not be empty"
  | .blankUrl connection => "connections." ++ connection ++ ".url must not be empty"
  | .unknownLevel text => "unknown log level: " ++ text
  | .unknownConnection name => "Unknown connection name \x60" ++ name ++ "\x60"
  | .noExecutor driver =>
    "no bundled executor for driver \x60" ++ driver ++ "\x60; wrap your own with Connection::new"
  | .missingUrl => "postgres connections need a url"
  | .other message => message

end FluentSql
