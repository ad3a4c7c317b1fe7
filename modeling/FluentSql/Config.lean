import FluentSql.Config.Reference
import FluentSql.Config.Settings
/-!
# `FluentSql.Config` — the configuration of an application

A configuration names connections and one of them as the default. As written it may refer to the
environment; `Config.accept` resolves the references and then checks everything, so that an accepted
configuration can be used without further checks.

* `Config.validate` — what makes a configuration acceptable;
* `Config.connection` — the settings of a connection, by its name.
-/

namespace FluentSql

/-- **A configuration.** The connections are in the order of their names. -/
structure Config where
  default : String := "default"
  connections : List (String × ConnectionSettings) := []
  logging : LoggingSettings := {}
  deriving DecidableEq, Repr, Inhabited

namespace Config

/-- A text expanded, if there is one. -/
def expandOption (env : Environment) : Option String → Except ConfigFault (Option String)
  | none => .ok none
  | some s => (expand env s).map some

/-- The settings of a connection with the references in its file and its URL resolved. -/
def expandSettings (env : Environment) (s : ConnectionSettings) :
    Except ConfigFault ConnectionSettings := do
  let database ← expandOption env s.database
  let url ← expandOption env s.url
  return { s with database, url }

/-- **All references resolved**, connection by connection. -/
def expandAll (env : Environment) (c : Config) : Except ConfigFault Config := do
  let connections ← c.connections.mapM fun (name, s) => do
    return (name, ← expandSettings env s)
  return { c with connections }

/-- What is wrong with the settings of a connection: no file for a database in a file, no URL for a
    server. -/
def settingsFault? (name : String) (s : ConnectionSettings) : Option ConfigFault :=
  match s.driver with
  | .sqlite => if ConnectionSettings.isBlank s.database then some (.blankDatabase name) else none
  | .postgres | .mysql => if ConnectionSettings.isBlank s.url then some (.blankUrl name) else none
  | .ansi => none

/-- The first fault of the connections. -/
def fault? (c : Config) : Option ConfigFault :=
  if c.connections.isEmpty then some .noConnections
  else if (c.connections.lookup c.default).isNone then some (.undefinedDefault c.default)
  else c.connections.findSome? fun (name, s) => settingsFault? name s

/-- **The checks of a configuration**: its connections, then the level of its logger. -/
def validate (c : Config) : Except Error Unit :=
  match c.fault? with
  | some fault => .error (.config fault)
  | none => c.logging.logger.map fun _ => ()

/-- **A configuration as written, accepted.** -/
def accept (env : Environment) (written : Config) : Except Error Config := do
  let c ← (written.expandAll env).mapError .config
  c.validate
  return c

/-- **The settings of a connection**, the default one if none is named, with its name. -/
def connection (c : Config) (name : Option String) : Except Error (String × ConnectionSettings) :=
  let name := name.getD c.default
  match c.connections.lookup name with
  | some s => .ok (name, s)
  | none => .error (.config (.unknownConnection name))

end Config

end FluentSql
