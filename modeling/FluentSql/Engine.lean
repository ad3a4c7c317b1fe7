import FluentSql.Config.Settings
import FluentSql.Postgres.Executor
import FluentSql.Sqlite.Executor
/-!
# `FluentSql.Engine` — the databases that can be opened

An engine is a database of any of the kinds that executors come with. What is outside of the program is
given: files and servers as `Surroundings`, and the databases in files by the library that keeps them.
-/

namespace FluentSql

/-- **An engine**, with databases of type `δ` in files. -/
inductive Engine (δ : Type := Sqlite.Database) where
  /-- None that is open. -/
  | closed
  | sqlite (db : δ)
  | postgres (server : Postgres.Server)
  deriving Inhabited

/-- **What can be reached.** -/
structure Surroundings where
  /-- The files that can be opened. -/
  canOpen : String → Bool
  /-- The server at a URL. -/
  server? : String → Option Postgres.Server

namespace Engine

variable {δ : Type}

/-- A call for one kind of engine, made on any. -/
def on {σ α : Type} (view : Engine δ → Option σ) (wrap : σ → Engine δ) (call : Call σ α) :
    Call (Engine δ) α := fun e =>
  match view e with
  | some s =>
    let (answer, s) := call s
    (answer, wrap s)
  | none => (.error .noConnection, e)

/-- An executor for one kind of engine. -/
def lift {σ : Type} (view : Engine δ → Option σ) (wrap : σ → Engine δ) (e : Executor σ) :
    Executor (Engine δ) where
  driverName := e.driverName
  execute sql binds := on view wrap (e.execute sql binds)
  fetchAll sql binds := on view wrap (e.fetchAll sql binds)
  fetchOne sql binds := on view wrap (e.fetchOne sql binds)
  lastInsertId := on view wrap e.lastInsertId

/-- The database in a file. -/
def sqlite? : Engine δ → Option δ
  | .sqlite db => some db
  | _ => none

/-- The server. -/
def postgres? : Engine δ → Option Postgres.Server
  | .postgres server => some server
  | _ => none

/-- The executor for databases in files. -/
def sqliteExecutor [Sqlite.Library δ] : Executor (Engine δ) :=
  lift sqlite? .sqlite Sqlite.Library.executor

/-- The executor for servers. -/
def postgresExecutor : Executor (Engine δ) := lift postgres? .postgres Postgres.executor

/-- A text in quotes, each of which is doubled inside. -/
def quoted (s : String) : String := Text.quoteWith '\'' s

/-- **The statement that sets the time zone** of a session: an offset begins with a sign, all else is
    a name. -/
def zoneStatement (zone : String) : String :=
  match zone.toList with
  | '+' :: _ | '-' :: _ => "SET TIME ZONE INTERVAL " ++ quoted zone ++ " HOUR TO MINUTE"
  | _ => "SET TIME ZONE " ++ quoted zone

/-- The time zone of a session set, if there is one. -/
def setZone (s : ConnectionSettings) : Call Postgres.Server Unit := fun server =>
  match s.timezoneOffset with
  | some zone => Postgres.send (.query (zoneStatement zone)) server
  | none => (.ok (), server)

/-- **An engine opened** by the settings of a connection, with its executor. -/
def start [Sqlite.Library δ] (w : Surroundings) (s : ConnectionSettings) :
    Except Error (Executor (Engine δ) × Engine δ) :=
  match s.driver with
  | .sqlite =>
    let file := s.database.getD ":memory:"
    if file = ":memory:" || (!file.toList.contains '\x00' && w.canOpen file) then
      .ok (sqliteExecutor, .sqlite (Sqlite.Library.database file))
    else .error (Sqlite.refusal "unable to open database file")
  | .postgres =>
    match s.url with
    | none => .error (.config .missingUrl)
    | some url =>
      match w.server? url with
      | none => .error (Postgres.refusal "error connecting to server")
      | some server =>
        let (answer, server) := setZone s server
        answer.map fun () => (postgresExecutor, .postgres server)
  | driver => .error (.config (.noExecutor driver.driverName))

end Engine

end FluentSql
