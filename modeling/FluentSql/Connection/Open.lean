import FluentSql.Config
import FluentSql.Connection
import FluentSql.Engine
/-!
# `FluentSql.Connection.Open` — connections opened by settings

Opening starts an engine, runs the commands of the settings on it and logs that. The first command
that fails is the error.
-/

namespace FluentSql.Connection

variable {δ : Type}

/-- Commands run one after the other, without parameters. -/
def runCommands (e : Executor (Engine δ)) : List String → Run (Engine δ) Unit
  | [] => pure ()
  | command :: commands => do
    let _ ← Run.lift (e.execute command [])
    runCommands e commands

/-- **A connection opened** by its settings. -/
def connect [Sqlite.Library δ] (w : Surroundings) (s : ConnectionSettings) :
    Run (Engine δ) (Connection (Engine δ)) := do
  let (e, engine) ← Run.ofExcept (Engine.start w s)
  modify fun ses => { ses with state := engine }
  runCommands e s.commands
  Run.log [.opened s.driver s.commands.length]
  return ofExecutor e

/-- **A connection of a configuration opened**, the default one if none is named. -/
def openNamed [Sqlite.Library δ] (w : Surroundings) (c : Config) (name : Option String) :
    Run (Engine δ) (Connection (Engine δ)) := do
  let (_, s) ← Run.ofExcept (c.connection name)
  let connection ← connect w s
  let logger ← Run.ofExcept c.logging.logger
  return { connection with logger := logger }

end FluentSql.Connection
