import FluentSql.Config
import FluentSql.Toml.Reader
/-!
# `FluentSql.Config.Reader` — configurations as TOML documents

A configuration is a table; what it does not know is ignored, what it knows must be of the right
kind. Settings may also be given as an array, in the order of their fields, and those without a field
that must be there as a date or a time.
-/

namespace FluentSql

namespace Toml

/-- A text. -/
def str? : Toml → Option String
  | .str s => some s
  | _ => none

/-- A truth value. -/
def bool? : Toml → Option Bool
  | .bool b => some b
  | _ => none

/-- A number that counts something. -/
def count? : Toml → Option Nat
  | .int n => if Number.WholeRange.unsigned64.contains n then some n.toNat else none
  | _ => none

/-- An array, each item read. -/
def list? {α : Type} (read : Toml → Option α) : Toml → Option (List α)
  | .arr _ items => items.mapM read
  | _ => none

/-- The fields of a record by their names: the entries of a table, or the items of an array in the
    order of the names. A date or a time is a record as well, which has none of these fields. -/
def fields? (names : List String) : Toml → Option Entries
  | .table _ entries => some entries
  | .arr _ items => some (names.zip items)
  | .moment _ => some []
  | _ => none

/-- A field that may be missing. -/
def optField? {α : Type} (read : Toml → Option α) (name : String) (entries : Entries) :
    Option (Option α) :=
  match entries.lookup name with
  | none => some none
  | some v => (read v).map some

/-- A field that has a value when it is missing. -/
def fieldOr? {α : Type} (read : Toml → Option α) (default : α) (name : String) (entries : Entries) :
    Option α :=
  (optField? read name entries).map (·.getD default)

end Toml

/-- A driver by its name, alone or as the only key of a table. -/
def Dialect.ofToml? : Toml → Option Dialect
  | .str s => Dialect.ofDriverName? s
  | .table _ [(s, .table _ [])] | .table _ [(s, .arr _ [])] => Dialect.ofDriverName? s
  | _ => none

/-- The fields of the settings of a connection. -/
def ConnectionSettings.fieldNames : List String :=
  ["driver", "database", "url", "timezone", "commands"]

/-- **The settings of a connection.** An array gives every field but the commands. -/
def ConnectionSettings.ofToml? (t : Toml) : Option ConnectionSettings := do
  let entries ← Toml.fields? fieldNames t
  match t with
  | .arr _ items => if items.length < 4 then none
  | _ => pure ()
  return {
    driver := ← (entries.lookup "driver").bind Dialect.ofToml?
    database := ← Toml.optField? Toml.str? "database" entries
    url := ← Toml.optField? Toml.str? "url" entries
    timezone := ← Toml.optField? Toml.str? "timezone" entries
    commands := ← Toml.fieldOr? (Toml.list? Toml.str?) [] "commands" entries }

/-- **The settings of loggers.** -/
def LoggingSettings.ofToml? (t : Toml) : Option LoggingSettings := do
  let entries ← Toml.fields? ["level", "max_sql_length", "enabled"] t
  let base : LoggingSettings := {}
  return {
    level := ← Toml.fieldOr? Toml.str? base.level "level" entries
    maxLength := ← Toml.fieldOr? (fun v => (Toml.count? v).map some) base.maxLength "max_sql_length"
      entries
    enabled := ← Toml.fieldOr? Toml.bool? base.enabled "enabled" entries }

namespace Config

/-- The connections of a table, in the order of their names. -/
def connectionsOfToml? : Toml → Option (List (String × ConnectionSettings))
  | .table _ entries => do
    let connections ← entries.mapM fun (name, t) => do
      return (name, ← ConnectionSettings.ofToml? t)
    return connections.mergeSort fun a b => !(b.1 < a.1)
  | _ => none

/-- **A configuration as it is written in a document.** -/
def ofToml? (entries : Toml.Entries) : Option Config := do
  let base : Config := {}
  return {
    default := ← Toml.fieldOr? Toml.str? base.default "default" entries
    connections := ← Toml.fieldOr? connectionsOfToml? base.connections "connections" entries
    logging := ← Toml.fieldOr? LoggingSettings.ofToml? base.logging "logging" entries }

/-- **Reading a configuration**: the text, then its references, then the checks. -/
def parse (env : Environment) (text : String) : Except Error Config :=
  match (Toml.parse? text).bind ofToml? with
  | some written => accept env written
  | none => .error (.malformed "not a configuration")

/-- **Loading a configuration** from a file, which may be missing. -/
def load (env : Environment) (file : Option String) : Except Error Config :=
  match file with
  | some text => parse env text
  | none => .error (.unreadable "no such file")

end Config

end FluentSql
