import FluentSql.Sqlite.Token
import FluentSql.Text.Utf8
/-!
# `FluentSql.Sqlite.Command` — the commands that are understood

A part of SQL: tables are created and dropped, rows inserted, updated, deleted and selected by a
comparison or a list of values, and values selected without a table. `Command.parse?` reads one
command and numbers its parameters (`Parameters`).
-/

namespace FluentSql.Sqlite

open FluentSql.Number FluentSql.Text

/-! ## Parameters -/

/-- **The parameters of a command**: the greatest number, and the names of numbers in the order in
    which they were given. A number may have no name or several. -/
structure Parameters where
  count : Nat := 0
  names : List (String × Nat) := []
  deriving DecidableEq, Inhabited

namespace Parameters

/-- The greatest number that a parameter can have. -/
def limit : Nat := 32766

/-- The number of a name. -/
def number? (ps : Parameters) (name : String) : Option Nat := ps.names.lookup name

/-- The first name of a number. -/
def name? (ps : Parameters) (number : Nat) : Option String :=
  (ps.names.find? fun (_, n) => n = number).map Prod.fst

/-- A number named. -/
def named (ps : Parameters) (name : String) (number : Nat) : Parameters :=
  ⟨max ps.count number, ps.names ++ [(name, number)]⟩

/-- **The number of a parameter.** A question mark alone takes the next number. One with a number
    takes that, and names it unless it has a name already. All others take the number of their name,
    or the next one. -/
def assign (ps : Parameters) (text : String) : Option (Nat × Parameters) := do
  let (number, ps) ←
    match text.toList with
    | ['?'] => some (ps.count + 1, { ps with count := ps.count + 1 })
    | '?' :: digits =>
      let number := digitsValue digits
      if ps.count < number || (ps.name? number).isNone then some (number, ps.named text number)
      else some (number, ps)
    | '#' :: c :: _ => if c.isDigit then none else some (byName ps)
    | _ => some (byName ps)
  if 0 < number ∧ number ≤ limit then some (number, ps) else none
where
  /-- The number of a name that has one, or the next one. -/
  byName (ps : Parameters) : Nat × Parameters :=
    match ps.number? text with
    | some number => (number, ps)
    | none => (ps.count + 1, ps.named text (ps.count + 1))

end Parameters

/-! ## Commands -/

/-- **A value of a command**: written out, or a parameter by its number. -/
inductive Operand where
  | literal (v : Value)
  | param (number : Nat)
  deriving DecidableEq, Inhabited

/-- One side of a comparison. -/
inductive Term where
  | column (name : String)
  | operand (o : Operand)
  deriving DecidableEq, Inhabited

/-- **Which rows** a command is about. -/
inductive Condition where
  | all
  | equal (left right : Term)
  | among (left : Term) (items : List Operand)
  deriving Inhabited

/-- A column of a new table. -/
structure ColumnDef where
  name : String
  /-- Whether the column is the number of the row. -/
  isKey : Bool
  deriving DecidableEq, Inhabited

/-- What is selected from a table. -/
inductive Selection where
  | rows
  /-- The number of rows, under a name. -/
  | count (called : String)
  deriving DecidableEq, Inhabited

/-- **A command.** -/
inductive Command where
  /-- A setting of the connection; some answer with a row when they are changed. -/
  | setting (answers : Bool)
  /-- A new table, perhaps only where there is none of that name. -/
  | create (table : String) (columns : List ColumnDef) (unlessPresent : Bool)
  /-- A table to be dropped, perhaps only where there is one. -/
  | drop (table : String) (ifPresent : Bool)
  /-- Rows with values for some columns, or for all of them in order. -/
  | insert (table : String) (columns : Option (List String)) (rows : List (List Operand))
  | update (table : String) (changes : List (String × Operand)) (which : Condition)
  | delete (table : String) (which : Condition)
  /-- Rows in the order of their numbers, or of a column. -/
  | select (selection : Selection) (table : String) (which : Condition)
      (order : Option (String × Bool))
  /-- One row of named values. -/
  | values (items : List (Operand × String))
  deriving Inhabited

/-! ## Reading -/

/-- What is left to read, and the parameters met so far. -/
structure Source where
  tokens : List Token
  params : Parameters := {}

/-- A reader of a part of a command. -/
abbrev Read := StateT Source Option

namespace Read

/-- The next token, left in place. -/
def peek : Read (Option Token) := return (← get).tokens.head?

/-- The next token. -/
def next : Read Token := do
  match (← get).tokens with
  | [] => failure
  | token :: tokens =>
    modify fun s => { s with tokens := tokens }
    return token

/-- Exactly this mark. -/
def mark (c : Char) : Read Unit := do
  unless (← next) = .mark c do failure

/-- Whether this mark comes next; it is passed. -/
def tryMark (c : Char) : Read Bool := do
  if (← peek) = some (.mark c) then
    let _ ← next
    return true
  else return false

/-- Whether a token is a keyword, in any case. -/
def isKeyword (keyword : String) : Token → Bool
  | .word w => equalIgnoringAsciiCase keyword w
  | _ => false

/-- Exactly these keywords. -/
def keywords : List String → Read Unit
  | [] => pure ()
  | keyword :: rest => do
    unless isKeyword keyword (← next) do failure
    keywords rest

/-- Whether this keyword comes next; it is passed. -/
def tryKeyword (keyword : String) : Read Bool := do
  if ((← peek).map (isKeyword keyword)).getD false then
    let _ ← next
    return true
  else return false

/-- The words that are no names without quotes. -/
def reserved : List String :=
  ["and", "as", "create", "default", "delete", "drop", "from", "in", "insert", "into", "not", "null",
    "or", "order", "primary", "select", "set", "table", "update", "values", "where"]

/-- A name. -/
def name : Read String := do
  match ← next with
  | .name s => return s
  | .word w => if reserved.contains (asciiLower w) then failure else return w
  | _ => failure

/-- Parts that each follow a comma, at most so many. -/
def further {α : Type} (item : Read α) : Nat → Read (List α)
  | 0 => return []
  | n + 1 => do
    if ← tryMark ',' then
      let a ← item
      return a :: (← further item n)
    else return []

/-- **Parts with commas between them.** There are no more than tokens. -/
def separated {α : Type} (item : Read α) : Read (List α) := do
  let first ← item
  return first :: (← further item (← get).tokens.length)

/-- Parts in parentheses. -/
def listed {α : Type} (item : Read α) : Read (List α) := do
  mark '('
  let items ← separated item
  mark ')'
  return items

/-- The number of a parameter. -/
def param (text : String) : Read Operand := do
  let (number, params) ← (← get).params.assign text
  modify fun s => { s with params }
  return .param number

/-- Bytes taken as text. -/
def castText : Read Operand := do
  mark '('
  let v ← match ← next with
    | .literal (.blob bytes) => pure (Value.text (Utf8.decodeLossy bytes))
    | _ => failure
  keywords ["as", "text"]
  mark ')'
  return .literal v

/-- A negative number. -/
def negated : Read Operand := do
  match ← next with
  | .literal (.int n) => return .literal (.int (-n))
  | .literal (.float x) => return .literal (.float (x.withSign (!x.isNegative)))
  | _ => failure

/-- **A value.** -/
def operand : Read Operand := do
  match ← next with
  | .literal v => return .literal v
  | .param text => param text
  | .mark '-' => negated
  | .word w =>
    match asciiLower w with
    | "null" => return .literal .null
    | "cast" => castText
    | _ => failure
  | _ => failure

/-- One side of a comparison. -/
def term : Read Term := do
  match ← peek with
  | some (.name _) => return .column (← name)
  | some (.word w) =>
    if reserved.contains (asciiLower w) then return .operand (← operand)
    else return .column (← name)
  | _ => return .operand (← operand)

/-- **An optional condition.** -/
def condition : Read Condition := do
  if ← tryKeyword "where" then
    let left ← term
    if ← tryKeyword "in" then return .among left (← listed operand)
    mark '='
    return .equal left (← term)
  else return .all

/-- The words after the name of a column. -/
def columnWords : Nat → Read (List String)
  | 0 => return []
  | n + 1 => do
    match ← peek with
    | some (.word w) =>
      let _ ← next
      return asciiLower w :: (← columnWords n)
    | _ => return []

/-- A column of a new table. -/
def columnDef : Read ColumnDef := do
  let column ← name
  let words ← columnWords (← get).tokens.length
  return ⟨column, words.take 3 = ["integer", "primary", "key"]⟩

/-- An optional order. -/
def order : Read (Option (String × Bool)) := do
  if ← tryKeyword "order" then
    keywords ["by"]
    let column ← name
    if ← tryKeyword "desc" then return some (column, false)
    let _ ← tryKeyword "asc"
    return some (column, true)
  else return none

/-- A selection from a table, after what is selected. -/
def selectFrom (selection : Selection) : Read Command := do
  keywords ["from"]
  return .select selection (← name) (← condition) (← order)

/-- The most columns that a table or a result can have. -/
def maxColumns : Nat := 2000

/-- Columns, if they are not too many. -/
def columns {α : Type} (read : Read (List α)) : Read (List α) := do
  let items ← read
  if items.length ≤ maxColumns then return items else failure

/-- A selection, after its keyword. -/
def select : Read Command := do
  if ← tryMark '*' then selectFrom .rows
  else if ← tryKeyword "count" then do
    mark '('
    mark '*'
    mark ')'
    let called ← if ← tryKeyword "as" then name else pure "COUNT(*)"
    selectFrom (.count called)
  else
    return .values (← columns (separated do
      let o ← operand
      keywords ["as"]
      return (o, ← name)))

/-- An insertion, after its keyword. -/
def insert : Read Command := do
  keywords ["into"]
  let table ← name
  if ← tryKeyword "default" then
    keywords ["values"]
    return .insert table (some []) [[]]
  let columns ← if (← peek) = some (.mark '(') then some <$> listed name else pure none
  keywords ["values"]
  return .insert table columns (← separated (listed operand))

/-- A change of a column. -/
def change : Read (String × Operand) := do
  let column ← name
  mark '='
  return (column, ← operand)

/-- The settings that answer with a row when they are changed. -/
def answering : List String :=
  ["analysis_limit", "busy_timeout", "encoding", "journal_mode", "journal_size_limit",
    "locking_mode", "max_page_count", "secure_delete", "threads", "wal_autocheckpoint",
    "wal_checkpoint"]

/-- A word or a value that a setting is given, perhaps with a sign. -/
def settingValue : Read Unit := do
  let _ ← tryMark '-'
  match ← next with
  | .mark _ | .param _ => failure
  | _ => pure ()

/-- A setting: a name, and a word or a value behind a sign of equality or in parentheses. -/
def setting : Read Command := do
  let called ← name
  if ← tryMark '=' then settingValue
  else
    mark '('
    settingValue
    mark ')'
  return .setting (answering.contains (asciiLower called))

/-- Whether there is a supposition, which these keywords complete; it is passed. -/
def supposing (rest : List String) : Read Bool := do
  let supposed ← tryKeyword "if"
  if supposed then keywords rest
  return supposed

/-- Semicolons, of which there are no more than `n`. -/
def semicolons : Nat → Read Unit
  | 0 => pure ()
  | n + 1 => do
    if ← tryMark ';' then semicolons n

/-- **A command**, up to the end of the text; semicolons around it do not count. -/
def command : Read Command := do
  semicolons (← get).tokens.length
  let command ← match ← next with
    | .word w =>
      match asciiLower w with
      | "pragma" => setting
      | "create" => do
        keywords ["table"]
        let unlessPresent ← supposing ["not", "exists"]
        pure (.create (← name) (← columns (listed columnDef)) unlessPresent)
      | "drop" => do
        keywords ["table"]
        let ifPresent ← supposing ["exists"]
        pure (.drop (← name) ifPresent)
      | "insert" => insert
      | "update" => do
        let table ← name
        keywords ["set"]
        pure (.update table (← separated change) (← condition))
      | "delete" => do
        keywords ["from"]
        pure (.delete (← name) (← condition))
      | "select" => select
      | _ => failure
    | _ => failure
  semicolons (← get).tokens.length
  if (← get).tokens.isEmpty then return command else failure

end Read

/-- **Reading a command** and its parameters. -/
def Command.parse? (sql : String) : Option (Command × Parameters) := do
  let tokens ← Token.scan sql
  let (command, source) ← Read.command.run { tokens }
  return (command, source.params)

end FluentSql.Sqlite
