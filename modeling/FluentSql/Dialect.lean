import FluentSql.Column
import FluentSql.Text.Blank
import FluentSql.Text.Case
import FluentSql.Text.Quoted
import FluentSql.Text.Split
/-!
# `FluentSql.Dialect` — SQL dialects and the quoting of identifiers

The dialects differ in the quote character of their identifiers and in nothing else that is rendered,
an INSERT without columns apart.

* `Dialect.ofDriver` — the dialect that a driver name stands for;
* `Dialect.quoteIdent` — a whole text as one identifier;
* `Dialect.quote` — a dotted identifier, segment by segment.
-/

namespace FluentSql

open FluentSql.Text

/-- **A database engine**, as far as SQL text depends on it. -/
inductive Dialect where
  | mysql
  | postgres
  | sqlite
  /-- Standard SQL, for every other engine. -/
  | ansi
  deriving DecidableEq, Repr, Inhabited

namespace Dialect

/-- The dialect whose driver has exactly this name, in lower case. -/
def ofDriverName? : String → Option Dialect
  | "mysql" | "mariadb" => some .mysql
  | "pgsql" | "postgres" | "postgresql" => some .postgres
  | "sqlite" | "sqlite3" => some .sqlite
  | "ansi" => some .ansi
  | _ => none

/-- **The dialect of a driver**: blanks around the name and ASCII case do not matter, and unknown
    drivers speak standard SQL. -/
def ofDriver (name : String) : Dialect :=
  (ofDriverName? (asciiLower (trim name))).getD .ansi

/-- The canonical driver name. -/
def driverName : Dialect → String
  | .mysql => "mysql"
  | .postgres => "pgsql"
  | .sqlite => "sqlite"
  | .ansi => "ansi"

/-- **The quote character** of identifiers. -/
def quoteChar : Dialect → Char
  | .mysql | .sqlite => '\x60'
  | .postgres | .ansi => '"'

/-- Characters as one identifier; no characters stay none. -/
def quoteChars (d : Dialect) : List Char → List Char
  | [] => []
  | cs => wrap d.quoteChar cs

/-- **One identifier**: the whole text in quotes; the empty text stays empty. -/
def quoteIdent (d : Dialect) (ident : String) : String :=
  String.ofList (d.quoteChars ident.toList)

/-- A segment of a dotted identifier: `*` stands for all columns and is never quoted. -/
def quoteSegment (d : Dialect) (segment : List Char) : List Char :=
  if segment = ['*'] then segment else d.quoteChars segment

/-- **A dotted identifier**, quoted segment by segment. -/
def quote (d : Dialect) (ident : String) : String :=
  String.ofList (joinWith '.' ((splitAt '.' ident.toList).map d.quoteSegment))

/-- **A column**: names are quoted, raw SQL passes through. -/
def quoteColumn (d : Dialect) : Column → String
  | .name s => d.quote s
  | .raw sql => sql

end Dialect

end FluentSql
