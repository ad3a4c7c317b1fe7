/-!
# `FluentSql.Postgres.ColumnType` — the types of PostgreSQL columns and parameters
-/

namespace FluentSql.Postgres

/-- **A type of the server.** -/
inductive ColumnType where
  | bool
  | int2
  | int4
  | int8
  | float4
  | float8
  | text
  | varchar
  | bpchar
  | name
  /-- The type of a literal before the server has decided on one. -/
  | unknown
  | bytea
  | timestamp
  | timestamptz
  | date
  | uuid
  | json
  | jsonb
  /-- Any type that gets no treatment of its own. -/
  | other (label : String)
  deriving DecidableEq, Repr, Inhabited

namespace ColumnType

/-- **The type of a name.** -/
def ofName : String → ColumnType
  | "bool" => .bool
  | "int2" => .int2
  | "int4" => .int4
  | "int8" => .int8
  | "float4" => .float4
  | "float8" => .float8
  | "text" => .text
  | "varchar" => .varchar
  | "bpchar" => .bpchar
  | "name" => .name
  | "unknown" => .unknown
  | "bytea" => .bytea
  | "timestamp" => .timestamp
  | "timestamptz" => .timestamptz
  | "date" => .date
  | "uuid" => .uuid
  | "json" => .json
  | "jsonb" => .jsonb
  | label => .other label

/-- The name of a type. -/
def label : ColumnType → String
  | .bool => "bool"
  | .int2 => "int2"
  | .int4 => "int4"
  | .int8 => "int8"
  | .float4 => "float4"
  | .float8 => "float8"
  | .text => "text"
  | .varchar => "varchar"
  | .bpchar => "bpchar"
  | .name => "name"
  | .unknown => "unknown"
  | .bytea => "bytea"
  | .timestamp => "timestamp"
  | .timestamptz => "timestamptz"
  | .date => "date"
  | .uuid => "uuid"
  | .json => "json"
  | .jsonb => "jsonb"
  | .other label => label

/-- **The types that hold text.** -/
def isText : ColumnType → Bool
  | .text | .varchar | .bpchar | .name | .unknown => true
  | _ => false

/-- The version of its form that a text begins with, in types of an extension that want one. -/
def textVersion : ColumnType → List UInt8
  | .other "ltree" | .other "lquery" | .other "ltxtquery" => [1]
  | _ => []

/-- **The types that are read.** Of those without a treatment of their own only some of extensions are,
    which hold text. -/
def isRead : ColumnType → Bool
  | .other label => ["citext", "ltree", "lquery", "ltxtquery"].contains label
  | _ => true

end ColumnType

end FluentSql.Postgres
