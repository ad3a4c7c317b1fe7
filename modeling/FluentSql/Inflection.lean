import FluentSql.Inflection.English
import FluentSql.Inflection.SnakeCase
import FluentSql.Text.Split
/-!
# `FluentSql.Inflection` — naming conventions

An `Inflector` knows singulars and plurals. Tables are named in the plural of a type's name and
foreign keys in the singular of the table they refer to.
-/

namespace FluentSql

open FluentSql.Inflection FluentSql.Text

/-- **Singular and plural** of words. -/
structure Inflector where
  singular : String → String
  plural : String → String

namespace Inflector

/-- The inflector of English words. -/
def english : Inflector := ⟨English.singular, English.plural⟩

/-- **The foreign key** of a table: the singular of its last segment and `_id`. -/
def foreignKey (inflector : Inflector) (table : String) : String :=
  inflector.singular (lastSegment '.' table) ++ "_id"

/-- What follows the last pair of colons of a path. -/
def lastOfPath (after : List Char) : List Char → List Char
  | ':' :: ':' :: cs => lastOfPath [] cs
  | c :: cs => lastOfPath (after ++ [c]) cs
  | [] => after

/-- **The table name** of a type: the plural of its name in snake case, without the path before it. -/
def tableName (inflector : Inflector) (typeName : String) : String :=
  inflector.plural (snakeCase (String.ofList (lastOfPath [] typeName.toList)))

end Inflector

instance : Inhabited Inflector := ⟨.english⟩

end FluentSql
