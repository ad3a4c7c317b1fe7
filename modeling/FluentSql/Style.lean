import FluentSql.Dialect
import FluentSql.Inflection
/-!
# `FluentSql.Style` — what the text of a statement depends on

The dialect decides how identifiers are quoted, the inflector what default keys are called. A
statement holds neither; it is rendered in a style.
-/

namespace FluentSql

/-- **The style of a statement's text.** -/
structure Style where
  dialect : Dialect
  inflector : Inflector := Inflector.english

namespace Style

/-- A dotted identifier. -/
def quote (st : Style) (ident : String) : String := st.dialect.quote ident

/-- One identifier. -/
def quoteIdent (st : Style) (ident : String) : String := st.dialect.quoteIdent ident

/-- A column. -/
def quoteColumn (st : Style) (column : Column) : String := st.dialect.quoteColumn column

/-- The column by which other tables refer to a table. -/
def foreignKey (st : Style) (table : String) : String := st.inflector.foreignKey table

end Style

end FluentSql
