import FluentSql.Model.Query
import FluentSql.Row
/-!
# `FluentSql.Model` — rows as values of a type

A model says how the rows of a table become values of a type and back, and what its named scopes are.
-/

namespace FluentSql

/-- **A model** of a type. -/
structure Model (α : Type) extends Schema where
  /-- A row read. -/
  ofRow : Row → Except Error α
  /-- The columns to be written. -/
  attributes : α → Payload
  /-- The primary key set. -/
  setId : α → Value → α
  /-- Named changes of queries. -/
  scopes : List (String × (ModelQuery → ModelQuery)) := []

namespace Model

variable {α : Type}

/-- A query for all rows of the model. -/
def query (m : Model α) : ModelQuery := .ofSchema m.toSchema

/-- **A named scope applied.** -/
def scope (m : Model α) (q : ModelQuery) (name : String) : Except Error ModelQuery :=
  match m.scopes.lookup name with
  | some apply => .ok (apply q)
  | none => .error (.unknown name (m.scopes.map Prod.fst))

/-- **The primary key of a value**; null is none. -/
def id? (m : Model α) (a : α) : Option Value :=
  match (m.attributes a).get? m.primaryKey with
  | some v => if v.isNull then none else some v
  | none => none

/-! ## Relations -/

/-- The rows of another model that refer to a value: by a foreign key to the value's primary key, or
    by the given columns. -/
def hasMany (m : Model α) (st : Style) (other : Schema) (a : α) (foreignKey localKey : Option String) :
    ModelQuery :=
  let value := match localKey with
    | some key => (m.attributes a).get? key
    | none => m.id? a
  (ModelQuery.ofSchema other).whereEqual (foreignKey.getD (st.foreignKey m.table)) (value.getD .null)

/-- The row of another model that a value refers to; none if its foreign key is null or missing. -/
def belongsTo (m : Model α) (st : Style) (other : Schema) (a : α) (foreignKey : Option String) :
    Option ModelQuery :=
  match (m.attributes a).get? (foreignKey.getD (st.foreignKey other.table)) with
  | some v =>
    if v.isNull then none else some ((ModelQuery.ofSchema other).whereEqual other.primaryKey v)
  | none => none

end Model

end FluentSql
