import FluentSql.Error
import FluentSql.Json.Serialize
import FluentSql.OrderedMap
/-!
# `FluentSql.Payload` — the columns and values of a row to be written

A payload is a map from columns to values in insertion order.

* `Payload.ofJson` — the members of a JSON object;
* `Payload.ofSerialize` — anything that is written as one;
* `Payload.misuse?` — a payload names every column.
-/

namespace FluentSql

open FluentSql.Text

/-- **A payload.** -/
abbrev Payload := OrderedMap String Value

namespace Payload

/-- The payload of a list of columns and values; later values of a column win. -/
def ofPairs (pairs : List (String × Value)) : Payload := OrderedMap.ofList pairs

/-- A pair put into its place among pairs in the order of their columns; it replaces one of the same
    column. -/
def insertSorted (column : String) (value : Value) :
    List (String × Value) → List (String × Value)
  | [] => [(column, value)]
  | (other, old) :: pairs =>
    if column < other then (column, value) :: (other, old) :: pairs
    else if column = other then (column, value) :: pairs
    else (other, old) :: insertSorted column value pairs

/-- The payload of a sorted map: columns in the order of their code points. -/
def ofMap (pairs : List (String × Value)) : Payload :=
  ofPairs (pairs.foldl (fun sorted (column, value) => insertSorted column value sorted) [])

/-- **The members of a JSON object** as columns. -/
def ofJson : Json → Except Error Payload
  | .obj members => .ok (ofPairs (members.map fun (name, value) => (name, Value.ofJson value)))
  | .arr _ => .error (.misuse .positionalPayload)
  | scalar => .error (.misuse (.scalarPayload scalar))

/-- **What is written as a JSON object**, its members as columns. -/
def ofSerialize {α : Type} [Serialize α] (x : α) : Except Error Payload :=
  match serialize x with
  | some j => ofJson j
  | none => .error (.misuse .unnamedPayload)

/-- The position of the first column whose name is blank. -/
def unnamedColumn? (data : Payload) : Option Nat :=
  data.keys.findIdx? isBlankText

/-- **What is wrong with a payload.** -/
def misuse? (data : Payload) : Option Misuse :=
  (unnamedColumn? data).map .unnamedColumn

/-- The payload if nothing is wrong with it. -/
def validate (data : Payload) : Except Error Unit :=
  match misuse? data with
  | some misuse => .error (.misuse misuse)
  | none => .ok ()

theorem misuse?_eq_none_iff {data : Payload} :
    misuse? data = none ↔ ∀ column ∈ data.keys, isBlankText column = false := by
  simp [misuse?, unnamedColumn?]

end Payload

end FluentSql
