import FluentSql.OrderedMap
import FluentSql.Value
/-!
# `FluentSql.Params` — named parameters

The parameters of a statement, in the order of their registration. A name begins with a colon. Values
that a caller supplies go in under the caller's name (`add`, `merge`); values of a clause go in under
a generated name that is free (`bind`).

* `Params.bind` — a fresh name for a value;
* `Params.entries_bind` — binding only appends.
-/

namespace FluentSql

/-- **Named parameters** in the order of registration. -/
structure Params where
  map : OrderedMap String Value := {}
  deriving DecidableEq, Inhabited

namespace Params

/-! ## Names -/

/-- A name with its leading colon. -/
def colonName (name : String) : String :=
  match name.toList with
  | ':' :: _ => name
  | _ => ":" ++ name

/-- The characters a placeholder name may hold after its colon. -/
def isNameChar (c : Char) : Bool := c.isAlphanum || c == '_'

/-- A text with every other character replaced by an underscore. -/
def sanitize (cs : List Char) : List Char :=
  cs.map fun c => if isNameChar c then c else '_'

/-- **The generated name** `:table_column_n`. -/
def placeholderName (table column : String) (n : Nat) : String :=
  String.ofList
    (':' :: sanitize (table.toList ++ '_' :: column.toList) ++ '_' :: Nat.toDigits 10 n)

/-! ## Operations -/

/-- No parameters. -/
def empty : Params := {}

/-- The entries in order. -/
def entries (ps : Params) : List (String × Value) := ps.map.entries

/-- The number of parameters. -/
def size (ps : Params) : Nat := ps.map.size

/-- The names in order. -/
def names (ps : Params) : List String := ps.map.keys

/-- Whether there are none. -/
def isEmpty (ps : Params) : Bool := ps.map.isEmpty

/-- Whether exactly this name is taken. -/
def contains (ps : Params) (name : String) : Bool := ps.map.contains name

/-- **The value of a name**, with or without its colon. -/
def get? (ps : Params) (name : String) : Option Value := ps.map.get? (colonName name)

/-- **Adding a value** under a name; a taken name keeps its place and gets the new value. -/
def add (ps : Params) (name : String) (value : Value) : Params :=
  ⟨ps.map.insert (colonName name) value⟩

/-- The parameters of a list of names and values. -/
def ofList (pairs : List (String × Value)) : Params :=
  pairs.foldl (fun ps (name, value) => ps.add name value) empty

/-- **Merging**: the entries of `other` are added in their order, so they win. -/
def merge (ps other : Params) : Params :=
  other.entries.foldl (fun ps (name, value) => ps.add name value) ps

/-- **The suffix of a generated name**: the least number, from the count of parameters on, whose name
    is free. Names of different numbers differ, so one of `size + 1` numbers is free. -/
def freshSuffix (ps : Params) (table column : String) : Nat :=
  ((List.range' ps.size (ps.size + 1)).find? fun n =>
    !ps.contains (placeholderName table column n)).getD (2 * ps.size)

/-- **Binding a value** under a generated name, which is returned. -/
def bind (ps : Params) (table column : String) (value : Value) : String × Params :=
  let name := placeholderName table column (ps.freshSuffix table column)
  (name, ⟨⟨ps.entries ++ [(name, value)]⟩⟩)

/-! ## Laws -/

/-- **Binding only appends.** -/
theorem entries_bind (ps : Params) (table column : String) (value : Value) :
    (ps.bind table column value).2.entries =
      ps.entries ++ [((ps.bind table column value).1, value)] := rfl

theorem size_bind (ps : Params) (table column : String) (value : Value) :
    (ps.bind table column value).2.size = ps.size + 1 := by
  simp [bind, size, OrderedMap.size, entries]

theorem merge_empty (ps : Params) : ps.merge empty = ps := rfl

end Params

end FluentSql
