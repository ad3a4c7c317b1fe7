import FluentSql.Json
/-!
# `FluentSql.Json.Access` — taking JSON values apart

Readers of one kind of value answer `none` for every other kind; readers of parts build on them.
-/

namespace FluentSql.Json

/-- A text. -/
def str? : Json → Option String
  | .str s => some s
  | _ => none

/-- A truth value. -/
def bool? : Json → Option Bool
  | .bool b => some b
  | _ => none

/-- A natural number. -/
def nat? : Json → Option Nat
  | .int n => if 0 ≤ n then some n.toNat else none
  | _ => none

/-- An unsigned number of 64 bits. -/
def word? (j : Json) : Option UInt64 :=
  (nat? j).bind fun n => if n < UInt64.size then some (UInt64.ofNat n) else none

/-- The items of an array. -/
def items? : Json → Option (List Json)
  | .arr items => some items
  | _ => none

variable {α : Type}

/-- An array, each item read. -/
def list? (read : Json → Option α) (j : Json) : Option (List α) :=
  (items? j).bind fun items => items.mapM read

/-- Null, or something read. -/
def opt? (read : Json → Option α) : Json → Option (Option α)
  | .null => some none
  | j => (read j).map some

/-- A member that has to be there. -/
def field? (read : Json → Option α) (name : String) (j : Json) : Option α :=
  (j.member? name).bind read

/-- A member that may be missing or null. -/
def optField? (read : Json → Option α) (name : String) (j : Json) : Option (Option α) :=
  match j.member? name with
  | none => some none
  | some v => opt? read v

end FluentSql.Json
