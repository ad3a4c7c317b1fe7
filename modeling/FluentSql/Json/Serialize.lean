import FluentSql.Json
/-!
# `FluentSql.Json.Serialize` — data written as JSON

`Serialize` is the class of types that can be written as JSON. A record is written as an object: its
fields are put into the object one after the other, each with its own name, and stand there in the order
of the names. Whole numbers of 64 bits are written exactly, with or without a sign.
-/

namespace FluentSql

variable {α : Type}

/-- **Types that can be written as JSON**; there is none for a key that is no text. -/
class Serialize (α : Type) where
  serialize : α → Option Json

export Serialize (serialize)

instance : Serialize Json := ⟨some⟩
instance : Serialize Bool := ⟨fun b => some (.bool b)⟩
instance : Serialize Int64 := ⟨fun n => some (.int n.toInt)⟩
instance : Serialize UInt64 := ⟨fun n => some (.int n.toNat)⟩
instance : Serialize String := ⟨fun s => some (.str s)⟩
instance [Serialize α] : Serialize (Option α) := ⟨fun x => x.elim (some .null) serialize⟩

/-- The object with these members; the last value of a name wins. -/
def Json.ofMembers (members : List (String × Json)) : Json :=
  .obj (members.foldl (fun object (name, value) => insertMember name value object) [])

/-- **A record**: named fields in the order in which they are written. -/
structure Record (α : Type) where
  fields : List (String × α)
  deriving DecidableEq, Repr

instance [Serialize α] : Serialize (Record α) where
  serialize r := do
    let members ← r.fields.mapM fun (name, x) => (serialize x).map (name, ·)
    return .ofMembers members

end FluentSql
