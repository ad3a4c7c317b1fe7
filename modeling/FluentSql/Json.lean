import FluentSql.Number.FloatText
import FluentSql.Text.Hex
/-!
# `FluentSql.Json` — JSON values and their compact text

An object holds each name once, in the order of the names. A number is whole when it was written
without point and exponent and fits 64 bits, else it is a float.

* `Json.insertMember` — the one way members enter an object: the last value of a name wins;
* `Json.compact` — the text without blanks.
-/

namespace FluentSql

open FluentSql.Number FluentSql.Text

/-- **A JSON value.** -/
inductive Json where
  | null
  | bool (b : Bool)
  | int (n : Int)
  | float (x : Double)
  | str (s : String)
  | arr (items : List Json)
  | obj (members : List (String × Json))
  deriving Inhabited

namespace Json

/-! ## Objects -/

/-- **A member put into its place** among members in the order of their names; it replaces one of the
    same name. -/
def insertMember (name : String) (value : Json) : List (String × Json) → List (String × Json)
  | [] => [(name, value)]
  | (other, old) :: members =>
    if name < other then (name, value) :: (other, old) :: members
    else if name = other then (name, value) :: members
    else (other, old) :: insertMember name value members

/-- The value of a member. -/
def member? (name : String) : Json → Option Json
  | .obj members => members.lookup name
  | _ => none

/-! ## Compact text -/

/-- One character between the quotes of a JSON string. -/
def escapeChar (c : Char) : List Char :=
  match c with
  | '"' => ['\\', '"']
  | '\\' => ['\\', '\\']
  | '\n' => ['\\', 'n']
  | '\r' => ['\\', 'r']
  | '\t' => ['\\', 't']
  | '\x08' => ['\\', 'b']
  | '\x0c' => ['\\', 'f']
  | c =>
    if c.toNat < 0x20 then "\\u00".toList ++ Hex.ofBytes Hex.lowerDigit [UInt8.ofNat c.toNat]
    else [c]

/-- A JSON string. -/
def quoted (s : String) : String :=
  String.ofList ('"' :: s.toList.flatMap escapeChar ++ ['"'])

mutual

/-- **Compact text**: no blanks, members in their order, floats in their shortest form. -/
def compact : Json → String
  | .null => "null"
  | .bool b => if b then "true" else "false"
  | .int n => toString n
  | .float x => Number.json x
  | .str s => quoted s
  | .arr items => "[" ++ ",".intercalate (compactItems items) ++ "]"
  | .obj members => "\x7b" ++ ",".intercalate (compactMembers members) ++ "\x7d"

/-- The texts of the items of an array. -/
def compactItems : List Json → List String
  | [] => []
  | item :: items => compact item :: compactItems items

/-- The texts of the members of an object. -/
def compactMembers : List (String × Json) → List String
  | [] => []
  | (name, value) :: members => (quoted name ++ ":" ++ compact value) :: compactMembers members

end

end Json

end FluentSql
