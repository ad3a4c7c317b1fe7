import FluentSql.Text.Case
import FluentSql.Text.Hex
/-!
# `FluentSql.Uuid` — universally unique identifiers

Sixteen bytes, written in five hyphenated groups of lower-case hexadecimal digits. Reading takes the
digits with or without hyphens and, with hyphens, in braces or as a `urn:uuid:` name, whose letters
have either case.
-/

namespace FluentSql.Uuid

open FluentSql.Text

/-- Digits in hyphenated groups of 8, 4, 4, 4 and 12, without their hyphens. -/
def ungroup? (cs : List Char) : Option (List Char) :=
  if cs.length == 36 && [8, 13, 18, 23].all (fun i => cs[i]? == some '-') then
    some (cs.take 8 ++ (cs.drop 9).take 4 ++ (cs.drop 14).take 4 ++ (cs.drop 19).take 4 ++ cs.drop 24)
  else none

/-- The thirty-two digits of any accepted form. -/
def digits? (cs : List Char) : Option (List Char) :=
  if cs.length == 32 then some cs
  else if cs.length == 38 && cs.head? == some '{' && cs.getLast? == some '}' then
    ungroup? ((cs.drop 1).take 36)
  else if cs.length == 45 && equalIgnoringAsciiCase "urn:uuid:" (String.ofList (cs.take 9)) then
    ungroup? (cs.drop 9)
  else ungroup? cs

/-- **Reading an identifier** into its sixteen bytes. -/
def parse? (s : String) : Option (List UInt8) :=
  (digits? s.toList).bind Hex.toBytes?

/-- **Writing an identifier**, hyphenated and in lower case. -/
def text (bytes : List UInt8) : String :=
  let cs := Hex.ofBytes Hex.lowerDigit bytes
  let group (start count : Nat) := String.ofList ((cs.drop start).take count)
  s!"{group 0 8}-{group 8 4}-{group 12 4}-{group 16 4}-{group 20 12}"

end FluentSql.Uuid
