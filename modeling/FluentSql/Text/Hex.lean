/-!
# `FluentSql.Text.Hex` — bytes written as pairs of hexadecimal digits

`ofBytes` writes a byte string with the digits of a given alphabet, `toBytes?` reads either case
back and refuses an odd count of digits.
-/

namespace FluentSql.Text.Hex

/-- A hexadecimal digit in lower case. -/
def lowerDigit (n : Nat) : Char :=
  if n < 10 then Char.ofNat (0x30 + n) else Char.ofNat (0x61 + (n - 10))

/-- A hexadecimal digit in upper case. -/
def upperDigit (n : Nat) : Char :=
  if n < 10 then Char.ofNat (0x30 + n) else Char.ofNat (0x41 + (n - 10))

/-- Two digits a byte, the high half first. -/
def ofBytes (digit : Nat → Char) : List UInt8 → List Char
  | [] => []
  | b :: bs => digit (b.toNat / 16) :: digit (b.toNat % 16) :: ofBytes digit bs

/-- Lower-case hexadecimal text. -/
def lower (bytes : List UInt8) : String :=
  String.ofList (ofBytes lowerDigit bytes)

/-- Upper-case hexadecimal text. -/
def upper (bytes : List UInt8) : String :=
  String.ofList (ofBytes upperDigit bytes)

/-- The value of a digit in either case. -/
def digit? (c : Char) : Option Nat :=
  if '0' ≤ c ∧ c ≤ '9' then some (c.toNat - 0x30)
  else if 'a' ≤ c ∧ c ≤ 'f' then some (c.toNat - 0x61 + 10)
  else if 'A' ≤ c ∧ c ≤ 'F' then some (c.toNat - 0x41 + 10)
  else none

/-- **Reading pairs of digits.** An odd digit at the end, or any other character, is refused. -/
def toBytes? : List Char → Option (List UInt8)
  | [] => some []
  | [_] => none
  | h :: l :: cs => do
    let h ← digit? h
    let l ← digit? l
    let bytes ← toBytes? cs
    pure (UInt8.ofNat (16 * h + l) :: bytes)

/-- The number that digits spell in base sixteen, `none` if one is no digit. -/
def toNat? (cs : List Char) : Option Nat :=
  cs.foldlM (fun n c => do pure (16 * n + (← digit? c))) 0

/-- A natural number in lower-case digits without leading zeros. -/
def ofNat (n : Nat) : String :=
  String.ofList (Nat.toDigits 16 n)

end FluentSql.Text.Hex
