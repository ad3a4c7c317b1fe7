/-!
# `FluentSql.Text.Utf8` — reading bytes as UTF-8

`decode` reads a byte string or says where it stops being UTF-8; `decodeLossy` puts U+FFFD in place
of every longest prefix of a character that cannot be completed. Both run one machine: after a lead
byte it knows how many continuation bytes are owed and in which range the next one must lie, which
excludes overlong forms, surrogates and code points beyond U+10FFFF.
-/

namespace FluentSql.Text.Utf8

/-! ## The machine -/

/-- **Inside a character**: bytes seen so far, continuation bytes owed, the range of the next one and
    the bits gathered. -/
structure Partial where
  seen : Nat
  owed : Nat
  low : UInt8
  high : UInt8
  bits : Nat
  deriving DecidableEq, Repr

/-- What a lead byte begins. -/
inductive Lead where
  /-- A whole character. -/
  | whole (c : Char)
  /-- A character of several bytes. -/
  | opens (p : Partial)
  /-- No character begins with this byte. -/
  | invalid
  deriving DecidableEq, Repr

/-- **The lead-byte table.** -/
def lead (b : UInt8) : Lead :=
  let n := b.toNat
  if n < 0x80 then .whole (Char.ofNat n)
  else if n < 0xC2 then .invalid
  else if n < 0xE0 then .opens ⟨1, 1, 0x80, 0xBF, n - 0xC0⟩
  else if n < 0xF0 then
    .opens ⟨1, 2, if n == 0xE0 then 0xA0 else 0x80, if n == 0xED then 0x9F else 0xBF, n - 0xE0⟩
  else if n < 0xF5 then
    .opens ⟨1, 3, if n == 0xF0 then 0x90 else 0x80, if n == 0xF4 then 0x8F else 0xBF, n - 0xF0⟩
  else .invalid

/-- Whether `b` can continue the character. -/
def Partial.accepts (p : Partial) (b : UInt8) : Bool :=
  p.low ≤ b && b ≤ p.high

/-- The character with one more byte. -/
def Partial.push (p : Partial) (b : UInt8) : Partial :=
  ⟨p.seen + 1, p.owed - 1, 0x80, 0xBF, 64 * p.bits + (b.toNat - 0x80)⟩

/-! ## Reading -/

/-- **Why bytes are no UTF-8**: where the first bad character begins, and how many bytes of it are
    bad, or that the input ends inside it. -/
structure Fault where
  index : Nat
  length : Option Nat
  deriving DecidableEq, Repr

/-- The wording of a fault. -/
def Fault.message : Fault → String
  | ⟨index, some n⟩ => s!"invalid utf-8 sequence of {n} bytes from index {index}"
  | ⟨index, none⟩ => s!"incomplete utf-8 byte sequence from index {index}"

/-- Reading from byte `index` on, inside a character if one is open. -/
def decodeFrom (index : Nat) : Option Partial → List UInt8 → Except Fault (List Char)
  | none, [] => .ok []
  | some p, [] => .error ⟨index - p.seen, none⟩
  | none, b :: bs =>
    match lead b with
    | .whole c => (decodeFrom (index + 1) none bs).map (c :: ·)
    | .opens p => decodeFrom (index + 1) (some p) bs
    | .invalid => .error ⟨index, some 1⟩
  | some p, b :: bs =>
    if p.accepts b then
      let q := p.push b
      if q.owed == 0 then (decodeFrom (index + 1) none bs).map (Char.ofNat q.bits :: ·)
      else decodeFrom (index + 1) (some q) bs
    else .error ⟨index - p.seen, some p.seen⟩

/-- **UTF-8 or a fault.** -/
def decode (bytes : List UInt8) : Except Fault String :=
  (decodeFrom 0 none bytes).map String.ofList

/-- The character that stands for bytes that are no UTF-8. -/
def replacement : Char := '\ufffd'

/-- What a byte that begins a piece writes, and the character it leaves open. -/
def afterLead (b : UInt8) : List Char × Option Partial :=
  match lead b with
  | .whole c => ([c], none)
  | .opens p => ([], some p)
  | .invalid => ([replacement], none)

/-- Reading with every bad piece replaced; a byte that cannot continue a character may begin one. -/
def decodeLossyFrom : Option Partial → List UInt8 → List Char
  | none, [] => []
  | some _, [] => [replacement]
  | none, b :: bs =>
    let (written, open?) := afterLead b
    written ++ decodeLossyFrom open? bs
  | some p, b :: bs =>
    if p.accepts b then
      let q := p.push b
      if q.owed == 0 then Char.ofNat q.bits :: decodeLossyFrom none bs
      else decodeLossyFrom (some q) bs
    else
      let (written, open?) := afterLead b
      replacement :: written ++ decodeLossyFrom open? bs

/-- **UTF-8 with replacements.** -/
def decodeLossy (bytes : List UInt8) : String :=
  String.ofList (decodeLossyFrom none bytes)

/-- The UTF-8 bytes of a text. -/
def encode (s : String) : List UInt8 :=
  s.toUTF8.toList

end FluentSql.Text.Utf8
