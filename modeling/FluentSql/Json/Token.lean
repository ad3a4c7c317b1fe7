import FluentSql.Json
import FluentSql.Number.FloatReader
/-!
# `FluentSql.Json.Token` — the tokens of a JSON text

`Token.scan` cuts a text into tokens, one character at a time: `Mode` is what the characters read so
far leave open. A number ends where a character comes that cannot continue it; that character is then
read as the beginning of the next token.

A number is read in two roundings: as many leading digits as fit 64 bits become a float, which is
then multiplied or divided by the power of ten that remains. The digits on both sides of the point
are taken apart for this: a digit that does not fit ends its own side only.
-/

namespace FluentSql.Json

open FluentSql.Number FluentSql.Text

/-- **A token.** -/
inductive Token where
  | openArray
  | closeArray
  | openObject
  | closeObject
  | comma
  | colon
  /-- A string. -/
  | text (s : String)
  /-- A number, `true`, `false` or `null`. -/
  | scalar (value : Json)
  deriving Inhabited

/-! ## Numbers -/

/-- The leading digits that fit 64 bits and how many digits did not. -/
def fittingDigits (value : Nat) : List Char → Nat × Nat
  | [] => (value, 0)
  | c :: cs =>
    let next := 10 * value + (c.toNat - 0x30)
    if WholeRange.unsigned64.contains next then fittingDigits next cs else (value, cs.length + 1)

/-- `significand · 10 ^ exponent` in two roundings; `none` beyond the largest float. -/
def scaled (significand : Nat) (exponent : Int) : Option Float :=
  let x := Float.ofNat significand
  if significand == 0 then some 0
  else if 0 ≤ exponent then
    if 308 < exponent then none
    else
      let y := x * Float.ofScientific 1 false exponent.toNat
      if y.isInf then none else some y
  else if -308 ≤ exponent then some (x / Float.ofScientific 1 false (-exponent).toNat)
  else if -616 ≤ exponent then
    some (x / Float.ofScientific 1 false 308 / Float.ofScientific 1 false (-exponent - 308).toNat)
  else some 0

/-- The parts of a number: sign, whole digits, digits after the point, exponent. -/
structure Numeral where
  negative : Bool
  whole : List Char
  fraction : Option (List Char)
  exponent : Option Int

/-- A number taken apart: no leading zeros, and digits on both sides of a point. -/
def Numeral.parse? (cs : List Char) : Option Numeral := do
  let (negative, cs) :=
    match cs with
    | '-' :: cs => (true, cs)
    | cs => (false, cs)
  let (whole, rest) := spanDigits cs
  match whole with
  | [] => none
  | '0' :: _ :: _ => none
  | _ => pure ()
  let (fraction, rest) ←
    match rest with
    | '.' :: rest =>
      match spanDigits rest with
      | ([], _) => none
      | (digits, rest) => some (some digits, rest)
    | rest => some (none, rest)
  let exponent ←
    match rest with
    | [] => some none
    | rest => (exponent? rest).map some
  pure ⟨negative, whole, fraction, exponent⟩

/-- **The value of a number.** -/
def Numeral.value (n : Numeral) : Option Json :=
  let (significand, dropped) := fittingDigits 0 n.whole
  match n.fraction, n.exponent with
  | none, none =>
    if dropped == 0 then
      if !n.negative then some (.int significand)
      else if significand == 0 then some (.float (Double.zero.withSign true))
      else if WholeRange.signed64.contains (-(significand : Int)) then
        some (.int (-(significand : Int)))
      else some (.float ((Double.ofFloat (.ofNat significand)).withSign true))
    else signed (scaled significand dropped)
  | fraction, exponent =>
    let digits := fraction.getD []
    let (significand, left) := fittingDigits significand digits
    signed (scaled significand (exponent.getD 0 + dropped - ((digits.length - left : Nat) : Int)))
where
  /-- The number with its sign. -/
  signed (x : Option Float) : Option Json :=
    x.map fun x => .float ((Double.ofFloat x).withSign n.negative)

/-! ## Scanning -/

/-- What the characters read so far leave open; collected characters are in reverse. -/
inductive Mode where
  | between
  | word (read : List Char)
  | number (read : List Char)
  | string (read : List Char)
  | escape (read : List Char)
  /-- Inside `\u` with the digits so far; `high` is a first surrogate that waits for its second. -/
  | unicode (read : List Char) (high : Option Nat) (digits : List Char)
  /-- After a first surrogate: a backslash has to come, and then `u`. -/
  | surrogate (read : List Char) (high : Nat) (slash : Bool)

/-- Characters that can continue a number. -/
def continuesNumber (c : Char) : Bool :=
  c.isDigit || ['.', 'e', 'E', '+', '-'].contains c

/-- A finished word. -/
def wordToken (read : List Char) : Option Token :=
  match String.ofList read.reverse with
  | "true" => some (.scalar (.bool true))
  | "false" => some (.scalar (.bool false))
  | "null" => some (.scalar .null)
  | _ => none

/-- A finished number. -/
def numberToken (read : List Char) : Option Token :=
  (Numeral.parse? read.reverse).bind fun n => n.value.map .scalar

/-- A character between tokens. -/
def scanBetween (c : Char) : Option (Mode × List Token) :=
  match c with
  | '[' => some (.between, [.openArray])
  | ']' => some (.between, [.closeArray])
  | '\x7b' => some (.between, [.openObject])
  | '\x7d' => some (.between, [.closeObject])
  | ',' => some (.between, [.comma])
  | ':' => some (.between, [.colon])
  | '"' => some (.string [], [])
  | ' ' | '\t' | '\n' | '\r' => some (.between, [])
  | c =>
    if c.isAlpha then some (.word [c], [])
    else if c.isDigit || c == '-' then some (.number [c], [])
    else none

/-- The character that an escape of one letter stands for. -/
def simpleEscape? : Char → Option Char
  | '"' => some '"'
  | '\\' => some '\\'
  | '/' => some '/'
  | 'b' => some '\x08'
  | 'f' => some '\x0c'
  | 'n' => some '\n'
  | 'r' => some '\r'
  | 't' => some '\t'
  | _ => none

/-- Four digits of an escape are complete. -/
def finishUnicode (read : List Char) (high : Option Nat) (n : Nat) : Option Mode :=
  match high with
  | none =>
    if 0xD800 ≤ n && n < 0xDC00 then some (.surrogate read n false)
    else if 0xDC00 ≤ n && n < 0xE000 then none
    else some (.string (Char.ofNat n :: read))
  | some high =>
    if 0xDC00 ≤ n && n < 0xE000 then
      some (.string (Char.ofNat (0x10000 + (high - 0xD800) * 0x400 + (n - 0xDC00)) :: read))
    else none

/-- **One character.** The mode after it and the tokens it completes. -/
def scanChar (mode : Mode) (c : Char) : Option (Mode × List Token) :=
  match mode with
  | .between => scanBetween c
  | .word read =>
    if c.isAlpha then some (.word (c :: read), [])
    else do
      let token ← wordToken read
      let (mode, tokens) ← scanBetween c
      pure (mode, token :: tokens)
  | .number read =>
    if continuesNumber c then some (.number (c :: read), [])
    else do
      let token ← numberToken read
      let (mode, tokens) ← scanBetween c
      pure (mode, token :: tokens)
  | .string read =>
    if c == '"' then some (.between, [.text (String.ofList read.reverse)])
    else if c == '\\' then some (.escape read, [])
    else if c.toNat < 0x20 then none
    else some (.string (c :: read), [])
  | .escape read =>
    if c == 'u' then some (.unicode read none [], [])
    else (simpleEscape? c).map fun d => (.string (d :: read), [])
  | .unicode read high digits => do
    let digits := digits ++ [c]
    let n ← Hex.toNat? digits
    if digits.length == 4 then (finishUnicode read high n).map (·, [])
    else pure (.unicode read high digits, [])
  | .surrogate read high slash =>
    if slash then if c == 'u' then some (.unicode read (some high) [], []) else none
    else if c == '\\' then some (.surrogate read high true, [])
    else none

/-- The tokens that the end of the text completes. -/
def scanEnd : Mode → Option (List Token)
  | .between => some []
  | .word read => (wordToken read).map ([·])
  | .number read => (numberToken read).map ([·])
  | _ => none

/-- The tokens of a text, read from a mode. -/
def scanFrom (mode : Mode) : List Char → Option (List Token)
  | [] => scanEnd mode
  | c :: cs => do
    let (mode, tokens) ← scanChar mode c
    let rest ← scanFrom mode cs
    pure (tokens ++ rest)

/-- **The tokens of a text.** -/
def Token.scan (s : String) : Option (List Token) :=
  scanFrom .between s.toList

end FluentSql.Json
