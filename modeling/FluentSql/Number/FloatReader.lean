import FluentSql.Number.Double
import FluentSql.Number.Whole
/-!
# `FluentSql.Number.FloatReader` — reading floating-point numbers from text

A float is an optional sign and `inf`, `infinity`, `nan` in any case, or digits with an optional point
and exponent and at least one digit before the exponent. The text is first taken apart into an exact
decimal (`Literal`), which is then rounded once, to the nearest number of the width asked for.
-/

namespace FluentSql.Number

/-- **Why a text is no float.** -/
inductive FloatFault where
  | empty
  | invalid
  deriving DecidableEq, Repr

/-- The wording of a fault. -/
def FloatFault.message : FloatFault → String
  | .empty => "cannot parse float from empty string"
  | .invalid => "invalid float literal"

/-- **The exact meaning of a float's text.** -/
inductive Literal where
  | nan
  | infinite
  /-- `digits · 10 ^ exponent`. -/
  | decimal (digits : Nat) (exponent : Int)
  deriving DecidableEq, Repr

/-- The digits at the start of a text and what follows them. -/
def spanDigits (cs : List Char) : List Char × List Char :=
  (cs.takeWhile Char.isDigit, cs.dropWhile Char.isDigit)

/-- The number that digit characters spell. -/
def digitsValue (cs : List Char) : Nat :=
  cs.foldl (fun n c => 10 * n + (c.toNat - 0x30)) 0

/-- The exponent after the digits: nothing, or `e`, an optional sign and digits. -/
def exponent? : List Char → Option Int
  | [] => some 0
  | e :: cs =>
    if e == 'e' || e == 'E' then
      let (negative, cs) :=
        match cs with
        | '-' :: cs => (true, cs)
        | '+' :: cs => (false, cs)
        | cs => (false, cs)
      match spanDigits cs with
      | ([], _) => none
      | (digits, []) =>
        let n := (digitsValue digits : Int)
        some (if negative then -n else n)
      | _ => none
    else none

/-- Digits, an optional point with digits, an optional exponent. -/
def decimal? (cs : List Char) : Option Literal :=
  let (whole, rest) := spanDigits cs
  let (fraction, rest) :=
    match rest with
    | '.' :: rest => spanDigits rest
    | rest => ([], rest)
  if whole.isEmpty && fraction.isEmpty then none
  else do
    let e ← exponent? rest
    pure (.decimal (digitsValue (whole ++ fraction)) (e - fraction.length))

/-- The text after the sign. -/
def literal? (cs : List Char) : Option Literal :=
  let word := String.ofList (cs.map Char.toLower)
  if word == "inf" || word == "infinity" then some .infinite
  else if word == "nan" then some .nan
  else decimal? cs

/-- **Sign and exact value** of a float's text. -/
def parseLiteral : List Char → Except FloatFault (Bool × Literal)
  | [] => .error .empty
  | '-' :: cs => ((literal? cs).map (true, ·)).elim (.error .invalid) .ok
  | '+' :: cs => ((literal? cs).map (false, ·)).elim (.error .invalid) .ok
  | cs => ((literal? cs).map (false, ·)).elim (.error .invalid) .ok

/-- The exponent of the leading digit of `digits · 10 ^ exponent`, plus one. -/
def magnitude (digits : Nat) (exponent : Int) : Int :=
  exponent + (Nat.toDigits 10 digits).length

/-- **The double nearest** to `digits · 10 ^ exponent`. Decimals far out of range are decided by their
    size alone. -/
def nearestDouble (digits : Nat) (exponent : Int) : Double :=
  if digits == 0 then .zero
  else if 400 < magnitude digits exponent then .infinity
  else if magnitude digits exponent < -400 then .zero
  else if 0 ≤ exponent then .ofFloat (Float.ofScientific digits false exponent.toNat)
  else .ofFloat (Float.ofScientific digits true (-exponent).toNat)

/-- **The single-precision number nearest** to `digits · 10 ^ exponent`, widened to a double. -/
def nearestSingle (digits : Nat) (exponent : Int) : Double :=
  if digits == 0 then .zero
  else if 100 < magnitude digits exponent then .infinity
  else if magnitude digits exponent < -100 then .zero
  else if 0 ≤ exponent then .ofFloat (Float32.ofScientific digits false exponent.toNat).toFloat
  else .ofFloat (Float32.ofScientific digits true (-exponent).toNat).toFloat

/-- A literal rounded by `nearest`. -/
def Literal.round (nearest : Nat → Int → Double) : Literal → Double
  | .nan => .nan
  | .infinite => .infinity
  | .decimal digits exponent => nearest digits exponent

/-- A float of some width from its text. The sign is kept whatever follows it. -/
def parseWith (nearest : Nat → Int → Double) (cs : List Char) : Except FloatFault Double :=
  (parseLiteral cs).map fun (negative, l) => (l.round nearest).withSign negative

/-- **Reading a double.** -/
def parseDouble (cs : List Char) : Except FloatFault Double :=
  parseWith nearestDouble cs

/-- **Reading a single-precision number**, widened to a double. -/
def parseSingle (cs : List Char) : Except FloatFault Double :=
  parseWith nearestSingle cs

end FluentSql.Number
