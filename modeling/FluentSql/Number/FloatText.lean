import FluentSql.Number.Double
import FluentSql.Number.Shortest
/-!
# `FluentSql.Number.FloatText` — floating-point numbers as text

A float is written with the shortest digits that read back (`FluentSql.Number.Shortest`) in one of
three layouts:

* `plain` — how a float stands in SQL and in rows: always positional, no trailing `.0`;
* `detailed` — how an error message shows it: a `.0` for whole numbers, an exponent for very large and
  very small ones;
* `json` — the JSON number that stands for it.
-/

namespace FluentSql.Number

/-! ## Taking a float apart -/

/-- **The kinds of floats.** -/
inductive FloatShape where
  | nan
  | infinite (negative : Bool)
  | zero (negative : Bool)
  /-- A finite number other than zero: significant digits and the exponent of the last one. -/
  | finite (negative : Bool) (digits : List Char) (exponent : Int)
  deriving DecidableEq, Repr

/-- The shape of the double with the given bits. -/
def FloatShape.ofBits (tie : Tie) (bits : UInt64) : FloatShape :=
  let n := bits.toNat
  let negative := n >>> 63 == 1
  let biased : Nat := (n >>> 52) % 2048
  let fraction : Nat := n % 0x10000000000000
  if biased == 2047 then
    if fraction == 0 then .infinite negative else .nan
  else if biased == 0 && fraction == 0 then .zero negative
  else
    let iv :=
      if biased == 0 then Interval.ofBinary fraction (-1074) false
      else Interval.ofBinary (0x10000000000000 + fraction) ((biased : Int) - 1075) (fraction == 0 && 1 < biased)
    let (digits, exponent) := (shortest iv tie 17).significant
    .finite negative digits exponent

/-! ## Layouts -/

/-- Digits placed around the decimal point without an exponent; `pad` ends a whole number. -/
def positional (digits : List Char) (exponent : Int) (pad : List Char) : List Char :=
  let point : Int := digits.length + exponent
  if 0 ≤ exponent then digits ++ List.replicate exponent.toNat '0' ++ pad
  else if 0 < point then digits.take point.toNat ++ '.' :: digits.drop point.toNat
  else '0' :: '.' :: List.replicate (-point).toNat '0' ++ digits

/-- Digits with a point after the first, a mark and the exponent of the first. -/
def scientific (mark : String) (digits : List Char) (exponent : Int) : List Char :=
  let leading : Int := digits.length + exponent - 1
  let mantissa :=
    match digits with
    | [] => []
    | [d] => [d]
    | d :: ds => d :: '.' :: ds
  mantissa ++ (s!"{mark}{leading}").toList

/-- A minus sign for negative numbers. -/
def signed (negative : Bool) (body : List Char) : String :=
  String.ofList (if negative then '-' :: body else body)

/-- **Plain text**: positional, without a trailing `.0`. -/
def plain (x : Double) : String :=
  match FloatShape.ofBits .up x.bits with
  | .nan => "NaN"
  | .infinite negative => signed negative ['i', 'n', 'f']
  | .zero negative => signed negative ['0']
  | .finite negative digits exponent => signed negative (positional digits exponent [])

/-- **Detailed text**: an exponent from `1e16` on and below `0.0001`, else at least one digit after
    the point. -/
def detailed (x : Double) : String :=
  match FloatShape.ofBits .up x.bits with
  | .nan => "NaN"
  | .infinite negative => signed negative ['i', 'n', 'f']
  | .zero negative => signed negative ['0', '.', '0']
  | .finite negative digits exponent =>
    let point : Int := digits.length + exponent
    if point ≤ -4 || 16 < point then signed negative (scientific "e" digits exponent)
    else signed negative (positional digits exponent ['.', '0'])

/-- **JSON text**: an exponent from `1e16` on and below `0.00001`; what is no number is `null`. -/
def json (x : Double) : String :=
  match FloatShape.ofBits .even x.bits with
  | .nan => "null"
  | .infinite _ => "null"
  | .zero negative => signed negative ['0', '.', '0']
  | .finite negative digits exponent =>
    let point : Int := digits.length + exponent
    if 16 < point then signed negative (scientific "e+" digits exponent)
    else if point ≤ -5 then signed negative (scientific "e" digits exponent)
    else signed negative (positional digits exponent ['.', '0'])

end FluentSql.Number
