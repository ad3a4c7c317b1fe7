/-!
# `FluentSql.Number.Shortest` — the shortest decimal that reads back

A binary floating-point number stands for every real that rounds to it, an interval whose ends belong
to it when its mantissa is even. `shortest` finds a decimal `digits · 10 ^ exponent` in that interval
with as few digits as possible and, among those, the nearest to the number. All arithmetic is exact,
over natural numbers with a common denominator.

The search walks the decimal grids from coarse to fine. On each grid only the two neighbours of the
number can be nearest, so these are the candidates.
-/

namespace FluentSql.Number

/-- **A decimal** `digits · 10 ^ exponent`. -/
structure Decimal where
  digits : Nat
  exponent : Int
  deriving DecidableEq, Repr

/-- Which neighbour wins when both are equally near. -/
inductive Tie where
  | up
  | even
  deriving DecidableEq, Repr

/-- **The reals that round to a number**: `below`, `value` and `above` over a common `den`. The ends
    belong to the interval when it is `closed`. -/
structure Interval where
  below : Nat
  value : Nat
  above : Nat
  den : Nat
  closed : Bool
  deriving DecidableEq, Repr

namespace Interval

/-- The interval of `mantissa · 2 ^ exponent`, whose gap below is half as wide at a power of two. -/
def ofBinary (mantissa : Nat) (exponent : Int) (narrowBelow : Bool) : Interval :=
  let up := 1 <<< exponent.toNat
  let down := 1 <<< (-exponent).toNat
  ⟨(4 * mantissa - if narrowBelow then 1 else 2) * up, 4 * mantissa * up, (4 * mantissa + 2) * up,
    4 * down, mantissa % 2 == 0⟩

/-- The ratio of a numerator of the interval to `10 ^ exponent`, as numerator and denominator. -/
def inUnits (iv : Interval) (numerator : Nat) (exponent : Int) : Nat × Nat :=
  (numerator * Nat.pow 10 (-exponent).toNat, iv.den * Nat.pow 10 exponent.toNat)

/-- Whether `k · 10 ^ exponent` lies in the interval. -/
def contains (iv : Interval) (k : Nat) (exponent : Int) : Bool :=
  let (low, den) := iv.inUnits iv.below exponent
  let (high, _) := iv.inUnits iv.above exponent
  if iv.closed then low ≤ k * den && k * den ≤ high else low < k * den && k * den < high

/-- **The best point of one grid**: of the two neighbours of the value that lie in the interval, the
    nearer one. -/
def onGrid (iv : Interval) (tie : Tie) (exponent : Int) : Option Decimal :=
  let (value, den) := iv.inUnits iv.value exponent
  let floor := value / den
  let rest := value % den
  match 0 < floor && iv.contains floor exponent, iv.contains (floor + 1) exponent with
  | false, false => none
  | true, false => some ⟨floor, exponent⟩
  | false, true => some ⟨floor + 1, exponent⟩
  | true, true =>
    let goUp : Bool :=
      if 2 * rest == den then
        match tie with
        | .up => true
        | .even => floor % 2 == 1
      else den < 2 * rest
    some ⟨if goUp then floor + 1 else floor, exponent⟩

/-- Whether the value is at least `10 ^ exponent`. -/
def reaches (iv : Interval) (exponent : Int) : Bool :=
  let (value, den) := iv.inUnits iv.value exponent
  den ≤ value

/-- The exponent of the leading digit of the value, near an estimate from its binary logarithm. -/
def leading (iv : Interval) : Int :=
  let binary : Int := (Nat.log2 iv.value : Int) - Nat.log2 iv.den
  let guess := (binary * 30103) / 100000
  if iv.reaches (guess + 1) then guess + 1
  else if iv.reaches guess then guess
  else guess - 1

end Interval

/-- **The shortest decimal in the interval**, over grids of one to `most` digits. -/
def shortest (iv : Interval) (tie : Tie) (most : Nat) : Decimal :=
  let leading := iv.leading
  ((List.range most).findSome? fun (n : Nat) => iv.onGrid tie (leading - (n : Nat))).getD ⟨0, 0⟩

/-- The digits of a decimal without zeros at the end, and the exponent they then have. -/
def Decimal.significant (d : Decimal) : List Char × Int :=
  let written := Nat.toDigits 10 d.digits
  let kept := (written.reverse.dropWhile (· == '0')).reverse
  (kept, d.exponent + (written.length - kept.length : Nat))

end FluentSql.Number
