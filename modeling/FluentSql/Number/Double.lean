/-!
# `FluentSql.Number.Double` — floating-point numbers by their bits

A double is its 64 bits: a sign, eleven bits of exponent, and 52 of fraction. Keeping the bits keeps
the sign of every double, also of one that is no number, whose sign is sent to a server like any
other. Arithmetic and comparison are those of `Float`.

* `Double.withSign` — the same magnitude with a given sign;
* `Double.ofSingle`, `Double.singleBits` — to and from the 32 bits of single precision.
-/

namespace FluentSql.Number

/-- **A double**, by its bits. -/
structure Double where
  bits : UInt64
  deriving DecidableEq, Repr, Inhabited

namespace Double

/-! ## Values -/

/-- The double that a float stands for. -/
def ofFloat (x : Float) : Double := ⟨x.toBits⟩

/-- The double as a float. -/
def toFloat (x : Double) : Float := Float.ofBits x.bits

/-- Zero. -/
def zero : Double := ⟨0⟩

/-- Infinity. -/
def infinity : Double := ⟨0x7FF0000000000000⟩

/-- What is no number, with a positive sign. -/
def nan : Double := ⟨0x7FF8000000000000⟩

/-! ## Sign and magnitude -/

/-- Whether the sign is a minus. -/
def isNegative (x : Double) : Bool := 0x8000000000000000 ≤ x.bits

/-- All bits but the sign. -/
def magnitude (x : Double) : UInt64 := x.bits &&& 0x7FFFFFFFFFFFFFFF

/-- **The same magnitude with a given sign.** -/
def withSign (negative : Bool) (x : Double) : Double :=
  ⟨x.magnitude ||| if negative then 0x8000000000000000 else 0⟩

/-- Whether the double is no number. -/
def isNaN (x : Double) : Bool := infinity.bits < x.magnitude

/-- Whether the double is an infinity. -/
def isInfinite (x : Double) : Bool := x.magnitude == infinity.bits

/-- **Equality of numbers**: the two zeros are equal, and what is no number equals nothing. -/
def sameNumber (x y : Double) : Bool := x.toFloat == y.toFloat

/-! ## Single precision -/

/-- **The double of a single-precision number**, given by its bits. -/
def ofSingle (bits : UInt32) : Double :=
  (ofFloat (Float32.ofBits bits).toFloat).withSign (0x80000000 ≤ bits)

/-- **The bits of the nearest single-precision number**, with the sign of the double. -/
def singleBits (x : Double) : UInt32 :=
  (x.toFloat.toFloat32.toBits &&& 0x7FFFFFFF) ||| if x.isNegative then 0x80000000 else 0

end Double

end FluentSql.Number
