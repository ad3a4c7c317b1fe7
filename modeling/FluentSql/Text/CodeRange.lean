/-!
# `FluentSql.Text.CodeRange` — sets of characters written as ranges of code points

A class of characters of the Unicode standard is a list of code-point ranges. `inRanges` reads a
list of closed ranges, `inStrides` a list of ranges that take every code point or every second one,
the way upper- and lower-case letters alternate in most alphabets.
-/

namespace FluentSql.Text

/-- **Closed ranges.** Whether `c` lies in one of the ranges `(low, high)`, both ends included. -/
def inRanges (ranges : List (Nat × Nat)) (c : Char) : Bool :=
  ranges.any fun (low, high) => low ≤ c.toNat && c.toNat ≤ high

/-- **Strided ranges.** Whether `c` is one of `low, low + step, low + 2 * step, …, high` for an entry
    `(low, high, step)`. -/
def inStrides (ranges : List (Nat × Nat × Nat)) (c : Char) : Bool :=
  ranges.any fun (low, high, step) =>
    low ≤ c.toNat && c.toNat ≤ high && (c.toNat - low) % step == 0

end FluentSql.Text
