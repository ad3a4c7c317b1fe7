/-!
# `FluentSql.Number.Whole` — reading whole numbers from text

A whole number is an optional sign and one or more ASCII digits whose value fits a range. The digits
are read from the left, so the fault reported is the first one met: a character that is no digit, or
the digit at which the value leaves the range.
-/

namespace FluentSql.Number

/-- **Why a text is no whole number of a range.** -/
inductive WholeFault where
  | empty
  | invalidDigit
  | tooLarge
  | tooSmall
  deriving DecidableEq, Repr

/-- The wording of a fault. -/
def WholeFault.message : WholeFault → String
  | .empty => "cannot parse integer from empty string"
  | .invalidDigit => "invalid digit found in string"
  | .tooLarge => "number too large to fit in target type"
  | .tooSmall => "number too small to fit in target type"

/-- A range of whole numbers, both ends included. -/
structure WholeRange where
  low : Int
  high : Int
  deriving DecidableEq, Repr

namespace WholeRange

/-- The signed numbers of 64 bits. -/
def signed64 : WholeRange := ⟨-9223372036854775808, 9223372036854775807⟩

/-- The signed numbers of 32 bits. -/
def signed32 : WholeRange := ⟨-2147483648, 2147483647⟩

/-- The signed numbers of 16 bits. -/
def signed16 : WholeRange := ⟨-32768, 32767⟩

/-- The unsigned numbers of 64 bits. -/
def unsigned64 : WholeRange := ⟨0, 18446744073709551615⟩

/-- **Narrowing.** `n` itself if it lies in the range, else on which side it lies out of it. -/
def narrow (range : WholeRange) (n : Int) : Except WholeFault Int :=
  if n < range.low then .error .tooSmall
  else if range.high < n then .error .tooLarge
  else .ok n

/-- Whether a number lies in the range. -/
def contains (range : WholeRange) (n : Int) : Bool := range.low ≤ n && n ≤ range.high

theorem narrow_eq_ok_iff {range : WholeRange} {n m : Int} :
    range.narrow n = .ok m ↔ m = n ∧ range.low ≤ n ∧ n ≤ range.high := by
  unfold narrow
  split
  · simp; omega
  · split
    · simp; omega
    · simp only [Except.ok.injEq]; omega

end WholeRange

/-- The value of an ASCII digit. -/
def digitValue? (c : Char) : Option Nat :=
  if '0' ≤ c ∧ c ≤ '9' then some (c.toNat - 0x30) else none

/-- Digits read into `value`, which is kept in the range after every digit. -/
def readDigits (range : WholeRange) (negative : Bool) (value : Int) :
    List Char → Except WholeFault Int
  | [] => .ok value
  | c :: cs =>
    match digitValue? c with
    | none => .error .invalidDigit
    | some d =>
      match range.narrow (if negative then 10 * value - d else 10 * value + d) with
      | .ok next => readDigits range negative next cs
      | .error fault => .error fault

/-- **Reading a whole number** of a range. A minus sign is a digit fault where no number is negative. -/
def parseWhole (range : WholeRange) : List Char → Except WholeFault Int
  | [] => .error .empty
  | ['+'] => .error .invalidDigit
  | ['-'] => .error .invalidDigit
  | '+' :: cs => readDigits range false 0 cs
  | '-' :: cs => if range.low < 0 then readDigits range true 0 cs else .error .invalidDigit
  | cs => readDigits range false 0 cs

end FluentSql.Number
