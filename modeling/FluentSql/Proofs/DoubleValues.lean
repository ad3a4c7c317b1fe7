import FluentSql.Number.Double
import Mathlib.Algebra.Order.Field.Rat
import Mathlib.Algebra.Order.Field.Power
import Mathlib.Order.Monotone.Basic
import Mathlib.Tactic.Linarith
import Mathlib.Tactic.Ring
/-!
# `FluentSql.Proofs.DoubleValues` — the numbers that doubles are

The bits of a double without its sign are its place among the doubles: from one place to the next the number
grows by a gap, which doubles from time to time. Behind the greatest number the places go on in the same
way, so infinity has the place of the least number that is too large for a double.

* `valueAt`, `valueAt_succ` — the number at a place, and the step to the next one;
* `IsNearest` — the place that a real number is rounded to;
* `isNearest_of_between` — numbers between the midpoints to both neighbours are rounded to the place.
-/

namespace FluentSql.Number

/-! ## Places -/

/-- The whole number of gaps at a place. -/
def mantissaAt (i : Nat) : Nat :=
  if i / 0x10000000000000 = 0 then i else 0x10000000000000 + i % 0x10000000000000

/-- The binary exponent of the gap at a place. -/
def exponentAt (i : Nat) : Int :=
  if i / 0x10000000000000 = 0 then -1074 else (i / 0x10000000000000 : Nat) - 1075

/-- **The gap** between the number at a place and the next one. -/
def gapAt (i : Nat) : ℚ := 2 ^ exponentAt i

/-- **The number at a place.** -/
def valueAt (i : Nat) : ℚ := mantissaAt i * gapAt i

/-- **Rounding to the nearest**: no other place has a number as near as this one, but for one that is
    equally near, and then this place is even. -/
def IsNearest (d : ℚ) (i : Nat) : Prop :=
  ∀ j, j ≠ i → |d - valueAt i| < |d - valueAt j| ∨ |d - valueAt i| = |d - valueAt j| ∧ i % 2 = 0

/-- The place of a double among all of its sign. -/
def Double.place (x : Double) : Nat := x.magnitude.toNat

/-- **The number that a double is**, if it is one. -/
def Double.number? (x : Double) : Option ℚ :=
  if x.isNaN || x.isInfinite then none else some (if x.isNegative then -valueAt x.place else valueAt x.place)

/-- How many places are those of finite numbers; the next one is that of infinity. -/
def finitePlaces : Nat := 2047 * 0x10000000000000

variable {x y : Double} {i j : Nat} {d : ℚ}

theorem place_eq (x : Double) : x.place = x.bits.toNat % 0x8000000000000000 := by
  rw [Double.place, Double.magnitude, UInt64.toNat_and]
  exact Nat.and_two_pow_sub_one_eq_mod x.bits.toNat 63

theorem isNegative_iff (x : Double) : x.isNegative = true ↔ 0x8000000000000000 ≤ x.bits.toNat := by
  rw [Double.isNegative, decide_eq_true_iff, UInt64.le_iff_toNat_le]
  rfl

/-- A double is its place and its sign. -/
theorem eq_of_place (hplace : x.place = y.place) (hsign : x.isNegative = y.isNegative) :
    x = y := by
  have hlt := x.bits.toNat_lt
  have hlt' := y.bits.toNat_lt
  have hbits : x.bits.toNat = y.bits.toNat := by
    rw [Bool.eq_iff_iff, isNegative_iff, isNegative_iff] at hsign
    rw [place_eq, place_eq] at hplace
    omega
  cases x
  cases y
  exact congrArg Double.mk (UInt64.toNat_inj.mp hbits)

/-- What is no number has its place behind the finite ones. -/
theorem isNaN_iff (x : Double) : x.isNaN = true ↔ finitePlaces < x.place := by
  rw [Double.isNaN, decide_eq_true_iff, UInt64.lt_iff_toNat_lt]
  rfl

/-- Infinity has the first place behind the finite ones. -/
theorem isInfinite_iff (x : Double) : x.isInfinite = true ↔ x.place = finitePlaces := by
  rw [Double.isInfinite, beq_iff_eq, ← UInt64.toNat_inj]
  rfl

/-! ## Exponents and gaps -/

/-- **A place by its parts**: each exponent has as many places as its mantissas are. -/
theorem place_parts (i : Nat) :
    (i : Int) = (exponentAt i + 1074) * 0x10000000000000 + mantissaAt i ∧ -1074 ≤ exponentAt i ∧
      mantissaAt i < 0x20000000000000 ∧ (-1074 < exponentAt i → 0x10000000000000 ≤ mantissaAt i) := by
  unfold exponentAt mantissaAt
  split <;> omega

theorem gapAt_pos (i : Nat) : 0 < gapAt i := zpow_pos two_pos _

/-- **A number is bounded by its exponent** from above, in whole numbers. -/
theorem valueAt_le {n : Nat} (h : exponentAt i ≤ n) : valueAt i ≤ (mantissaAt i * 2 ^ n : Nat) := by
  have hgap : gapAt i ≤ 2 ^ (n : Int) := zpow_le_zpow_right₀ one_le_two h
  rw [zpow_natCast] at hgap
  push_cast
  exact mul_le_mul_of_nonneg_left hgap (Nat.cast_nonneg _)

/-- **A number is bounded by its exponent** from below. -/
theorem le_valueAt {n : Nat} (h : n ≤ exponentAt i) : (mantissaAt i * 2 ^ n : Nat) ≤ valueAt i := by
  have hgap : 2 ^ (n : Int) ≤ gapAt i := zpow_le_zpow_right₀ one_le_two h
  rw [zpow_natCast] at hgap
  push_cast
  exact mul_le_mul_of_nonneg_left hgap (Nat.cast_nonneg _)

/-- From one place to the next there is one gap more, or the gap is doubled. -/
theorem succ_cases (i : Nat) :
    exponentAt (i + 1) = exponentAt i ∧ mantissaAt (i + 1) = mantissaAt i + 1 ∨
      exponentAt (i + 1) = exponentAt i + 1 ∧ mantissaAt (i + 1) = 0x10000000000000 ∧
        mantissaAt i + 1 = 0x20000000000000 := by
  unfold exponentAt mantissaAt
  split <;> split <;> omega

/-- **The number at the next place** is greater by the gap. -/
theorem valueAt_succ (i : Nat) : valueAt (i + 1) = valueAt i + gapAt i := by
  obtain ⟨hexponent, hmantissa⟩ | ⟨hexponent, hnext, hmantissa⟩ := succ_cases i
  · rw [valueAt, valueAt, gapAt, gapAt, hexponent, hmantissa]
    push_cast
    ring
  · have hcast : (mantissaAt i : ℚ) + 1 = 0x20000000000000 := by exact_mod_cast hmantissa
    rw [valueAt, valueAt, gapAt, gapAt, hexponent, hnext, zpow_add_one₀ two_ne_zero, ← add_one_mul, hcast]
    push_cast
    ring

/-- **The numbers grow** from place to place. -/
theorem valueAt_strictMono : StrictMono valueAt := by
  apply strictMono_nat_of_lt_succ
  intro i
  rw [valueAt_succ]
  exact lt_add_of_pos_right _ (gapAt_pos i)

theorem valueAt_zero : valueAt 0 = 0 := by
  simp [valueAt, mantissaAt]

/-! ## Rounding -/

/-- The point halfway between the number at a place and the next one. -/
def midpoint (i : Nat) : ℚ := (valueAt i + valueAt (i + 1)) / 2

/-- A number below the middle of two others is nearer to the lower one. -/
theorem nearer_lower {a b : ℚ} {even : Prop} (hab : a < b) (h : 2 * d < a + b ∨ 2 * d ≤ a + b ∧ even) :
    |d - a| < |d - b| ∨ |d - a| = |d - b| ∧ even := by
  have hle : 2 * d ≤ a + b := by
    obtain h | ⟨h, -⟩ := h
    · exact h.le
    · exact h
  obtain hlt | heq := hle.lt_or_eq
  · have hdistance : |d - a| < b - d := abs_lt.mpr ⟨by linarith, by linarith⟩
    rw [abs_sub_comm d b]
    exact .inl (hdistance.trans_le (le_abs_self _))
  · obtain h | ⟨-, heven⟩ := h
    · exact absurd heq h.ne
    · have hsame : d - a = b - d := by linarith
      rw [abs_sub_comm d b, hsame]
      exact .inr ⟨rfl, heven⟩

/-- A number above the middle of two others is nearer to the upper one. -/
theorem nearer_upper {a b : ℚ} {even : Prop} (hab : b < a) (h : a + b < 2 * d ∨ a + b ≤ 2 * d ∧ even) :
    |d - a| < |d - b| ∨ |d - a| = |d - b| ∧ even := by
  have hmirrored : 2 * -d < -a + -b ∨ 2 * -d ≤ -a + -b ∧ even := by
    obtain h | ⟨h, heven⟩ := h
    · exact .inl (by linarith)
    · exact .inr ⟨by linarith, heven⟩
  have hnearer := nearer_lower (neg_lt_neg hab) hmirrored
  rwa [neg_sub_neg, neg_sub_neg, abs_sub_comm a d, abs_sub_comm b d] at hnearer

/-- **A number is rounded to a place** if it lies between the midpoints to the neighbours, or on one of
    them if the place is even. -/
theorem isNearest_of_between (hbelow : ∀ k, k + 1 = i → midpoint k < d ∨ midpoint k ≤ d ∧ i % 2 = 0)
    (habove : d < midpoint i ∨ d ≤ midpoint i ∧ i % 2 = 0) : IsNearest d i := by
  intro j hj
  obtain hlt | hlt := Nat.lt_or_gt_of_ne hj
  · obtain ⟨k, rfl⟩ := Nat.exists_eq_add_one_of_ne_zero (Nat.ne_zero_of_lt hlt)
    have hle : valueAt j ≤ valueAt k := valueAt_strictMono.monotone (Nat.le_of_lt_succ hlt)
    apply nearer_upper (valueAt_strictMono hlt)
    obtain h | ⟨h, heven⟩ := hbelow k rfl
    · rw [midpoint] at h
      exact .inl (by linarith)
    · rw [midpoint] at h
      exact .inr ⟨by linarith, heven⟩
  · have hle : valueAt (i + 1) ≤ valueAt j := valueAt_strictMono.monotone hlt
    apply nearer_lower (valueAt_strictMono hlt)
    obtain h | ⟨h, heven⟩ := habove
    · rw [midpoint] at h
      exact .inl (by linarith)
    · rw [midpoint] at h
      exact .inr ⟨by linarith, heven⟩

/-- **A number is rounded to one place only.** -/
theorem IsNearest.unique (hi : IsNearest d i) (hj : IsNearest d j) : i = j := by
  wlog hlt : i < j generalizing i j
  · obtain heq | hgt := (Nat.le_of_not_lt hlt).eq_or_lt
    · exact heq.symm
    · exact (this hj hi hgt).symm
  exfalso
  obtain hnear | ⟨hsame, heven⟩ := hi j (Nat.ne_of_gt hlt)
  · obtain hnear' | ⟨hsame, -⟩ := hj i (Nat.ne_of_lt hlt)
    · exact lt_asymm hnear hnear'
    · exact hnear.ne' hsame
  · obtain hnear' | ⟨-, heven'⟩ := hj i (Nat.ne_of_lt hlt)
    · exact hnear'.ne' hsame
    · -- both are even, so the number lies between them and nearer to a place in between
      have hbetween : i + 1 < j := by omega
      have hlow := valueAt_strictMono (Nat.lt_succ_self i)
      have hhigh := valueAt_strictMono hbetween
      have hmiddle : d - valueAt i = valueAt j - d := by
        obtain h | h := abs_eq_abs.mp hsame
        · linarith
        · linarith
      have hnearer : |d - valueAt (i + 1)| < |d - valueAt i| := by
        rw [abs_of_pos (show 0 < d - valueAt i by linarith), abs_lt]
        constructor <;> linarith
      obtain h | ⟨h, -⟩ := hi (i + 1) (Nat.succ_ne_self i)
      · exact lt_asymm h hnearer
      · exact hnearer.ne' h

theorem isNearest_zero : IsNearest 0 0 := by
  apply isNearest_of_between
  · intro k hk
    cases hk
  · have hpos : 0 < valueAt 1 := valueAt_zero ▸ valueAt_strictMono Nat.one_pos
    rw [midpoint, valueAt_zero]
    exact .inl (by linarith)

end FluentSql.Number
