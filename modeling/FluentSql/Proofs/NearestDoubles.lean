import FluentSql.Number.FloatText
import FluentSql.Proofs.ShortestDecimals
/-!
# `FluentSql.Proofs.NearestDoubles` — the decimals of a double

The interval of a double reaches from the midpoint to the number below to the midpoint to the number above,
so what lies in it is rounded to the double. With 17 digits a decimal in it is always found.

* `Interval.around` — the interval of a place, with `Interval.low_around` and `Interval.high_around`;
* `isNearest_of_holds` — what lies in it is rounded to the place;
* `isNearest_shortest` — so is the decimal that is found.
-/

namespace FluentSql.Number

namespace Interval

variable {i m : Nat} {e : Int} {d : ℚ}

/-- Whether the gap below a place is half as wide as the one above. -/
def narrowAt (i : Nat) : Bool := i % 0x10000000000000 == 0 && 1 < i / 0x10000000000000

/-- **The interval of a place.** -/
def around (i : Nat) : Interval := ofBinary (mantissaAt i) (exponentAt i) (narrowAt i)

/-! ## Its ends -/

/-- A quarter of a gap, over the denominator of the interval. -/
theorem quarter_eq (e : Int) :
    ((1 <<< e.toNat : Nat) : ℚ) / (4 * (1 <<< (-e).toNat) : Nat) = 2 ^ e / 4 := by
  rw [Nat.one_shiftLeft, Nat.one_shiftLeft, zpow_eq_div]
  push_cast
  field_simp

theorem mid_ofBinary (m : Nat) (e : Int) (narrow : Bool) : (ofBinary m e narrow).mid = m * 2 ^ e := by
  have hquarter := quarter_eq e
  show ((4 * m * (1 <<< e.toNat) : Nat) : ℚ) / (4 * (1 <<< (-e).toNat) : Nat) = _
  rw [Nat.cast_mul, mul_div_assoc, hquarter]
  push_cast
  ring

theorem high_ofBinary (m : Nat) (e : Int) (narrow : Bool) :
    (ofBinary m e narrow).high = m * 2 ^ e + 2 ^ e / 2 := by
  have hquarter := quarter_eq e
  show (((4 * m + 2) * (1 <<< e.toNat) : Nat) : ℚ) / (4 * (1 <<< (-e).toNat) : Nat) = _
  rw [Nat.cast_mul, mul_div_assoc, hquarter]
  push_cast
  ring

theorem low_ofBinary (hm : 0 < m) (e : Int) (narrow : Bool) :
    (ofBinary m e narrow).low = m * 2 ^ e - 2 ^ e / if narrow then 4 else 2 := by
  have hquarter := quarter_eq e
  have hcast : ((4 * m - (if narrow then 1 else 2) : Nat) : ℚ) = 4 * m - if narrow then 1 else 2 := by
    rw [Nat.cast_sub (by split <;> omega)]
    push_cast
    rfl
  show (((4 * m - if narrow then 1 else 2) * (1 <<< e.toNat) : Nat) : ℚ) / (4 * (1 <<< (-e).toNat) : Nat) = _
  rw [Nat.cast_mul, mul_div_assoc, hquarter, hcast]
  split <;> ring

/-- **The upper end** is halfway to the next place. -/
theorem high_around (i : Nat) : (around i).high = midpoint i := by
  rw [around, high_ofBinary, midpoint, valueAt_succ, valueAt, gapAt]
  ring

/-- Each place but the first has gaps. -/
theorem mantissaAt_pos (hi : 0 < i) : 0 < mantissaAt i := by
  unfold mantissaAt
  split <;> omega

theorem narrowAt_iff : narrowAt i = true ↔ i % 0x10000000000000 = 0 ∧ 1 < i / 0x10000000000000 := by
  simp [narrowAt]

/-- The gap is doubled where it is narrower below. -/
theorem exponentAt_succ (i : Nat) :
    exponentAt (i + 1) = exponentAt i + if narrowAt (i + 1) then 1 else 0 := by
  simp only [narrowAt_iff, exponentAt]
  split <;> split <;> split <;> omega

/-- The gap below a place. -/
theorem gapAt_eq (i : Nat) : gapAt i = gapAt (i + 1) / if narrowAt (i + 1) then 2 else 1 := by
  rw [gapAt, gapAt, exponentAt_succ]
  split
  · rw [zpow_add_one₀ two_ne_zero]
    simp
  · simp

/-- **The lower end** is halfway to the place below. -/
theorem low_around (i : Nat) : (around (i + 1)).low = midpoint i := by
  have hgap := gapAt_eq i
  have hvalue : valueAt (i + 1) = valueAt i + gapAt i := valueAt_succ i
  have hlow : (around (i + 1)).low = valueAt (i + 1) - gapAt (i + 1) / if narrowAt (i + 1) then 4 else 2 :=
    low_ofBinary (mantissaAt_pos (Nat.succ_pos i)) _ _
  rw [hlow, midpoint]
  split at hgap
  · rw [if_pos ‹_›]
    linarith
  · rw [if_neg ‹_›]
    linarith

/-! ## Rounding -/

/-- The ends belong to the interval of an even place. -/
theorem closed_around (i : Nat) : (around i).closed = decide (i % 2 = 0) := by
  have hparity : mantissaAt i % 2 = i % 2 := by
    unfold mantissaAt
    split <;> omega
  show (mantissaAt i % 2 == 0) = _
  rw [hparity]
  rfl

/-- **What lies in the interval of a place** is rounded to it. -/
theorem isNearest_of_holds (hi : 0 < i) (h : (around i).Holds d) : IsNearest d i := by
  obtain ⟨k, rfl⟩ := Nat.exists_eq_add_one_of_ne_zero (Nat.ne_of_gt hi)
  rw [Holds, closed_around, high_around, low_around] at h
  apply isNearest_of_between
  · intro j hj
    obtain rfl := Nat.add_right_cancel hj
    split at h
    · exact .inr ⟨h.1, of_decide_eq_true ‹_›⟩
    · exact .inl h.1
  · split at h
    · exact .inr ⟨h.2, of_decide_eq_true ‹_›⟩
    · exact .inl h.2

/-! ## The decimal that is found -/

theorem exponentAt_bounds (hfinite : i < finitePlaces) : -1074 ≤ exponentAt i ∧ exponentAt i ≤ 971 := by
  unfold finitePlaces at hfinite
  unfold exponentAt
  split <;> omega

/-- **The interval of a place** is one around a positive number. -/
theorem isProper_around (hi : 0 < i) (hfinite : i < finitePlaces) : (around i).IsProper := by
  have hpos := mantissaAt_pos hi
  obtain ⟨-, -, hlt, -⟩ := place_parts i
  obtain ⟨hlow, hhigh⟩ := exponentAt_bounds hfinite
  have hup : 0 < 1 <<< (exponentAt i).toNat := by
    rw [Nat.one_shiftLeft]
    exact Nat.two_pow_pos _
  have hden : (around i).den = 2 ^ (2 + (-exponentAt i).toNat) := by
    rw [Nat.pow_add, ← Nat.one_shiftLeft (-exponentAt i).toNat]
    rfl
  have hvalue : (around i).value < 2 ^ (55 + (exponentAt i).toNat) := by
    show 4 * mantissaAt i * (1 <<< (exponentAt i).toNat) < _
    rw [Nat.one_shiftLeft, Nat.pow_add]
    exact Nat.mul_lt_mul_of_pos_right (by omega) (Nat.two_pow_pos _)
  constructor
  case below_lt => exact Nat.mul_lt_mul_of_pos_right (by split <;> omega) hup
  case lt_above => exact Nat.mul_lt_mul_of_pos_right (by omega) hup
  case log2_value_lt =>
    have hne : (around i).value ≠ 0 := Nat.ne_of_gt (Nat.mul_pos (by omega) hup)
    have hlog := (Nat.log2_lt hne).mpr hvalue
    omega
  case log2_den_lt =>
    rw [hden, Nat.log2_two_pow]
    omega
  case den_eq => rw [hden, Nat.log2_two_pow]

/-- The number at a place has fewer gaps than there are numbers of 16 digits. -/
theorem mid_lt_width (hi : 0 < i) : (around i).mid < 10 ^ 16 * ((around i).high - (around i).low) := by
  have hgap : (0 : ℚ) < 2 ^ exponentAt i := gapAt_pos i
  have hlt : (mantissaAt i : ℚ) < 0x20000000000000 := by exact_mod_cast (place_parts i).2.2.1
  rw [around, mid_ofBinary, high_ofBinary, low_ofBinary (mantissaAt_pos hi)]
  cases hnarrow : narrowAt i with
  | false =>
    simp only [Bool.false_eq_true, if_false]
    nlinarith
  | true =>
    -- the interval is narrower, but then there are half as many gaps
    have hhalf : (mantissaAt i : ℚ) = 0x10000000000000 := by
      obtain ⟨hmod, hdiv⟩ := narrowAt_iff.mp hnarrow
      rw [mantissaAt, if_neg (by omega), hmod]
      norm_num
    rw [hhalf]
    simp only [if_true]
    linarith

/-- **The decimal that is found** is rounded to the place. -/
theorem isNearest_shortest (hi : 0 < i) (hfinite : i < finitePlaces) (tie : Tie) :
    IsNearest (shortest (around i) tie 17).number i ∧ 0 < (shortest (around i) tie 17).digits := by
  obtain ⟨hholds, hdigits⟩ := holds_shortest (isProper_around hi hfinite) (mid_lt_width hi) tie
  exact ⟨isNearest_of_holds hi hholds, hdigits⟩

end Interval

end FluentSql.Number
