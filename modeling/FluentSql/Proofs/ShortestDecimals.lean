import FluentSql.Number.Shortest
import FluentSql.Proofs.DoubleValues
import Mathlib.Tactic.FieldSimp
import Mathlib.Tactic.Positivity
/-!
# `FluentSql.Proofs.ShortestDecimals` — the decimal that is found lies in the interval

A decimal grid that is finer than an interval is wide has a point in the interval. So the search finds a
decimal if the interval is wider than one unit of the last of 17 digits of the value, and what it finds lies
in the interval.

* `Interval.Holds`, `Interval.contains_iff` — the numbers of an interval;
* `Interval.ten_zpow_leading_le` — the first grid is not too coarse;
* `Interval.holds_shortest` — what the search finds.
-/

namespace FluentSql.Number

/-- The number that a decimal is. -/
def Decimal.number (d : Decimal) : ℚ := d.digits * 10 ^ d.exponent

/-! ## Powers -/

/-- A power as a quotient of two, one of which is one. -/
theorem zpow_eq_div (b : ℚ) (e : Int) : b ^ e = b ^ e.toNat / b ^ (-e).toNat := by
  obtain he | he := le_total 0 e
  · obtain ⟨n, rfl⟩ := Int.eq_ofNat_of_zero_le he
    simp
  · obtain ⟨n, rfl⟩ := Int.exists_eq_neg_ofNat he
    simp

/-- **A power of ten and one of two**, compared by a power of ten that is close to one of two. -/
theorem ten_zpow_le_two_zpow {g b : Int} {p q : Nat} (hq : q ≠ 0) (hexponent : g * q ≤ p * b)
    (hbase : 0 ≤ b ∧ 10 ^ p ≤ 2 ^ q ∨ b ≤ 0 ∧ 2 ^ q ≤ 10 ^ p) : (10 : ℚ) ^ g ≤ 2 ^ b := by
  have hbases : ((10 : ℚ) ^ p) ^ b ≤ (2 ^ q) ^ b := by
    obtain ⟨hb, hle⟩ | ⟨hb, hle⟩ := hbase
    · exact zpow_le_zpow_left₀ hb (by positivity) (by exact_mod_cast hle)
    · obtain ⟨n, rfl⟩ := Int.exists_eq_neg_ofNat hb
      rw [zpow_neg, zpow_neg]
      apply inv_anti₀ (by positivity)
      exact zpow_le_zpow_left₀ (Int.natCast_nonneg n) (by positivity) (by exact_mod_cast hle)
  have hpowers : ((10 : ℚ) ^ g) ^ q ≤ (2 ^ b) ^ q := by
    calc ((10 : ℚ) ^ g) ^ q = 10 ^ (g * q) := by rw [zpow_mul, zpow_natCast]
      _ ≤ 10 ^ (p * b) := zpow_le_zpow_right₀ (by norm_num) hexponent
      _ = (10 ^ p) ^ b := by rw [zpow_mul, zpow_natCast]
      _ ≤ (2 ^ q) ^ b := hbases
      _ = (2 ^ b) ^ q := by rw [← zpow_natCast, ← zpow_natCast, ← zpow_mul, ← zpow_mul, mul_comm]
  exact (pow_le_pow_iff_left₀ (by positivity) (by positivity) hq).mp hpowers

namespace Interval

variable {iv : Interval} {e : Int} {k : Nat}

/-- The lower end. -/
def low (iv : Interval) : ℚ := iv.below / iv.den

/-- The value itself. -/
def mid (iv : Interval) : ℚ := iv.value / iv.den

/-- The upper end. -/
def high (iv : Interval) : ℚ := iv.above / iv.den

/-- **The numbers of an interval.** -/
def Holds (iv : Interval) (d : ℚ) : Prop :=
  if iv.closed then iv.low ≤ d ∧ d ≤ iv.high else iv.low < d ∧ d < iv.high

/-- **An interval around a positive number**, over a power of two and within reach of the logarithms. -/
structure IsProper (iv : Interval) : Prop where
  below_lt : iv.below < iv.value
  lt_above : iv.value < iv.above
  log2_value_lt : iv.value.log2 < 20000
  log2_den_lt : iv.den.log2 < 20000
  den_eq : iv.den = 2 ^ iv.den.log2

theorem IsProper.den_pos (h : iv.IsProper) : 0 < iv.den := by
  rw [h.den_eq]
  positivity

/-! ## Grids -/

/-- **Numerators are compared with points of a grid** in whole numbers. -/
theorem div_le_iff_units (hden : 0 < iv.den) (n k : Nat) (e : Int) :
    (n / iv.den : ℚ) ≤ k * 10 ^ e ↔ (iv.inUnits n e).1 ≤ k * (iv.inUnits n e).2 := by
  have hden' : (0 : ℚ) < iv.den := by exact_mod_cast hden
  have hpow : (0 : ℚ) < 10 ^ (-e).toNat := by positivity
  rw [zpow_eq_div, ← mul_div_assoc, div_le_div_iff₀ hden' hpow]
  show _ ↔ n * 10 ^ (-e).toNat ≤ k * (iv.den * 10 ^ e.toNat)
  rw [mul_left_comm, mul_comm iv.den]
  norm_cast

theorem le_div_iff_units (hden : 0 < iv.den) (n k : Nat) (e : Int) :
    (k * 10 ^ e : ℚ) ≤ n / iv.den ↔ k * (iv.inUnits n e).2 ≤ (iv.inUnits n e).1 := by
  have hden' : (0 : ℚ) < iv.den := by exact_mod_cast hden
  have hpow : (0 : ℚ) < 10 ^ (-e).toNat := by positivity
  rw [zpow_eq_div, ← mul_div_assoc, div_le_div_iff₀ hpow hden']
  show _ ↔ k * (iv.den * 10 ^ e.toNat) ≤ n * 10 ^ (-e).toNat
  rw [mul_left_comm, mul_comm iv.den]
  norm_cast

/-- **A point of a grid is in the interval** if it is found to be. -/
theorem contains_iff (hden : 0 < iv.den) (k : Nat) (e : Int) :
    iv.contains k e = true ↔ iv.Holds (k * 10 ^ e) := by
  unfold contains Holds low high
  cases iv.closed with
  | true =>
    rw [if_pos rfl, div_le_iff_units hden, le_div_iff_units hden]
    exact (Bool.and_eq_true _ _).to_iff.trans (and_congr decide_eq_true_iff decide_eq_true_iff)
  | false =>
    rw [if_neg nofun, ← not_le, ← not_le, div_le_iff_units hden, le_div_iff_units hden, not_le, not_le]
    exact (Bool.and_eq_true _ _).to_iff.trans (and_congr decide_eq_true_iff decide_eq_true_iff)

theorem reaches_iff (hden : 0 < iv.den) (e : Int) : iv.reaches e = true ↔ 10 ^ e ≤ iv.mid := by
  have h := le_div_iff_units hden iv.value 1 e
  rw [Nat.cast_one, one_mul, one_mul] at h
  unfold mid
  rw [h]
  simp [reaches]

theorem units_pos (hden : 0 < iv.den) (n : Nat) (e : Int) : 0 < (iv.inUnits n e).2 :=
  Nat.mul_pos hden (Nat.pow_pos (by decide))

/-- The point of a grid that the value has reached. -/
def floorOn (iv : Interval) (e : Int) : Nat := (iv.inUnits iv.value e).1 / (iv.inUnits iv.value e).2

theorem floorOn_le_mid (hden : 0 < iv.den) (e : Int) : (iv.floorOn e * 10 ^ e : ℚ) ≤ iv.mid :=
  (le_div_iff_units hden iv.value _ e).mpr (Nat.div_mul_le_self _ _)

theorem mid_lt_floorOn_add_one (hden : 0 < iv.den) (e : Int) :
    iv.mid < (iv.floorOn e + 1 : Nat) * 10 ^ e := by
  rw [← not_le]
  intro h
  have hle := (le_div_iff_units hden iv.value _ e).mp h
  have hlt := (Nat.div_lt_iff_lt_mul (units_pos hden iv.value e)).mp (Nat.lt_succ_self (iv.floorOn e))
  exact absurd hle (Nat.not_le_of_lt hlt)

/-- On a grid there are two candidates. -/
theorem exists_onGrid_eq (iv : Interval) (tie : Tie) (e : Int) : ∃ up : Bool, iv.onGrid tie e =
    match decide (0 < iv.floorOn e) && iv.contains (iv.floorOn e) e, iv.contains (iv.floorOn e + 1) e with
    | false, false => none
    | true, false => some ⟨iv.floorOn e, e⟩
    | false, true => some ⟨iv.floorOn e + 1, e⟩
    | true, true => some ⟨if up then iv.floorOn e + 1 else iv.floorOn e, e⟩ := ⟨_, rfl⟩

/-- **What is found on a grid** is in the interval, and not zero. -/
theorem onGrid_spec (hden : 0 < iv.den) {tie : Tie} {d : Decimal} (h : iv.onGrid tie e = some d) :
    iv.Holds d.number ∧ 0 < d.digits := by
  rw [Decimal.number, ← contains_iff hden]
  obtain ⟨up, hgrid⟩ := exists_onGrid_eq iv tie e
  rw [hgrid] at h
  cases hfloor : decide (0 < iv.floorOn e) && iv.contains (iv.floorOn e) e with
  | false =>
    cases hnext : iv.contains (iv.floorOn e + 1) e with
    | false =>
      rw [hfloor, hnext] at h
      cases h
    | true =>
      rw [hfloor, hnext] at h
      cases h
      exact ⟨hnext, Nat.succ_pos _⟩
  | true =>
    obtain ⟨hpos, hin⟩ := (Bool.and_eq_true _ _).mp hfloor
    have hpos := of_decide_eq_true hpos
    cases hnext : iv.contains (iv.floorOn e + 1) e with
    | false =>
      rw [hfloor, hnext] at h
      cases h
      exact ⟨hin, hpos⟩
    | true =>
      rw [hfloor, hnext] at h
      cases h
      cases up with
      | false => exact ⟨hin, hpos⟩
      | true => exact ⟨hnext, Nat.succ_pos _⟩

/-- **Of two neighbours around the value** one is in an interval that is wider than they are apart. -/
theorem holds_or_holds {a b : ℚ} (hlow : a ≤ iv.mid) (hhigh : iv.mid < b) (hlt : iv.low < iv.mid)
    (hgt : iv.mid < iv.high) (hfine : b - a < iv.high - iv.low) : iv.Holds a ∨ iv.Holds b := by
  obtain ha | ha := lt_or_ge iv.low a
  · left
    unfold Holds
    split
    · exact ⟨ha.le, (hlow.trans_lt hgt).le⟩
    · exact ⟨ha, hlow.trans_lt hgt⟩
  · -- the lower neighbour is outside, so the upper one is below the upper end
    have hb : b < iv.high := by linarith
    right
    unfold Holds
    split
    · exact ⟨(hlt.trans hhigh).le, hb.le⟩
    · exact ⟨hlt.trans hhigh, hb⟩

theorem IsProper.low_lt_mid (h : iv.IsProper) : iv.low < iv.mid := by
  have hden : (0 : ℚ) < iv.den := by exact_mod_cast h.den_pos
  exact div_lt_div_of_pos_right (by exact_mod_cast h.below_lt) hden

theorem IsProper.mid_lt_high (h : iv.IsProper) : iv.mid < iv.high := by
  have hden : (0 : ℚ) < iv.den := by exact_mod_cast h.den_pos
  exact div_lt_div_of_pos_right (by exact_mod_cast h.lt_above) hden

/-- **A grid finer than the interval** has a point in it, if the value has reached the grid. -/
theorem isSome_onGrid (h : iv.IsProper) (tie : Tie) (hreached : 10 ^ e ≤ iv.mid)
    (hfine : 10 ^ e < iv.high - iv.low) : (iv.onGrid tie e).isSome = true := by
  have hfloor := floorOn_le_mid h.den_pos e
  have hnext := mid_lt_floorOn_add_one h.den_pos e
  have hpos : 0 < iv.floorOn e := by
    have hone := (le_div_iff_units h.den_pos iv.value 1 e).mp (by rw [Nat.cast_one, one_mul]; exact hreached)
    rw [one_mul] at hone
    exact Nat.div_pos hone (units_pos h.den_pos iv.value e)
  have hstep : ((iv.floorOn e + 1 : Nat) * 10 ^ e - iv.floorOn e * 10 ^ e : ℚ) < iv.high - iv.low := by
    push_cast
    linarith
  obtain ⟨up, hgrid⟩ := exists_onGrid_eq iv tie e
  rw [hgrid]
  obtain hin | hin := holds_or_holds hfloor hnext h.low_lt_mid h.mid_lt_high hstep
  · rw [← contains_iff h.den_pos] at hin
    rw [hin, decide_eq_true hpos, Bool.true_and]
    cases iv.contains (iv.floorOn e + 1) e <;> rfl
  · rw [← contains_iff h.den_pos] at hin
    rw [hin]
    cases decide (0 < iv.floorOn e) && iv.contains (iv.floorOn e) e <;> rfl

/-! ## The leading digit -/

/-- The value is at least two to the difference of the logarithms. -/
theorem two_zpow_le_mid (h : iv.IsProper) : (2 : ℚ) ^ ((iv.value.log2 : Int) - iv.den.log2) ≤ iv.mid := by
  have hvalue : 2 ^ iv.value.log2 ≤ iv.value := Nat.log2_self_le (Nat.ne_zero_of_lt h.below_lt)
  have hcast : (2 : ℚ) ^ iv.value.log2 ≤ iv.value := by exact_mod_cast hvalue
  have hden : (iv.den : ℚ) = 2 ^ iv.den.log2 := by exact_mod_cast h.den_eq
  rw [mid, hden, zpow_sub₀ two_ne_zero, zpow_natCast, zpow_natCast]
  exact div_le_div_of_nonneg_right hcast (by positivity)

/-- **The estimate of the leading digit** is at most one too large. -/
theorem ten_zpow_estimate_le {binary : Int} (hlow : -20000 < binary) (hhigh : binary < 20000) :
    (10 : ℚ) ^ (binary * 30103 / 100000 - 1) ≤ 2 ^ binary := by
  obtain hneg | hpos := lt_or_ge binary 0
  · exact ten_zpow_le_two_zpow (p := 28) (q := 93) (by decide) (by omega) (.inr ⟨hneg.le, by norm_num⟩)
  · exact ten_zpow_le_two_zpow (p := 59) (q := 196) (by decide) (by omega) (.inl ⟨hpos, by decide⟩)

/-- **The first grid** is one that the value has reached. -/
theorem ten_zpow_leading_le (h : iv.IsProper) : 10 ^ iv.leading ≤ iv.mid := by
  have hreaches := fun e => (reaches_iff h.den_pos e).mp
  have hvalue := h.log2_value_lt
  have hden := h.log2_den_lt
  have hten : (10 : ℚ) ^ (((iv.value.log2 : Int) - iv.den.log2) * 30103 / 100000 - 1) ≤
      2 ^ ((iv.value.log2 : Int) - iv.den.log2) := ten_zpow_estimate_le (by omega) (by omega)
  have hestimate := hten.trans (two_zpow_le_mid h)
  simp only [leading]
  split
  case isTrue hnext => exact hreaches _ hnext
  case isFalse =>
    split
    case isTrue hguess => exact hreaches _ hguess
    case isFalse => exact hestimate

/-! ## The search -/

/-- **The decimal that is found** is in the interval and not zero, if the interval is wider than the last of
    17 digits of the value. -/
theorem holds_shortest (h : iv.IsProper) (hwide : iv.mid < 10 ^ 16 * (iv.high - iv.low))
    (tie : Tie) : iv.Holds (shortest iv tie 17).number ∧ 0 < (shortest iv tie 17).digits := by
  have hleading := ten_zpow_leading_le h
  have hlast : (10 : ℚ) ^ iv.leading = 10 ^ 16 * 10 ^ (iv.leading - (16 : Nat)) := by
    rw [zpow_sub₀ (by norm_num)]
    norm_num
    field_simp
  have hpos : (0 : ℚ) < 10 ^ (iv.leading - (16 : Nat)) := by positivity
  have hfound : (iv.onGrid tie (iv.leading - (16 : Nat))).isSome = true := by
    apply isSome_onGrid h tie
    · linarith
    · linarith
  have hsome : ((List.range 17).findSome? fun (n : Nat) => iv.onGrid tie (iv.leading - (n : Nat))).isSome = true :=
    List.findSome?_isSome_iff.mpr ⟨16, by decide, hfound⟩
  obtain ⟨d, hd⟩ := Option.isSome_iff_exists.mp hsome
  obtain ⟨n, -, hn⟩ := List.exists_of_findSome?_eq_some hd
  rw [shortest, hd]
  exact onGrid_spec h.den_pos hn

end Interval

end FluentSql.Number
