/-!
# `FluentSql.Number.BigEndian` — whole numbers as bytes, the most significant first

A number of a fixed width in bytes. Signed numbers are in two's complement.

* `toNat_ofNat`, `toInt_ofInt` — what is written reads back.
-/

namespace FluentSql.Number.BigEndian

/-! ## Natural numbers -/

/-- **How many numbers** `width` bytes hold. -/
def capacity : Nat → Nat
  | 0 => 1
  | width + 1 => 256 * capacity width

theorem capacity_pos (width : Nat) : 0 < capacity width := by
  induction width with
  | zero => exact Nat.one_pos
  | succ width ih => exact Nat.mul_pos (by decide) ih

/-- **The bytes of a natural number**, reduced to `width` bytes. -/
def ofNat : Nat → Nat → List UInt8
  | 0, _ => []
  | width + 1, n => ofNat width (n / 256) ++ [UInt8.ofNat n]

/-- **The natural number of bytes.** -/
def toNat (bytes : List UInt8) : Nat :=
  bytes.foldl (fun n b => 256 * n + b.toNat) 0

@[simp] theorem length_ofNat (width n : Nat) : (ofNat width n).length = width := by
  induction width generalizing n with
  | zero => rfl
  | succ width ih => simp [ofNat, ih]

theorem toNat_append_singleton (bytes : List UInt8) (b : UInt8) :
    toNat (bytes ++ [b]) = 256 * toNat bytes + b.toNat := by
  simp [toNat]

/-- **What is written reads back**, reduced to the width. -/
theorem toNat_ofNat (width n : Nat) : toNat (ofNat width n) = n % capacity width := by
  induction width generalizing n with
  | zero => exact (Nat.mod_one n).symm
  | succ width ih =>
    have hb : (UInt8.ofNat n).toNat = n % 256 := UInt8.toNat_ofNat'
    rw [ofNat, toNat_append_singleton, ih, capacity, Nat.mod_mul, hb]
    omega

/-! ## Signed numbers -/

/-- **The bytes of a signed number**, in two's complement. -/
def ofInt (width : Nat) (n : Int) : List UInt8 :=
  ofNat width (n % capacity width).toNat

/-- **The signed number of bytes** in two's complement. -/
def toInt (bytes : List UInt8) : Int :=
  let n := toNat bytes
  if 2 * n < capacity bytes.length then n else n - capacity bytes.length

@[simp] theorem length_ofInt (width : Nat) (n : Int) : (ofInt width n).length = width :=
  length_ofNat width _

/-- **What is written reads back** if it fits the width. -/
theorem toInt_ofInt {width : Nat} {n : Int} (low : -(capacity width : Int) ≤ 2 * n)
    (high : 2 * n < capacity width) : toInt (ofInt width n) = n := by
  have hp := capacity_pos width
  simp only [toInt, ofInt, length_ofNat, toNat_ofNat]
  generalize capacity width = p at *
  have hm : (n % (p : Int)).toNat % p = (n % (p : Int)).toNat := by
    have := Int.emod_lt_of_pos n (b := (p : Int)) (by omega)
    exact Nat.mod_eq_of_lt (by omega)
  rw [hm]
  by_cases hn : 0 ≤ n
  · have hr : n % (p : Int) = n := Int.emod_eq_of_lt hn (by omega)
    rw [hr]
    split <;> omega
  · have hr : n % (p : Int) = n + p := by
      rw [← Int.add_emod_right]
      exact Int.emod_eq_of_lt (by omega) (by omega)
    rw [hr]
    split <;> omega

end FluentSql.Number.BigEndian
