import FluentSql.Proofs.SpelledNumbers
import FluentSql.Row
/-!
# `FluentSql.Proofs.StoredValues` — what is read of a stored value

A datum is stored as a `Value` by the encoder of its type and read by the decoder of its type, which were
written apart. What is stored reads back, with one exception: an unsigned number beyond the signed ones of
64 bits is stored as the text of its digits, and the decoder of unsigned numbers reads texts as signed
numbers only.

* `fromValue_toValue_option` — an optional datum reads back as the datum does, for any type;
* `fromValue_uint64` — which unsigned numbers read back;
* `ColumnKind.stored_readsBack` — every type of column.
-/

namespace FluentSql

open FluentSql.Number FluentSql.Text

/-! ## Missing data -/

/-- **What may be missing** reads back as what is there does, for any type that never stores null. -/
theorem fromValue_toValue_option {α : Type} [ToValue α] [FromValue α]
    (hnull : ∀ x : α, toValue x ≠ .null) (y : Option α) :
    (fromValue (toValue y) : Except DecodeFault (Option α)) =
      y.elim (.ok none) fun x => (fromValue (toValue x)).map some := by
  cases y with
  | none => rfl
  | some x =>
    show (fromValue (toValue x) : Except DecodeFault (Option α)) = (fromValue (toValue x)).map some
    cases hv : toValue x with
    | null => exact absurd hv (hnull x)
    | _ => rfl

/-! ## Whole numbers -/

/-- A signed number of a range reads back. -/
theorem rangedOfValue_int {range : WholeRange} {n : Int64} (h : range.contains n.toInt = true) :
    rangedOfValue range (.int n) = .ok n.toInt := by
  simp only [rangedOfValue, wholeOfValue, Value.asInteger, bind, Except.bind,
    WholeRange.narrow_of_contains h]

theorem fromValue_int32 (n : Int32) : (fromValue (toValue n) : Except DecodeFault Int32) = .ok n := by
  have hlow := n.le_toInt
  have hhigh := n.toInt_lt
  have hrange : WholeRange.signed32.contains n.toInt64.toInt = true := by
    rw [n.toInt_toInt64, WholeRange.contains_iff]
    simp only [WholeRange.signed32]
    omega
  show (rangedOfValue .signed32 (.int n.toInt64)).map Int32.ofInt = .ok n
  rw [rangedOfValue_int hrange, n.toInt_toInt64]
  exact congrArg Except.ok n.ofInt_toInt

/-- **Whether a number of 64 bits without a sign is one with a sign.** -/
def fitsSigned (n : UInt64) : Bool := n ≤ 9223372036854775807

theorem fitsSigned_iff {n : UInt64} : fitsSigned n = true ↔ n.toNat ≤ 9223372036854775807 := by
  unfold fitsSigned
  rw [decide_eq_true_iff, UInt64.le_iff_toNat_le]
  rfl

theorem ofUnsigned_of_fitsSigned {n : UInt64} (h : fitsSigned n = true) :
    Value.ofUnsigned n = .int (Int64.ofNat n.toNat) ∧ (Int64.ofNat n.toNat).toInt = n.toNat := by
  rw [fitsSigned_iff] at h
  have hrange : WholeRange.signed64.contains n.toNat = true := by
    rw [WholeRange.contains_iff]
    simp only [WholeRange.signed64]
    omega
  refine ⟨if_pos hrange, ?_⟩
  exact Int64.toInt_ofNat_of_lt (by omega)

theorem ofUnsigned_of_not_fitsSigned {n : UInt64} (h : fitsSigned n = false) :
    Value.ofUnsigned n = .text (toString n.toNat) := by
  refine if_neg fun hrange => ?_
  rw [WholeRange.contains_iff] at hrange
  simp only [WholeRange.signed64] at hrange
  rw [fitsSigned_iff.mpr (by omega)] at h
  cases h

/-- The digits of a number beyond the signed ones are no signed number. -/
theorem asInteger_digits {n : UInt64} (h : fitsSigned n = false) :
    Value.asInteger (.text (toString n.toNat)) = none := by
  cases hread : Value.asInteger (.text (toString n.toNat)) with
  | none => rfl
  | some m =>
    -- a number read here would be signed and be spelled by these digits, so it would be this one
    have hdigits : toString n.toNat = toString (n.toNat : Int) := rfl
    have hspelled := Value.asInteger_text_eq_some_iff.mp hread
    rw [hdigits, trimChars_toString, spelled?_toString, Option.some.injEq] at hspelled
    have hlt := m.toInt_lt
    rw [fitsSigned_iff.mpr (by omega)] at h
    cases h

/-- **An unsigned number reads back** if it is a signed one, and not at all otherwise. -/
theorem fromValue_uint64 (n : UInt64) :
    (fromValue (toValue n) : Except DecodeFault UInt64) =
      if fitsSigned n then .ok n else .error (.mismatch "integer" (toValue n)) := by
  show (rangedOfValue .unsigned64 (Value.ofUnsigned n)).map UInt64.ofInt = _
  cases h : fitsSigned n with
  | true =>
    -- stored as a signed number, and the range of the decoder has no negative ones to confuse it with
    obtain ⟨hvalue, hint⟩ := ofUnsigned_of_fitsSigned h
    have hlt : n.toNat < 2 ^ 64 := n.toNat_lt
    have hrange : WholeRange.unsigned64.contains (Int64.ofNat n.toNat).toInt = true := by
      rw [hint, WholeRange.contains_iff]
      simp only [WholeRange.unsigned64]
      omega
    have hback : UInt64.ofInt n.toNat = n := by
      rw [UInt64.ofInt, Int.emod_eq_of_lt (by omega) (by omega)]
      exact UInt64.ofNat_toNat
    rw [hvalue, rangedOfValue_int hrange, hint]
    exact congrArg Except.ok hback
  | false =>
    have hvalue := ofUnsigned_of_not_fitsSigned h
    show _ = Except.error (DecodeFault.mismatch "integer" (Value.ofUnsigned n))
    rw [hvalue, rangedOfValue, wholeOfValue, asInteger_digits h]
    rfl

/-! ## Columns -/

/-- **The kinds of columns** that are never null. -/
inductive ColumnKind where
  | bool
  | int32
  | int64
  | uint64
  | string
  | bytes
  deriving DecidableEq, Repr

namespace ColumnKind

/-- The type of the data in a column. -/
def Datum : ColumnKind → Type
  | bool => Bool
  | int32 => Int32
  | int64 => Int64
  | uint64 => UInt64
  | string => String
  | bytes => List UInt8

instance : (kind : ColumnKind) → ToValue kind.Datum
  | bool => inferInstanceAs (ToValue Bool)
  | int32 => inferInstanceAs (ToValue Int32)
  | int64 => inferInstanceAs (ToValue Int64)
  | uint64 => inferInstanceAs (ToValue UInt64)
  | string => inferInstanceAs (ToValue String)
  | bytes => inferInstanceAs (ToValue (List UInt8))

instance : (kind : ColumnKind) → FromValue kind.Datum
  | bool => inferInstanceAs (FromValue Bool)
  | int32 => inferInstanceAs (FromValue Int32)
  | int64 => inferInstanceAs (FromValue Int64)
  | uint64 => inferInstanceAs (FromValue UInt64)
  | string => inferInstanceAs (FromValue String)
  | bytes => inferInstanceAs (FromValue (List UInt8))

/-- **Whether a datum reads back**: all do but unsigned numbers beyond the signed ones. -/
def readsBack : (kind : ColumnKind) → kind.Datum → Bool
  | uint64, n => fitsSigned n
  | _, _ => true

/-- No datum is stored as null. -/
theorem toValue_ne_null (kind : ColumnKind) (x : kind.Datum) : toValue x ≠ .null := by
  intro h
  cases kind with
  | uint64 =>
    cases hfits : fitsSigned x with
    | true => cases (ofUnsigned_of_fitsSigned hfits).1.symm.trans h
    | false => cases (ofUnsigned_of_not_fitsSigned hfits).symm.trans h
  | _ => cases h

/-- The stored datum of each kind of column. -/
theorem fromValue_toValue (kind : ColumnKind) (x : kind.Datum) :
    (fromValue (toValue x) : Except DecodeFault kind.Datum) =
      if kind.readsBack x then .ok x else .error (.mismatch "integer" (toValue x)) := by
  cases kind with
  | bool => rfl
  | int32 => exact fromValue_int32 x
  | int64 => rfl
  | uint64 => exact fromValue_uint64 x
  | string => rfl
  | bytes => rfl

/-- **Stored data reads back.** A datum of any kind of column, there or missing, is stored as a value that
    is read as this datum; only an unsigned number beyond the signed ones of 64 bits is stored as the text
    of its digits, which is then no number to the reader. -/
theorem stored_readsBack (kind : ColumnKind) (x : kind.Datum) (y : Option kind.Datum) :
    (fromValue (toValue x) : Except DecodeFault kind.Datum) =
        (if kind.readsBack x then .ok x else .error (.mismatch "integer" (toValue x))) ∧
      (fromValue (toValue y) : Except DecodeFault (Option kind.Datum)) =
        if y.all kind.readsBack then .ok y else .error (.mismatch "integer" (toValue y)) := by
  refine ⟨kind.fromValue_toValue x, ?_⟩
  rw [fromValue_toValue_option kind.toValue_ne_null]
  cases y with
  | none => rfl
  | some x =>
    show (fromValue (toValue x)).map some = _
    rw [kind.fromValue_toValue]
    show _ = if kind.readsBack x then _ else Except.error (DecodeFault.mismatch "integer" (toValue x))
    cases kind.readsBack x <;> rfl

/-- The greatest unsigned number is stored as its digits and not read back. -/
theorem greatestUnsigned_unread :
    toValue (18446744073709551615 : UInt64) = .text "18446744073709551615" ∧
      (fromValue (toValue (18446744073709551615 : UInt64)) : Except DecodeFault UInt64) =
        .error (.mismatch "integer" (.text "18446744073709551615")) ∧
      (fromValue (toValue (18446744073709551615 : UInt64)) : Except DecodeFault UInt64) ≠
        .ok 18446744073709551615 := by
  have hvalue : toValue (18446744073709551615 : UInt64) = .text "18446744073709551615" := by decide
  have hread := fromValue_uint64 18446744073709551615
  rw [if_neg (by decide), hvalue] at hread
  rw [hvalue]
  refine ⟨rfl, hread, ?_⟩
  rw [hread]
  intro h
  cases h

end ColumnKind

end FluentSql
