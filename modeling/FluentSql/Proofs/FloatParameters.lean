import FluentSql.Proofs.FloatTexts
import FluentSql.Proofs.IntegerParameters
/-!
# `FluentSql.Proofs.FloatParameters` — floats and truth values as parameters

Where the server wants text, a float is sent as its text, which spells the float. A type of whole numbers
gets the eight bytes of the float whatever its width, and a truth value is one byte whatever the type. So of
the floats sent as whole numbers only positive zero arrives as itself, and only at eight bytes, and of the
truth values none does.

* `IsFaithful` — a parameter that is refused or arrives as itself;
* `number?_eq_toInt_iff` — the bits of a double, read as a whole number;
* `arrives_float_text`, `arrives_float_whole`, `not_arrives_bool` — which bytes hold the value;
* `floats_and_truth_values_sent` — what is sent, and what of it arrives as itself.
-/

namespace FluentSql

open FluentSql.Number FluentSql.Text

namespace Postgres

/-! ## Arriving as itself -/

/-- **The types of whole numbers and of texts.** -/
inductive PlainType where
  | whole (t : WholeType)
  | text
  | varchar
  deriving DecidableEq, Repr

/-- The type of the server. -/
def PlainType.type : PlainType → ColumnType
  | whole t => t.type
  | text => .text
  | varchar => .varchar

/-- **The number that a value is**; a truth value is one or zero. -/
def number? : Value → Option ℚ
  | .bool b => some (if b then 1 else 0)
  | .int n => some n.toInt
  | .float x => x.number?
  | _ => none

/-- **The texts of a value**: those that are read as it. -/
def IsTextOf (s : String) : Value → Prop
  | .bool b => fromValue (.text s) = .ok b
  | .int n => spelled? s.toList = some n.toInt
  | .float x => Spells s x
  | .text t => s = t
  | _ => False

/-- **Bytes that hold a value** as a type does: a number in the width of the type, or a text. -/
def Arrives (type : PlainType) (v : Value) (bytes : List UInt8) : Prop :=
  match type with
  | .whole t => bytes.length = t.width ∧ number? v = some (BigEndian.toInt bytes : ℚ)
  | _ => ∃ s, decodeCell? type.type bytes = some (.text s) ∧ IsTextOf s v

/-- **Refused, or sent as itself**, behind whatever is in the buffer. -/
def IsFaithful (type : PlainType) (v : Value) : Prop :=
  ∀ out, (∃ fault, ((write v type.type).outcome out).1 = .error fault) ∨
    ∃ bytes, (write v type.type).outcome out = (.ok .present, out ++ bytes) ∧ Arrives type v bytes

variable {type : PlainType} {v : Value} {bytes : List UInt8} {x : Double} {b : Bool}

/-- A value that is encoded as bytes is faithful if these bytes hold it. -/
theorem isFaithful_iff (h : encode v type.type = .ok (some bytes)) :
    IsFaithful type v ↔ Arrives type v bytes := by
  have houtcome : ∀ out, (write v type.type).outcome out = (.ok .present, out ++ bytes) := by
    intro out
    rw [outcome_write, h]
    rfl
  constructor
  · intro hfaithful
    obtain ⟨fault, hfault⟩ | ⟨sent, hsent, harrives⟩ := hfaithful []
    · rw [houtcome] at hfault
      cases hfault
    · rw [houtcome] at hsent
      obtain rfl : bytes = sent := congrArg Prod.snd hsent
      exact harrives
  · intro harrives out
    exact .inr ⟨bytes, houtcome out, harrives⟩

end Postgres

/-! ## Bits read as a whole number -/

namespace Number

variable {i : Nat}

/-- **Only the first place is its own number.** Numbers double from exponent to exponent and places do not,
    and where numbers overtake places no mantissa meets its place. -/
theorem valueAt_eq_place_iff (hi : i < 0x8000000000000000) : valueAt i = i ↔ i = 0 := by
  obtain ⟨hparts, hleast, hbelow, hnormal⟩ := place_parts i
  constructor
  · intro h
    have hexponent : exponentAt i < 0 ∨ 0 ≤ exponentAt i ∧ exponentAt i ≤ 9 ∨ exponentAt i = 10 ∨
        11 ≤ exponentAt i := by omega
    obtain he | ⟨hlow, hhigh⟩ | he | he := hexponent
    · -- a gap below one makes less of a mantissa, which is no more than its place
      have hle : (mantissaAt i : ℚ) ≤ i := by exact_mod_cast (by omega : mantissaAt i ≤ i)
      have hgap : gapAt i < 1 := zpow_lt_one_of_neg₀ one_lt_two he
      rw [valueAt] at h
      apply Classical.byContradiction
      intro hne
      have hpos : (0 : ℚ) < i := by exact_mod_cast Nat.pos_of_ne_zero hne
      have hless := mul_lt_mul_of_pos_left hgap hpos
      have hmore := mul_le_mul_of_nonneg_right hle (gapAt_pos i).le
      linarith
    · have hnat : i ≤ mantissaAt i * 2 ^ 9 := by exact_mod_cast h ▸ valueAt_le hhigh
      omega
    · have hle : i ≤ mantissaAt i * 2 ^ 10 := by exact_mod_cast h ▸ valueAt_le he.le
      have hge : mantissaAt i * 2 ^ 10 ≤ i := by exact_mod_cast h ▸ le_valueAt he.ge
      omega
    · have hge : mantissaAt i * 2 ^ 11 ≤ i := by exact_mod_cast h ▸ le_valueAt he
      omega
  · rintro rfl
    rw [valueAt_zero, Nat.cast_zero]

/-- **No place has the number that it lacks to the sign bit.** -/
theorem valueAt_ne_rest (hi : i < finitePlaces) : valueAt i ≠ (0x8000000000000000 - i : Nat) := by
  obtain ⟨hparts, -, hbelow, hnormal⟩ := place_parts i
  unfold finitePlaces at hi
  intro h
  have hexponent : exponentAt i ≤ 8 ∨ exponentAt i = 9 ∨ 10 ≤ exponentAt i := by omega
  obtain he | he | he := hexponent
  · have hle : 0x8000000000000000 - i ≤ mantissaAt i * 2 ^ 8 := by exact_mod_cast h ▸ valueAt_le he
    omega
  · have hle : 0x8000000000000000 - i ≤ mantissaAt i * 2 ^ 9 := by exact_mod_cast h ▸ valueAt_le he.le
    have hge : mantissaAt i * 2 ^ 9 ≤ 0x8000000000000000 - i := by exact_mod_cast h ▸ le_valueAt he.ge
    omega
  · have hge : mantissaAt i * 2 ^ 10 ≤ 0x8000000000000000 - i := by exact_mod_cast h ▸ le_valueAt he
    omega

/-- The eight bytes of a double, read as a signed number. -/
theorem toInt_bits (x : Double) : BigEndian.toInt (BigEndian.ofNat 8 x.bits.toNat) =
    if x.isNegative then -((0x8000000000000000 - x.place : Nat) : Int) else x.place := by
  have hlt := x.bits.toNat_lt
  have hplace := place_eq x
  have hcapacity : BigEndian.capacity 8 = 0x10000000000000000 := by decide
  rw [BigEndian.toInt, BigEndian.length_ofNat, BigEndian.toNat_ofNat, hcapacity, Nat.mod_eq_of_lt hlt]
  by_cases hneg : x.isNegative = true
  · have hsign := (isNegative_iff x).mp hneg
    rw [if_pos hneg, if_neg (by omega)]
    omega
  · have hsign := mt (isNegative_iff x).mpr hneg
    rw [if_neg hneg, if_pos (by omega)]
    omega

/-- **Positive zero alone is the number that its bits are**, read as a signed number. -/
theorem number?_eq_toInt_iff (x : Double) :
    x.number? = some (BigEndian.toInt (BigEndian.ofNat 8 x.bits.toNat) : ℚ) ↔ x = .zero := by
  rw [toInt_bits]
  constructor
  · intro h
    rw [Double.number?] at h
    split at h
    · cases h
    · rename_i hkind
      rw [Bool.or_eq_true, not_or, isNaN_iff, isInfinite_iff] at hkind
      obtain ⟨hbehind, hfirst⟩ := hkind
      have hfinite : x.place < finitePlaces := by omega
      cases hneg : x.isNegative with
      | true =>
        rw [if_pos hneg, if_pos hneg, Option.some.injEq, Int.cast_neg, neg_inj, Int.cast_natCast] at h
        exact absurd h (valueAt_ne_rest hfinite)
      | false =>
        rw [if_neg (by simp [hneg]), if_neg (by simp [hneg]), Option.some.injEq, Int.cast_natCast] at h
        have hplace := (valueAt_eq_place_iff (by unfold finitePlaces at hfinite; omega)).mp h
        exact eq_of_place hplace hneg
  · rintro rfl
    have hzero : Double.zero.place = 0 := rfl
    have hsign : Double.zero.isNegative = false := rfl
    have hkind : (Double.zero.isNaN || Double.zero.isInfinite) = false := rfl
    rw [Double.number?, hkind, hsign, hzero, valueAt_zero]
    rfl

end Number

namespace Postgres

variable {type : PlainType} {x : Double} {b : Bool}

/-! ## Floats and truth values -/

/-- The types that hold text. -/
def PlainType.isText (type : PlainType) : Bool := type.type.isText

/-- The bytes of a float: those of its text where text is wanted, else its own. -/
def floatBytes (type : PlainType) (x : Double) : List UInt8 :=
  if type.isText then textBytes (plain x) else doubleBytes x

theorem encode_float (type : PlainType) (x : Double) :
    encode (.float x) type.type = .ok (some (floatBytes type x)) := by
  cases type with
  | whole t => cases t <;> rfl
  | text => rfl
  | varchar => rfl

/-- **A float sent as a whole number** arrives as itself at eight bytes if it is positive zero. -/
theorem arrives_float_whole (t : WholeType) (x : Double) :
    Arrives (.whole t) (.float x) (doubleBytes x) ↔ t = .int8 ∧ x = .zero := by
  have hwidth : (doubleBytes x).length = t.width ↔ t = .int8 := by
    rw [doubleBytes, BigEndian.length_ofNat]
    cases t <;> decide
  exact and_congr hwidth (number?_eq_toInt_iff x)

/-- **A float sent as text** arrives as itself. -/
theorem arrives_float_text (h : type.isText = true) (x : Double) :
    Arrives type (.float x) (textBytes (plain x)) := by
  have hdecode : Utf8.decode (textBytes (plain x)) = .ok (plain x) :=
    decode_textBytes (isWritten_plain x).toNat_lt
  have hcell : decodeCell? type.type (textBytes (plain x)) = some (.text (plain x)) := by
    rw [decodeCell?_of_isText h, hdecode]
    rfl
  cases type with
  | whole t => cases t <;> cases h
  | text => exact ⟨plain x, hcell, spells_plain x⟩
  | varchar => exact ⟨plain x, hcell, spells_plain x⟩

/-- **A truth value does not arrive as itself**: one byte is too short for a number and no word. -/
theorem not_arrives_bool (type : PlainType) (b : Bool) : ¬ Arrives type (.bool b) (boolBytes b) := by
  have hcell {type : ColumnType} (htype : type.isText = true) :
      ¬ ∃ s, decodeCell? type (boolBytes b) = some (.text s) ∧ fromValue (.text s) = (.ok b : Except _ Bool) := by
    rw [decodeCell?_of_isText htype]
    rintro ⟨s, hs, hread⟩
    cases b with
    | false =>
      obtain rfl : "\x00" = s := Value.text.inj (Option.some.inj hs)
      cases hread
    | true =>
      obtain rfl : "\x01" = s := Value.text.inj (Option.some.inj hs)
      cases hread
  cases type with
  | whole t =>
    rintro ⟨hwidth, -⟩
    cases t <;> cases hwidth
  | text => exact hcell rfl
  | varchar => exact hcell rfl

/-! ## What is sent -/

/-- **Floats and truth values are never refused.** As text a float is sent as a text that spells it. As a
    whole number it is sent as its own eight bytes, and a truth value is sent as one byte whatever the type;
    among these only positive zero arrives as itself, at eight bytes. -/
theorem floats_and_truth_values_sent (type : PlainType) (x : Double) (b : Bool) :
    (∀ out, (write (.float x) type.type).outcome out = (.ok .present, out ++ floatBytes type x)) ∧
      (∀ out, (write (.bool b) type.type).outcome out = (.ok .present, out ++ boolBytes b)) ∧
      (IsFaithful type (.float x) ↔ type.isText = true ∨ type = .whole .int8 ∧ x = .zero) ∧
      ¬ IsFaithful type (.bool b) := by
  have hfloat := encode_float type x
  have hbool : encode (.bool b) type.type = .ok (some (boolBytes b)) := rfl
  refine ⟨?_, ?_, ?_, ?_⟩
  · intro out
    rw [outcome_write, hfloat]
    rfl
  · intro out
    rw [outcome_write, hbool]
    rfl
  · rw [isFaithful_iff hfloat, floatBytes]
    split
    case isTrue htext => exact iff_of_true (arrives_float_text htext x) (.inl htext)
    case isFalse htext =>
      rw [or_iff_right htext]
      cases type with
      | whole t =>
        rw [arrives_float_whole, PlainType.whole.injEq]
      | text => exact absurd rfl htext
      | varchar => exact absurd rfl htext
  · rw [isFaithful_iff hbool]
    exact not_arrives_bool type b

/-- One. -/
def one : Double := ⟨0x3FF0000000000000⟩

/-- **One becomes another number** where the server wants a whole number of eight bytes. -/
theorem one_sent_as_bits :
    one.number? = some 1 ∧ ¬ IsFaithful (.whole .int8) (.float one) ∧
      (write (.float one) .int8).outcome [] = (.ok .present, [0x3F, 0xF0, 0, 0, 0, 0, 0, 0]) ∧
      decodeCell? .int8 [0x3F, 0xF0, 0, 0, 0, 0, 0, 0] = some (.int 4607182418800017408) := by
  refine ⟨?_, ?_, by rfl, by rfl⟩
  · have hkind : (one.isNaN || one.isInfinite) = false := rfl
    have hsign : one.isNegative = false := rfl
    have hplace : one.place = 1023 * 0x10000000000000 := rfl
    have hmantissa : mantissaAt (1023 * 0x10000000000000) = 2 ^ 52 := by decide
    have hexponent : exponentAt (1023 * 0x10000000000000) = -52 := by decide
    rw [Double.number?, hkind, hsign, hplace, valueAt, gapAt, hmantissa, hexponent]
    norm_num
  · have hwhole := arrives_float_whole .int8 one
    rw [isFaithful_iff (encode_float (.whole .int8) one)]
    intro harrives
    obtain ⟨-, hzero⟩ := hwhole.mp harrives
    cases hzero

end Postgres

end FluentSql
