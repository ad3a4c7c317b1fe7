import FluentSql.Postgres.Decode
import FluentSql.Proofs.SpelledNumbers
import FluentSql.Proofs.WrittenParameters
/-!
# `FluentSql.Proofs.IntegerParameters` — whole numbers as parameters

A parameter of a type of whole numbers is sent as exactly the number that the value stands for, or not at
all: a number is its own, a text has the number that it spells between blanks. A number beyond the type is
refused and never wrapped. Where the server wants text, a number is sent as its decimal digits.

* `SendsNumber` — what is written for a value that stands for a number or for none;
* `SendsDigits` — what is written for a number where text is wanted;
* `integers_exact_or_refused` — both, for every number and every text.
-/

namespace FluentSql.Postgres

open FluentSql.Number FluentSql.Text

/-! ## Types of whole numbers -/

/-- **The types of whole numbers.** -/
inductive WholeType where
  | int2
  | int4
  | int8
  deriving DecidableEq, Repr

namespace WholeType

/-- The type of the server. -/
def type : WholeType → ColumnType
  | int2 => .int2
  | int4 => .int4
  | int8 => .int8

/-- The width in bytes. -/
def width : WholeType → Nat
  | int2 => 2
  | int4 => 4
  | int8 => 8

/-- The numbers of the type. -/
def range : WholeType → WholeRange
  | int2 => .signed16
  | int4 => .signed32
  | int8 => .signed64

variable {t : WholeType} {n : Int}

/-- The numbers of the type are those that its bytes hold in two's complement. -/
theorem range_eq_capacity (t : WholeType) :
    2 * t.range.low = -(BigEndian.capacity t.width : Int) ∧
      2 * t.range.high + 2 = BigEndian.capacity t.width := by
  cases t <;> decide

/-- All types of whole numbers are within 64 bits. -/
theorem contains_signed64 (h : t.range.contains n = true) : WholeRange.signed64.contains n = true := by
  have hwithin : WholeRange.signed64.low ≤ t.range.low ∧ t.range.high ≤ WholeRange.signed64.high := by
    cases t <;> decide
  rw [WholeRange.contains_iff] at h ⊢
  omega

/-- **The bytes of a number of the type** hold the number. -/
theorem toInt_ofInt_of_contains (h : t.range.contains n = true) :
    BigEndian.toInt (BigEndian.ofInt t.width n) = n := by
  obtain ⟨hlow, hhigh⟩ := range_eq_capacity t
  rw [WholeRange.contains_iff] at h
  apply BigEndian.toInt_ofInt
  · omega
  · omega

/-- A cell of the type is read as a number of as many bytes. -/
theorem decodeCell?_type (t : WholeType) (bytes : List UInt8) :
    decodeCell? t.type bytes = (readSigned? t.width bytes).map fun n => .int (Int64.ofInt n) := by
  cases t <;> rfl

/-- What is written for a number of the type reads back as the number. -/
theorem decodeCell?_ofInt (h : t.range.contains n = true) :
    decodeCell? t.type (BigEndian.ofInt t.width n) = some (.int (Int64.ofInt n)) := by
  rw [decodeCell?_type, readSigned?, exactly, if_pos (BigEndian.length_ofInt t.width n),
    toInt_ofInt_of_contains h]
  rfl

/-! ## Encoding -/

/-- **A number is narrowed to the type** and has the bytes of the type. -/
theorem encodeWhole_type (t : WholeType) (i : Int64) :
    encodeWhole i t.type = narrowBytes t.range t.width i.toInt := by
  cases t with
  | int2 => rfl
  | int4 => rfl
  | int8 =>
    show Except.ok _ = _
    rw [narrowBytes, range, WholeRange.narrow_of_contains (WholeRange.signed64_contains i)]
    rfl

theorem encode_text_type (t : WholeType) (s : String) :
    encode (.text s) t.type = (encodeDigits s t.type).map some := by
  cases t <;> rfl

theorem encode_int_of_contains {i : Int64} (h : t.range.contains i.toInt = true) :
    encode (.int i) t.type = .ok (some (BigEndian.ofInt t.width i.toInt)) := by
  rw [encode, encodeWhole_type, narrowBytes, WholeRange.narrow_of_contains h]
  rfl

theorem encode_int_of_not_contains {i : Int64} (h : t.range.contains i.toInt = false) :
    ∃ fault, encode (.int i) t.type = .error fault := by
  obtain ⟨fault, hfault⟩ := WholeRange.exists_narrow_eq_error h
  refine ⟨.whole fault, ?_⟩
  rw [encode, encodeWhole_type, narrowBytes, hfault]
  rfl

/-- **A text that spells a number** of 64 bits is encoded as that number. -/
theorem encode_text_of_spelled {s : String} (hspelled : spelled? (trimChars s.toList) = some n)
    (h : WholeRange.signed64.contains n = true) :
    encode (.text s) t.type = encode (.int (Int64.ofInt n)) t.type := by
  rw [encode_text_type, encodeDigits, parseWhole_signed64_eq_ok_iff.mpr ⟨hspelled, h⟩]
  rfl

/-- Any other text is a fault. -/
theorem encode_text_of_not_spelled {s : String}
    (h : ∀ n, spelled? (trimChars s.toList) = some n → WholeRange.signed64.contains n = false) :
    ∃ fault, encode (.text s) t.type = .error fault := by
  rw [encode_text_type, encodeDigits]
  cases hread : parseWhole .signed64 (trimChars s.toList) with
  | ok n =>
    obtain ⟨hspelled, hrange⟩ := parseWhole_signed64_eq_ok_iff.mp hread
    rw [h n hspelled] at hrange
    cases hrange
  | error fault => exact ⟨.whole fault, rfl⟩

end WholeType

/-! ## Sending numbers -/

/-- **Exact or refused.** A value that stands for the number, if there is one, is written as a parameter
    of the type behind whatever is in the buffer. -/
structure SendsNumber (t : WholeType) (v : Value) (number : Option Int) : Prop where
  /-- It is written exactly if there is a number and the type has it. -/
  written_iff : ∀ out, (∃ presence, ((write v t.type).outcome out).1 = .ok presence) ↔
    ∃ n, number = some n ∧ t.range.contains n = true
  /-- Then as many bytes are written as the type has, and they hold the number. -/
  holds : ∀ out n, number = some n → t.range.contains n = true →
    ∃ bytes, (write v t.type).outcome out = (.ok .present, out ++ bytes) ∧ bytes.length = t.width ∧
      BigEndian.toInt bytes = n ∧ decodeCell? t.type bytes = some (.int (Int64.ofInt n))
  /-- Else nothing is written. -/
  refused : ∀ out fault, ((write v t.type).outcome out).1 = .error fault →
    ((write v t.type).outcome out).2 = out

/-- What is sent follows from the encoding of the numbers that the type has and of all other values. -/
theorem SendsNumber.of_encode {t : WholeType} {v : Value} {number : Option Int}
    (hexact : ∀ n, number = some n → t.range.contains n = true →
      encode v t.type = .ok (some (BigEndian.ofInt t.width n)))
    (hrefused : (∀ n, number = some n → t.range.contains n = false) →
      ∃ fault, encode v t.type = .error fault) : SendsNumber t v number := by
  constructor
  case written_iff =>
    intro out
    rw [outcome_write]
    constructor
    · rintro ⟨presence, hpresence⟩
      -- without a number of the type the encoding would be a fault
      apply Classical.byContradiction
      intro hnone
      have hbeyond : ∀ n, number = some n → t.range.contains n = false := by
        intro n hn
        rw [← Bool.not_eq_true]
        intro hrange
        exact hnone ⟨n, hn, hrange⟩
      obtain ⟨fault, hfault⟩ := hrefused hbeyond
      rw [hfault] at hpresence
      cases hpresence
    · rintro ⟨n, hn, hrange⟩
      rw [hexact n hn hrange]
      exact ⟨.present, rfl⟩
  case holds =>
    intro out n hn hrange
    refine ⟨BigEndian.ofInt t.width n, ?_, BigEndian.length_ofInt t.width n,
      WholeType.toInt_ofInt_of_contains hrange, WholeType.decodeCell?_ofInt hrange⟩
    rw [outcome_write, hexact n hn hrange]
    rfl
  case refused =>
    intro out fault h
    rw [outcome_write] at h ⊢
    cases hencode : encode v t.type with
    | error fault => rfl
    | ok bytes =>
      rw [hencode] at h
      cases bytes <;> cases h

theorem sendsNumber_int (t : WholeType) (i : Int64) : SendsNumber t (.int i) (some i.toInt) := by
  apply SendsNumber.of_encode
  · intro n hn hrange
    cases hn
    exact WholeType.encode_int_of_contains hrange
  · intro hnone
    exact WholeType.encode_int_of_not_contains (hnone i.toInt rfl)

theorem sendsNumber_text (t : WholeType) (s : String) :
    SendsNumber t (.text s) (spelled? (trimChars s.toList)) := by
  apply SendsNumber.of_encode
  · intro n hn hrange
    -- the text is read as a number of 64 bits first, which is then narrowed to the type
    have hwide := WholeType.contains_signed64 hrange
    have hback := WholeRange.toInt_ofInt hwide
    rw [WholeType.encode_text_of_spelled hn hwide, WholeType.encode_int_of_contains (by rwa [hback]), hback]
  · intro hnone
    -- the spelled number may be one of 64 bits that the type does not have, or beyond these too
    by_cases hwide : ∃ n, spelled? (trimChars s.toList) = some n ∧ WholeRange.signed64.contains n = true
    · obtain ⟨n, hn, hrange⟩ := hwide
      rw [WholeType.encode_text_of_spelled hn hrange]
      apply WholeType.encode_int_of_not_contains
      rw [WholeRange.toInt_ofInt hrange]
      exact hnone n hn
    · apply WholeType.encode_text_of_not_spelled
      intro n hn
      rw [← Bool.not_eq_true]
      intro hrange
      exact hwide ⟨n, hn, hrange⟩

/-! ## Sending digits -/

/-- **Decimal digits.** A number is written as its digits behind whatever is in the buffer, and they spell
    the number. -/
def SendsDigits (type : ColumnType) (i : Int64) : Prop :=
  ∀ out, ∃ bytes, (write (.int i) type).outcome out = (.ok .present, out ++ bytes) ∧
    Utf8.decode bytes = .ok (toString i.toInt) ∧ spelled? (toString i.toInt).toList = some i.toInt ∧
    decodeCell? type bytes = some (.text (toString i.toInt)) ∧
    Value.asInteger (.text (toString i.toInt)) = some i

/-- A written number is ASCII. -/
theorem toNat_lt_of_mem_toString {i : Int} {c : Char} (h : c ∈ (toString i).toList) : c.toNat < 128 := by
  rcases eq_minus_or_isDigit_of_mem_toString h with rfl | hdigit
  · decide
  · simp only [Char.isDigit, Bool.and_eq_true, decide_eq_true_eq] at hdigit
    have hle : c.toNat ≤ 57 := hdigit.2
    omega

theorem decodeCell?_of_isText {type : ColumnType} (h : type.isText = true) (bytes : List UInt8) :
    decodeCell? type bytes = (Utf8.decode bytes).toOption.map .text := by
  cases type with
  | text => rfl
  | varchar => rfl
  | bpchar => rfl
  | name => rfl
  | unknown => rfl
  | _ => cases h

theorem sendsDigits_of_isText {type : ColumnType} (h : type.isText = true) (i : Int64) :
    SendsDigits type i := by
  intro out
  have hdecode : Utf8.decode (textBytes (toString i.toInt)) = .ok (toString i.toInt) :=
    decode_textBytes fun c hc => toNat_lt_of_mem_toString hc
  have hread : Value.asInteger (.text (toString i.toInt)) = some i := by
    rw [Value.asInteger_text_eq_some_iff, trimChars_toString]
    exact spelled?_toString i.toInt
  have hencode : encodeWhole i type = .ok (textBytes (toString i.toInt)) := by
    unfold encodeWhole
    exact if_pos h
  refine ⟨textBytes (toString i.toInt), ?_, hdecode, spelled?_toString i.toInt, ?_, hread⟩
  · rw [outcome_write, encode, hencode]
    rfl
  · rw [decodeCell?_of_isText h, hdecode]
    rfl

/-! ## Whole numbers and texts -/

/-- **Whole numbers are sent exactly or refused**: as a parameter of a type of whole numbers, every number
    and every text that spells one between blanks. Where text is wanted, a number is sent as its digits. -/
theorem integers_exact_or_refused (i : Int64) (s : String) :
    (∀ t : WholeType,
        SendsNumber t (.int i) (some i.toInt) ∧
          SendsNumber t (.text s) (spelled? (trimChars s.toList))) ∧
      ∀ type : ColumnType, type.isText = true → SendsDigits type i := by
  refine ⟨?_, ?_⟩
  · intro t
    exact ⟨sendsNumber_int t i, sendsNumber_text t s⟩
  · intro type h
    exact sendsDigits_of_isText h i

/-- A seven with a sign and zeros between blanks takes two bytes behind the one that is there; a number
    just below those of two bytes leaves this one alone, and as a text it is its digits. -/
theorem seven_sent :
    (∃ bytes, (write (.text " +007 ") .int2).outcome [1] = (.ok .present, [1] ++ bytes) ∧
        bytes.length = 2 ∧ BigEndian.toInt bytes = 7) ∧
      ((write (.int (-32769)) .int2).outcome [1]).2 = [1] ∧ SendsDigits .varchar (-32769) := by
  obtain ⟨hnumbers, hdigits⟩ := integers_exact_or_refused (-32769) " +007 "
  obtain ⟨hint, htext⟩ := hnumbers .int2
  refine ⟨?_, ?_, hdigits .varchar rfl⟩
  · obtain ⟨bytes, hwritten, hlength, hnumber, -⟩ := htext.holds [1] 7 (by decide) (by decide)
    exact ⟨bytes, hwritten, hlength, hnumber⟩
  · exact hint.refused [1] (.whole .tooSmall) (by rfl)

end FluentSql.Postgres
