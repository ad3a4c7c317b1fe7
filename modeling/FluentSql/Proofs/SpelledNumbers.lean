import FluentSql.Value
/-!
# `FluentSql.Proofs.SpelledNumbers` — the numbers that texts spell

A text spells a whole number by an optional sign and decimal digits (`Number.spelled?`); nothing bounds the
number. The reader keeps to a range and checks it at every digit. A number only grows in magnitude from
digit to digit, so a range around zero is left for good once it is left, and what is read is what is
spelled, if that lies in the range.

* `Number.parseWhole_eq_ok_iff` — the reader reads the spelled numbers of its range, and no others;
* `Number.spelled?_toString` — every number is spelled by its decimal digits;
* `Value.asInteger_text_eq_some_iff` — which texts are read as whole numbers.
-/

namespace FluentSql

open FluentSql.Number FluentSql.Text

namespace Number

variable {range : WholeRange} {cs : List Char} {n : Int}

/-! ## Numbers and their digits -/

/-- The number of one or more decimal digits. -/
def digits? (cs : List Char) : Option Nat :=
  if cs ≠ [] ∧ cs.all Char.isDigit = true then some (Nat.ofDigitChars 10 cs 0) else none

/-- A number of a given sign and magnitude. -/
def signedBy (negative : Bool) (magnitude : Nat) : Int :=
  if negative then -(magnitude : Int) else magnitude

/-- **The number that a text spells**: an optional sign and one or more decimal digits. -/
def spelled? : List Char → Option Int
  | '+' :: cs => (digits? cs).map (signedBy false)
  | '-' :: cs => (digits? cs).map (signedBy true)
  | cs => (digits? cs).map (signedBy false)

theorem spelled?_of_isDigit {c : Char} (h : c.isDigit = true) (cs : List Char) :
    spelled? (c :: cs) = (digits? (c :: cs)).map (signedBy false) := by
  unfold spelled?
  split
  · rename_i hsign
    rw [(List.cons.inj hsign).1] at h
    exact absurd h (by decide)
  · rename_i hsign
    rw [(List.cons.inj hsign).1] at h
    exact absurd h (by decide)
  · rfl

theorem WholeRange.contains_iff : range.contains n = true ↔ range.low ≤ n ∧ n ≤ range.high := by
  simp [WholeRange.contains]

theorem WholeRange.narrow_of_contains (h : range.contains n = true) : range.narrow n = .ok n :=
  WholeRange.narrow_eq_ok_iff.mpr ⟨rfl, WholeRange.contains_iff.mp h⟩

theorem WholeRange.exists_narrow_eq_error (h : range.contains n = false) :
    ∃ fault, range.narrow n = .error fault := by
  cases hn : range.narrow n with
  | error fault => exact ⟨fault, rfl⟩
  | ok m =>
    obtain ⟨-, hrange⟩ := WholeRange.narrow_eq_ok_iff.mp hn
    rw [WholeRange.contains_iff.mpr hrange] at h
    cases h

/-- A range around zero holds all numbers between zero and one that it holds. -/
theorem WholeRange.contains_signedBy_of_le (hlow : range.low ≤ 0) (hhigh : 0 ≤ range.high)
    {negative : Bool} {m k : Nat} (hle : m ≤ k) (h : range.contains (signedBy negative k) = true) :
    range.contains (signedBy negative m) = true := by
  rw [WholeRange.contains_iff] at h ⊢
  cases negative with
  | false =>
    simp only [signedBy, Bool.false_eq_true, if_false] at h ⊢
    omega
  | true =>
    simp only [signedBy, if_true] at h ⊢
    omega

theorem digitValue?_eq (c : Char) :
    digitValue? c = if c.isDigit = true then some (c.toNat - '0'.toNat) else none := by
  have hdigit : ('0' ≤ c ∧ c ≤ '9') ↔ c.isDigit = true := by
    simp [Char.isDigit, Char.le_def]
  unfold digitValue?
  by_cases h : c.isDigit = true
  · rw [if_pos (hdigit.mpr h), if_pos h]
    rfl
  · rw [if_neg (fun hc => h (hdigit.mp hc)), if_neg h]

/-- A digit lies between zero and nine. -/
theorem toNat_of_isDigit {c : Char} (h : c.isDigit = true) : 48 ≤ c.toNat ∧ c.toNat ≤ 57 := by
  simp only [Char.isDigit, Bool.and_eq_true, decide_eq_true_eq] at h
  exact h

/-- More digits make a magnitude no smaller. -/
theorem le_ofDigitChars (cs : List Char) (m : Nat) : m ≤ Nat.ofDigitChars 10 cs m := by
  induction cs generalizing m with
  | nil => exact Nat.le_refl m
  | cons c cs ih =>
    rw [Nat.ofDigitChars_cons]
    have hrest := ih (10 * m + (c.toNat - '0'.toNat))
    omega

/-- One more digit, in the direction of the sign. -/
theorem signedBy_push (negative : Bool) (m d : Nat) :
    (if negative then 10 * signedBy negative m - (d : Int) else 10 * signedBy negative m + (d : Int)) =
      signedBy negative (10 * m + d) := by
  cases negative with
  | false => simp [signedBy]
  | true =>
    simp only [signedBy, if_true]
    omega

/-! ## Reading -/

/-- **Digits are read to the end** if there is nothing else and the number that they make lies in the
    range. -/
theorem readDigits_eq_ok_iff (hlow : range.low ≤ 0) (hhigh : 0 ≤ range.high) {negative : Bool} {m : Nat}
    (hm : range.contains (signedBy negative m) = true) :
    readDigits range negative (signedBy negative m) cs = .ok n ↔
      cs.all Char.isDigit = true ∧ n = signedBy negative (Nat.ofDigitChars 10 cs m) ∧
        range.contains n = true := by
  -- on the digits that are left, with the number read so far general and in the range
  induction cs generalizing m with
  | nil =>
    rw [readDigits]
    constructor
    · intro h
      cases h
      exact ⟨rfl, rfl, hm⟩
    · rintro ⟨-, rfl, -⟩
      rfl
  | cons c cs ih =>
    rw [readDigits, digitValue?_eq]
    cases hc : c.isDigit with
    | false => simp [hc]
    | true =>
      simp only [if_true, List.all_cons, hc, Bool.true_and, signedBy_push, Nat.ofDigitChars_cons]
      cases hnext : range.contains (signedBy negative (10 * m + (c.toNat - '0'.toNat))) with
      | true =>
        rw [WholeRange.narrow_of_contains hnext]
        exact ih hnext
      | false =>
        -- the range is left at this digit, and the number that all digits make lies beyond it
        obtain ⟨fault, hfault⟩ := WholeRange.exists_narrow_eq_error hnext
        rw [hfault]
        constructor
        · intro h
          cases h
        · rintro ⟨-, rfl, hrange⟩
          have hle := le_ofDigitChars cs (10 * m + (c.toNat - '0'.toNat))
          rw [WholeRange.contains_signedBy_of_le hlow hhigh hle hrange] at hnext
          cases hnext

/-- Digits behind a sign. -/
theorem readDigits_zero_eq_ok_iff (hlow : range.low ≤ 0) (hhigh : 0 ≤ range.high) (negative : Bool)
    (hne : cs ≠ []) :
    readDigits range negative 0 cs = .ok n ↔
      (digits? cs).map (signedBy negative) = some n ∧ range.contains n = true := by
  have hzero : signedBy negative 0 = 0 := by cases negative <;> rfl
  have hm : range.contains (signedBy negative 0) = true := by
    rw [hzero]
    exact WholeRange.contains_iff.mpr ⟨hlow, hhigh⟩
  rw [← hzero, readDigits_eq_ok_iff hlow hhigh hm, digits?]
  by_cases hall : cs.all Char.isDigit = true
  · rw [if_pos ⟨hne, hall⟩, Option.map_some, Option.some.injEq]
    constructor
    · rintro ⟨-, rfl, hrange⟩
      exact ⟨rfl, hrange⟩
    · rintro ⟨rfl, hrange⟩
      exact ⟨hall, rfl, hrange⟩
  · rw [if_neg fun h => hall h.2]
    constructor
    · rintro ⟨h, -, -⟩
      exact absurd h hall
    · rintro ⟨h, -⟩
      cases h

/-- **The numbers that are read** are the spelled ones of the range. -/
theorem parseWhole_eq_ok_iff (hlow : range.low < 0) (hhigh : 0 ≤ range.high) :
    parseWhole range cs = .ok n ↔ spelled? cs = some n ∧ range.contains n = true := by
  have hle : range.low ≤ 0 := Int.le_of_lt hlow
  have hnone : digits? [] = none := rfl
  fun_cases parseWhole range cs with
  | case1 => simp [spelled?, hnone]
  | case2 => simp [spelled?, hnone]
  | case3 => simp [spelled?, hnone]
  | case4 cs hne => exact readDigits_zero_eq_ok_iff hle hhigh false hne
  | case5 cs hne => exact readDigits_zero_eq_ok_iff hle hhigh true hne
  | case6 cs hne hneg => exact absurd hlow hneg
  | case7 _ hnil _ _ hplus hminus =>
    have hspelled : spelled? cs = (digits? cs).map (signedBy false) := by
      unfold spelled?
      split
      · exact absurd rfl (hplus _)
      · exact absurd rfl (hminus _)
      · rfl
    rw [hspelled]
    exact readDigits_zero_eq_ok_iff hle hhigh false hnil

/-! ## Writing -/

theorem isDigit_of_mem_replicate {n : Nat} {c : Char} (h : c ∈ List.replicate n '0') : c.isDigit = true := by
  rw [List.eq_of_mem_replicate h]
  rfl

theorem isDigit_of_mem_toDigits {m : Nat} {c : Char} (h : c ∈ Nat.toDigits 10 m) : c.isDigit = true :=
  Nat.isDigit_of_mem_toDigits (by decide) (by decide) h

theorem digits?_toDigits (m : Nat) : digits? (Nat.toDigits 10 m) = some m := by
  have hall : (Nat.toDigits 10 m).all Char.isDigit = true :=
    List.all_eq_true.mpr fun c hc => isDigit_of_mem_toDigits hc
  rw [digits?, if_pos ⟨Nat.toDigits_ne_nil, hall⟩, Nat.ofDigitChars_ten_toDigits]

/-- The decimal digits of a number, behind a minus sign if it is negative. -/
theorem toList_toString (i : Int) :
    (toString i).toList =
      if i < 0 then '-' :: Nat.toDigits 10 i.natAbs else Nat.toDigits 10 i.natAbs := by
  cases i with
  | ofNat m =>
    rw [if_neg (by simp)]
    exact String.toList_ofList
  | negSucc m =>
    rw [if_pos (Int.negSucc_lt_zero m)]
    show ("-" ++ String.ofList (Nat.toDigits 10 (m + 1))).toList = _
    rw [String.toList_append]
    exact congrArg ('-' :: ·) String.toList_ofList

/-- The characters of a written number. -/
theorem eq_minus_or_isDigit_of_mem_toString {i : Int} {c : Char} (h : c ∈ (toString i).toList) :
    c = '-' ∨ c.isDigit = true := by
  rw [toList_toString] at h
  split at h
  · rcases List.mem_cons.mp h with hminus | hdigit
    · exact .inl hminus
    · exact .inr (isDigit_of_mem_toDigits hdigit)
  · exact .inr (isDigit_of_mem_toDigits h)

/-- **A number is spelled by its decimal digits.** -/
theorem spelled?_toString (i : Int) : spelled? (toString i).toList = some i := by
  rw [toList_toString]
  by_cases hi : i < 0
  · have hsigned : signedBy true i.natAbs = i := by
      rw [signedBy, if_pos rfl]
      omega
    rw [if_pos hi]
    show (digits? (Nat.toDigits 10 i.natAbs)).map (signedBy true) = some i
    rw [digits?_toDigits, Option.map_some, hsigned]
  · have hsigned : signedBy false i.natAbs = i := by
      show (i.natAbs : Int) = i
      omega
    have hdigits := digits?_toDigits i.natAbs
    rw [if_neg hi]
    cases hcs : Nat.toDigits 10 i.natAbs with
    | nil => exact absurd hcs Nat.toDigits_ne_nil
    | cons c cs =>
      have hc : c.isDigit = true := isDigit_of_mem_toDigits (hcs ▸ List.mem_cons_self)
      rw [spelled?_of_isDigit hc, ← hcs, hdigits, Option.map_some, hsigned]

end Number

/-! ## Blanks around a number -/

namespace Text

theorem dropWhile_eq_self {p : Char → Bool} {cs : List Char} (h : ∀ c ∈ cs.head?, p c = false) :
    cs.dropWhile p = cs := by
  cases cs with
  | nil => rfl
  | cons c cs => rw [List.dropWhile_cons_of_neg (by simp [h c rfl])]

/-- A text without blanks at its ends stays as it is. -/
theorem trimChars_of_forall {cs : List Char} (h : ∀ c ∈ cs, isBlank c = false) : trimChars cs = cs := by
  have hfront : cs.dropWhile isBlank = cs :=
    dropWhile_eq_self fun c hc => h c (List.mem_of_mem_head? hc)
  have hback : cs.reverse.dropWhile isBlank = cs.reverse :=
    dropWhile_eq_self fun c hc => h c (List.mem_reverse.mp (List.mem_of_mem_head? hc))
  rw [trimChars, hfront, hback, List.reverse_reverse]

theorem isBlank_of_isDigit {c : Char} (h : c.isDigit = true) : isBlank c = false := by
  simp only [Char.isDigit, Bool.and_eq_true, decide_eq_true_eq] at h
  have hlow : 0x30 ≤ c.toNat := h.1
  have hhigh : c.toNat ≤ 0x39 := h.2
  simp only [isBlank, Bool.or_eq_false_iff, Bool.and_eq_false_iff, decide_eq_false_iff_not,
    beq_eq_false_iff_ne]
  omega

/-- No blanks are in a written number. -/
theorem trimChars_toString (i : Int) : trimChars (toString i).toList = (toString i).toList := by
  apply trimChars_of_forall
  intro c hc
  rcases eq_minus_or_isDigit_of_mem_toString hc with rfl | hdigit
  · decide
  · exact isBlank_of_isDigit hdigit

end Text

/-! ## Numbers of 64 bits -/

theorem Number.WholeRange.signed64_contains (n : Int64) : WholeRange.signed64.contains n.toInt = true := by
  have hlow := n.le_toInt
  have hhigh := n.toInt_lt
  rw [WholeRange.contains_iff]
  simp only [WholeRange.signed64]
  omega

theorem Number.WholeRange.toInt_ofInt {n : Int} (h : WholeRange.signed64.contains n = true) :
    (Int64.ofInt n).toInt = n := by
  rw [WholeRange.contains_iff] at h
  simp only [WholeRange.signed64] at h
  exact Int64.toInt_ofInt_of_le (by omega) (by omega)

/-- A text is read as the number of 64 bits that it spells between blanks. -/
theorem Number.parseWhole_signed64_eq_ok_iff {cs : List Char} {n : Int} :
    parseWhole .signed64 cs = .ok n ↔
      spelled? cs = some n ∧ WholeRange.signed64.contains n = true :=
  parseWhole_eq_ok_iff (by decide) (by decide)

/-- **The texts that are whole numbers** spell one of 64 bits between blanks. -/
theorem Value.asInteger_text_eq_some_iff {s : String} {n : Int64} :
    asInteger (.text s) = some n ↔ spelled? (trimChars s.toList) = some n.toInt := by
  rw [asInteger]
  constructor
  · intro h
    cases hread : parseWhole .signed64 (trimChars s.toList) with
    | error fault =>
      rw [hread] at h
      cases h
    | ok m =>
      obtain ⟨hspelled, hrange⟩ := parseWhole_signed64_eq_ok_iff.mp hread
      rw [hread] at h
      cases h
      rw [hspelled, WholeRange.toInt_ofInt hrange]
  · intro h
    have hread : parseWhole .signed64 (trimChars s.toList) = .ok n.toInt :=
      parseWhole_signed64_eq_ok_iff.mpr ⟨h, WholeRange.signed64_contains n⟩
    rw [hread]
    exact congrArg some n.ofInt_toInt

end FluentSql
