import FluentSql.Number.FloatReader
import FluentSql.Proofs.Literals
import FluentSql.Proofs.NearestDoubles
import FluentSql.Proofs.SpelledNumbers
/-!
# `FluentSql.Proofs.FloatTexts` — the texts of floats read back

A float is written in positional decimals. The reader takes its text apart into the sign of the float and a
decimal that is rounded to the float and to no other, so the text stands for this float alone.

* `Spells`, `Spells.unique` — texts that stand for a float, each for one only;
* `spellsDecimal_positional` — the decimal that a positional text spells;
* `isWritten_plain` — how a float is written, by its place and its sign;
* `spells_plain` — the text of a float spells it.
-/

namespace FluentSql.Number

variable {cs ds whole fraction rest : List Char} {x : Double}

/-! ## Texts and floats -/

/-- **A text that stands for a float**: it spells no number if the float is none, and else the sign of the
    float and infinity or a decimal that is rounded to the float. -/
inductive Spells (s : String) (x : Double) : Prop where
  | nan (kind : x.isNaN = true) (read : parseLiteral s.toList = .ok (false, .nan))
  | infinite (kind : x.isInfinite = true) (read : parseLiteral s.toList = .ok (x.isNegative, .infinite))
  | decimal (digits : Nat) (exponent : Int) (kind : (x.isNaN || x.isInfinite) = false)
      (read : parseLiteral s.toList = .ok (x.isNegative, .decimal digits exponent))
      (nearest : IsNearest (digits * 10 ^ exponent) x.place)

/-- **A text stands for one float only**, if it stands for a number. -/
theorem Spells.unique {s : String} {y : Double} (h : Spells s x) (hy : Spells s y) (hx : x.isNaN = false) :
    x = y := by
  cases h with
  | nan kind =>
    rw [kind] at hx
    cases hx
  | infinite kind read =>
    cases hy with
    | nan _ read' => cases congrArg Prod.snd (Except.ok.inj (read.symm.trans read'))
    | infinite kind' read' =>
      have hplace : x.place = y.place := by rw [(isInfinite_iff x).mp kind, (isInfinite_iff y).mp kind']
      exact eq_of_place hplace (congrArg Prod.fst (Except.ok.inj (read.symm.trans read')))
    | decimal _ _ _ read' => cases congrArg Prod.snd (Except.ok.inj (read.symm.trans read'))
  | decimal digits exponent kind read nearest =>
    cases hy with
    | nan _ read' => cases congrArg Prod.snd (Except.ok.inj (read.symm.trans read'))
    | infinite _ read' => cases congrArg Prod.snd (Except.ok.inj (read.symm.trans read'))
    | decimal digits' exponent' _ read' nearest' =>
      have hsame := Except.ok.inj (read.symm.trans read')
      obtain ⟨hdigits, hexponent⟩ := Literal.decimal.inj (congrArg Prod.snd hsame)
      rw [hdigits, hexponent] at nearest
      exact eq_of_place (nearest.unique nearest') (congrArg Prod.fst hsame)

/-! ## Reading decimals -/

/-- Digits end where there are no more of them. -/
theorem spanDigits_append (hcs : ∀ c ∈ cs, c.isDigit = true) (hrest : ∀ c ∈ rest.head?, c.isDigit = false) :
    spanDigits (cs ++ rest) = (cs, rest) := by
  have htake : rest.takeWhile Char.isDigit = [] := by
    cases rest with
    | nil => rfl
    | cons c rest => exact List.takeWhile_cons_of_neg (by simp [hrest c rfl])
  rw [spanDigits, List.takeWhile_append_of_pos hcs, List.dropWhile_append_of_pos hcs, htake,
    Text.dropWhile_eq_self hrest, List.append_nil]

theorem spanDigits_eq_self (hcs : ∀ c ∈ cs, c.isDigit = true) : spanDigits cs = (cs, []) := by
  have hnone : ∀ c ∈ ([] : List Char).head?, c.isDigit = false := nofun
  have h := spanDigits_append hcs hnone
  rwa [List.append_nil] at h

/-- **Digits alone** are a whole number. -/
theorem decimal?_whole (hwhole : ∀ c ∈ whole, c.isDigit = true) (hne : whole ≠ []) :
    decimal? whole = some (.decimal (digitsValue whole) 0) := by
  have hspan := spanDigits_eq_self hwhole
  simp [decimal?, hspan, exponent?, hne]

/-- **Digits with a point between them** count by the place of the point. -/
theorem decimal?_fraction (hwhole : ∀ c ∈ whole, c.isDigit = true)
    (hfraction : ∀ c ∈ fraction, c.isDigit = true) (hne : whole ≠ []) :
    decimal? (whole ++ '.' :: fraction) =
      some (.decimal (digitsValue (whole ++ fraction)) (-fraction.length)) := by
  have hpoint : spanDigits (whole ++ '.' :: fraction) = (whole, '.' :: fraction) := by
    apply spanDigits_append hwhole
    intro c hc
    cases hc
    rfl
  have hspan := spanDigits_eq_self hfraction
  simp [decimal?, hpoint, hspan, exponent?, hne]

/-- A digit is no letter. -/
theorem toLower_of_isDigit {c : Char} (h : c.isDigit = true) : c.toLower = c := by
  have hdigit := toNat_of_isDigit h
  have hcapital : ¬ ('A'.val ≤ c.val ∧ c.val ≤ 'Z'.val) := by
    rintro ⟨hlow, -⟩
    have hlow : 65 ≤ c.toNat := hlow
    omega
  unfold Char.toLower
  exact dif_neg hcapital

/-- A text that begins with a digit is no word. -/
theorem literal?_of_isDigit {c : Char} (h : c.isDigit = true) (cs : List Char) :
    literal? (c :: cs) = decimal? (c :: cs) := by
  have hword (word : String) (hletter : ∀ d ∈ word.toList.head?, d.isDigit = false) :
      (String.ofList ((c :: cs).map Char.toLower) == word) = false := by
    rw [beq_eq_false_iff_ne]
    rintro rfl
    have hdigit := hletter c (by simp [toLower_of_isDigit h])
    rw [h] at hdigit
    cases hdigit
  have hinf := hword "inf" (by simp)
  have hinfinity := hword "infinity" (by simp)
  have hnan := hword "nan" (by simp)
  simp only [literal?, hinf, hinfinity, hnan]
  rfl

/-- A text without a sign is positive. -/
theorem parseLiteral_of_isDigit {c : Char} (h : c.isDigit = true) {l : Literal}
    (hread : literal? (c :: cs) = some l) : parseLiteral (c :: cs) = .ok (false, l) := by
  have hminus : c ≠ '-' := by
    rintro rfl
    exact absurd h (by decide)
  have hplus : c ≠ '+' := by
    rintro rfl
    exact absurd h (by decide)
  simp [parseLiteral, hminus, hplus, hread]

/-! ## Writing decimals -/

theorem digitsValue_append (cs ds : List Char) :
    digitsValue (cs ++ ds) = 10 ^ ds.length * digitsValue cs + digitsValue ds := by
  show Nat.ofDigitChars 10 (cs ++ ds) 0 = _
  rw [Nat.ofDigitChars_append, Nat.ofDigitChars_eq_ofDigitChars_zero]
  rfl

theorem digitsValue_replicate (n : Nat) : digitsValue (List.replicate n '0') = 0 := by
  show Nat.ofDigitChars 10 (List.replicate n '0') 0 = 0
  rw [Nat.ofDigitChars_replicate_zero, Nat.mul_zero]

/-- The digit zero by itself. -/
theorem isDigit_of_mem_zero {c : Char} (h : c ∈ ['0']) : c.isDigit = true := isDigit_of_mem_replicate (n := 1) h

/-- A text that spells a decimal of a given value. -/
def SpellsDecimal (cs : List Char) (d : ℚ) : Prop :=
  ∃ digits exponent, decimal? cs = some (.decimal digits exponent) ∧ digits * 10 ^ exponent = d

/-- Zeros behind the digits are powers of ten. -/
theorem spellsDecimal_zeros_behind (hds : ∀ c ∈ ds, c.isDigit = true) (hne : ds ≠ []) (n : Nat) :
    SpellsDecimal (ds ++ List.replicate n '0') (digitsValue ds * 10 ^ n) := by
  have hall : ∀ c ∈ ds ++ List.replicate n '0', c.isDigit = true := by
    intro c hc
    rcases List.mem_append.mp hc with hc | hc
    · exact hds c hc
    · exact isDigit_of_mem_replicate hc
  refine ⟨_, _, decimal?_whole hall (by simp [hne]), ?_⟩
  rw [digitsValue_append, digitsValue_replicate, List.length_replicate]
  push_cast
  ring

/-- A point between the digits moves their value. -/
theorem spellsDecimal_point (hds : ∀ c ∈ ds, c.isDigit = true) {n : Nat} (hn : 0 < n) (hlt : n < ds.length) :
    SpellsDecimal (ds.take n ++ '.' :: ds.drop n) (digitsValue ds * 10 ^ ((n : Int) - ds.length)) := by
  have hwhole : ∀ c ∈ ds.take n, c.isDigit = true := fun c hc => hds c (List.mem_of_mem_take hc)
  have hfraction : ∀ c ∈ ds.drop n, c.isDigit = true := fun c hc => hds c (List.mem_of_mem_drop hc)
  have hlength : -((ds.drop n).length : Int) = n - ds.length := by
    rw [List.length_drop]
    omega
  have hne : ds.take n ≠ [] := by
    apply List.ne_nil_of_length_pos
    rw [List.length_take]
    omega
  refine ⟨_, _, decimal?_fraction hwhole hfraction hne, ?_⟩
  rw [List.take_append_drop, hlength]

/-- Zeros between the point and the digits move their value further. -/
theorem spellsDecimal_zeros_before (hds : ∀ c ∈ ds, c.isDigit = true) (n : Nat) :
    SpellsDecimal ('0' :: '.' :: List.replicate n '0' ++ ds) (digitsValue ds * 10 ^ (-(n + ds.length) : Int)) := by
  have hall : ∀ c ∈ List.replicate n '0' ++ ds, c.isDigit = true := by
    intro c hc
    rcases List.mem_append.mp hc with hc | hc
    · exact isDigit_of_mem_replicate hc
    · exact hds c hc
  have hzero : ∀ c ∈ ['0'], c.isDigit = true := fun _ => isDigit_of_mem_zero
  have hvalue : digitsValue (['0'] ++ (List.replicate n '0' ++ ds)) = digitsValue ds := by
    have hnone : digitsValue ['0'] = 0 := rfl
    rw [digitsValue_append, digitsValue_append, hnone, digitsValue_replicate]
    omega
  have hlength : ((List.replicate n '0' ++ ds).length : Int) = n + ds.length := by
    rw [List.length_append, List.length_replicate]
    rfl
  have hread := decimal?_fraction hzero hall (List.cons_ne_nil '0' [])
  refine ⟨_, _, hread, ?_⟩
  rw [hvalue, hlength]

/-- **A positional text spells the decimal** that it was made from. -/
theorem spellsDecimal_positional (hds : ∀ c ∈ ds, c.isDigit = true) (hne : ds ≠ []) (e : Int) :
    SpellsDecimal (positional ds e []) (digitsValue ds * 10 ^ e) := by
  have hlength := List.length_pos_of_ne_nil hne
  unfold positional
  simp only
  split
  case isTrue he =>
    obtain ⟨n, rfl⟩ := Int.eq_ofNat_of_zero_le he
    rw [List.append_nil, zpow_natCast]
    exact spellsDecimal_zeros_behind hds hne n
  case isFalse he =>
    split
    case isTrue hpoint =>
      have hspells := spellsDecimal_point hds (n := (ds.length + e).toNat) (by omega) (by omega)
      rwa [Int.toNat_of_nonneg hpoint.le, add_sub_cancel_left] at hspells
    case isFalse hpoint =>
      have hspells := spellsDecimal_zeros_before hds (-(ds.length + e)).toNat
      have hexponent : -(((-(ds.length + e)).toNat : Int) + ds.length) = e := by omega
      rwa [hexponent] at hspells

/-- A positional text begins with a digit. -/
theorem exists_positional_eq_cons (hds : ∀ c ∈ ds, c.isDigit = true) (hne : ds ≠ []) (e : Int) :
    ∃ c cs, positional ds e [] = c :: cs ∧ c.isDigit = true := by
  obtain ⟨d, ds, rfl⟩ := List.exists_cons_of_ne_nil hne
  have hd : d.isDigit = true := hds d List.mem_cons_self
  unfold positional
  simp only
  split
  case isTrue => exact ⟨_, _, rfl, hd⟩
  case isFalse =>
    split
    case isTrue hpoint =>
      obtain ⟨n, hn⟩ : ∃ n, (((d :: ds).length : Int) + e).toNat = n + 1 :=
        Nat.exists_eq_add_one_of_ne_zero (by omega)
      rw [hn, List.take_succ_cons]
      exact ⟨_, _, rfl, hd⟩
    case isFalse => exact ⟨_, _, rfl, rfl⟩

/-- **A positional text with a sign** is taken apart into the sign and the decimal. -/
theorem parseLiteral_signed (negative : Bool) (hds : ∀ c ∈ ds, c.isDigit = true) (hne : ds ≠ []) (e : Int) :
    ∃ digits exponent,
      parseLiteral (signed negative (positional ds e [])).toList = .ok (negative, .decimal digits exponent) ∧
        (digits * 10 ^ exponent : ℚ) = digitsValue ds * 10 ^ e := by
  obtain ⟨digits, exponent, hread, hvalue⟩ := spellsDecimal_positional hds hne e
  obtain ⟨c, cs, hcs, hc⟩ := exists_positional_eq_cons hds hne e
  refine ⟨digits, exponent, ?_, hvalue⟩
  rw [hcs] at hread ⊢
  rw [← literal?_of_isDigit hc] at hread
  rw [signed, String.toList_ofList]
  cases negative with
  | false => exact parseLiteral_of_isDigit hc hread
  | true => simp [parseLiteral, hread]

/-! ## Significant digits -/

/-- A text is what is left without its zeros at the end, and these zeros. -/
theorem dropped_append_zeros (cs : List Char) :
    (cs.reverse.dropWhile (· == '0')).reverse ++
      List.replicate (cs.length - (cs.reverse.dropWhile (· == '0')).reverse.length) '0' = cs := by
  have hzeros : (cs.reverse.takeWhile (· == '0')).reverse =
      List.replicate (cs.reverse.takeWhile (· == '0')).length '0' := by
    rw [List.eq_replicate_iff, List.length_reverse]
    refine ⟨rfl, ?_⟩
    intro c hc
    exact eq_of_beq (List.all_eq_true.mp List.all_takeWhile c (List.mem_reverse.mp hc))
  have hsplit : (cs.reverse.dropWhile (· == '0')).reverse ++ (cs.reverse.takeWhile (· == '0')).reverse = cs := by
    rw [← List.reverse_append, List.takeWhile_append_dropWhile, List.reverse_reverse]
  have hlength : cs.length - (cs.reverse.dropWhile (· == '0')).reverse.length =
      (cs.reverse.takeWhile (· == '0')).length := by
    have h := congrArg List.length hsplit
    simp only [List.length_append, List.length_reverse] at h ⊢
    omega
  rw [hlength, ← hzeros, hsplit]

/-- **Zeros at the end are left out** and counted by the exponent. -/
theorem significant_spec {d : Decimal} (h : 0 < d.digits) :
    d.significant.1 ≠ [] ∧ (∀ c ∈ d.significant.1, c.isDigit = true) ∧
      (digitsValue d.significant.1 * 10 ^ d.significant.2 : ℚ) = d.number := by
  have hsplit := dropped_append_zeros (Nat.toDigits 10 d.digits)
  have hvalue : digitsValue (Nat.toDigits 10 d.digits) = d.digits := Nat.ofDigitChars_ten_toDigits
  rw [Decimal.significant]
  generalize ((Nat.toDigits 10 d.digits).reverse.dropWhile (· == '0')).reverse = kept at hsplit ⊢
  generalize (Nat.toDigits 10 d.digits).length - kept.length = n at hsplit ⊢
  rw [← hsplit, digitsValue_append, digitsValue_replicate, List.length_replicate, Nat.add_zero] at hvalue
  refine ⟨?_, ?_, ?_⟩
  · rintro rfl
    have hzero : digitsValue [] = 0 := rfl
    rw [hzero] at hvalue
    omega
  · intro c hc
    exact isDigit_of_mem_toDigits (hsplit ▸ List.mem_append_left _ hc)
  · rw [Decimal.number, ← hvalue, zpow_add₀ (by norm_num), zpow_natCast]
    push_cast
    ring

/-! ## The parts of a float -/

/-- **The parts of a float** are found by its place and its sign. -/
theorem ofBits_eq (tie : Tie) (x : Double) :
    FloatShape.ofBits tie x.bits =
      if x.isNaN then .nan
      else if x.isInfinite then .infinite x.isNegative
      else if x.place = 0 then .zero x.isNegative
      else
        .finite x.isNegative (shortest (Interval.around x.place) tie 17).significant.1
          (shortest (Interval.around x.place) tie 17).significant.2 := by
  have hplace := place_eq x
  have hlt := x.bits.toNat_lt
  have hsign : (x.bits.toNat >>> 63 == 1) = x.isNegative := by
    rw [Bool.eq_iff_iff, beq_iff_eq, isNegative_iff, Nat.shiftRight_eq_div_pow]
    omega
  have hbiased : (x.bits.toNat >>> 52) % 2048 = x.place / 0x10000000000000 := by
    rw [Nat.shiftRight_eq_div_pow]
    omega
  have hfraction : x.bits.toNat % 0x10000000000000 = x.place % 0x10000000000000 := by omega
  have hnan := isNaN_iff x
  have hinfinite := isInfinite_iff x
  have haround : (if x.place / 0x10000000000000 == 0 then
        Interval.ofBinary (x.place % 0x10000000000000) (-1074) false
      else
        Interval.ofBinary (0x10000000000000 + x.place % 0x10000000000000)
          ((x.place / 0x10000000000000 : Nat) - 1075)
          (x.place % 0x10000000000000 == 0 && 1 < x.place / 0x10000000000000)) =
      Interval.around x.place := by
    rw [Interval.around, mantissaAt, exponentAt, Interval.narrowAt]
    by_cases hsubnormal : x.place / 0x10000000000000 = 0
    · have hmod : x.place % 0x10000000000000 = x.place := by omega
      simp [hsubnormal, hmod]
    · simp [hsubnormal]
  have hshape : (x.place / 0x10000000000000 == 2047) = (x.isNaN || x.isInfinite) := by
    rw [Bool.eq_iff_iff, beq_iff_eq, Bool.or_eq_true, hnan, hinfinite]
    unfold finitePlaces
    omega
  unfold FloatShape.ofBits
  simp only [hsign, hbiased, hfraction, haround, hshape]
  unfold finitePlaces at hnan hinfinite
  cases hkind : x.isNaN with
  | true =>
    have hrest : x.place % 0x10000000000000 ≠ 0 := by
      have hbehind := hnan.mp hkind
      omega
    simp [hrest]
  | false =>
    cases hkind' : x.isInfinite with
    | true =>
      have hrest : x.place % 0x10000000000000 = 0 := by
        have hfirst := hinfinite.mp hkind'
        omega
      simp [hrest]
    | false =>
      have hzero : (x.place / 0x10000000000000 == 0 && x.place % 0x10000000000000 == 0) =
          decide (x.place = 0) := by
        rw [Bool.eq_iff_iff, Bool.and_eq_true, beq_iff_eq, beq_iff_eq, decide_eq_true_iff]
        omega
      simp [hzero]

/-! ## The text of a float -/

/-- **How a float is written**: as a word, or by its sign and digits that are rounded to it. -/
inductive IsWritten (x : Double) : String → Prop where
  | nan (kind : x.isNaN = true) : IsWritten x "NaN"
  | infinite (kind : x.isInfinite = true) : IsWritten x (signed x.isNegative ['i', 'n', 'f'])
  | decimal (digits : List Char) (exponent : Int) (kind : (x.isNaN || x.isInfinite) = false)
      (areDigits : ∀ c ∈ digits, c.isDigit = true) (nonempty : digits ≠ [])
      (nearest : IsNearest (digitsValue digits * 10 ^ exponent) x.place) :
      IsWritten x (signed x.isNegative (positional digits exponent []))

/-- **How a float is written.** -/
theorem isWritten_plain (x : Double) : IsWritten x (plain x) := by
  have hshape := ofBits_eq .up x
  rw [plain]
  cases hnan : x.isNaN with
  | true =>
    rw [if_pos hnan] at hshape
    rw [hshape]
    exact .nan hnan
  | false =>
    rw [if_neg (by simp [hnan])] at hshape
    cases hinfinite : x.isInfinite with
    | true =>
      rw [if_pos hinfinite] at hshape
      rw [hshape]
      exact .infinite hinfinite
    | false =>
      have hkind : (x.isNaN || x.isInfinite) = false := by simp [hnan, hinfinite]
      rw [if_neg (by simp [hinfinite])] at hshape
      by_cases hzero : x.place = 0
      · rw [if_pos hzero] at hshape
        rw [hshape]
        apply IsWritten.decimal ['0'] 0 hkind (fun _ => isDigit_of_mem_zero) (List.cons_ne_nil _ _)
        have hvalue : digitsValue ['0'] = 0 := rfl
        rw [hzero, hvalue, Nat.cast_zero, zero_mul]
        exact isNearest_zero
      · rw [if_neg hzero] at hshape
        rw [hshape]
        have hfinite : x.place < finitePlaces := by
          have hbehind := mt (isNaN_iff x).mpr (by simp [hnan])
          have hfirst := mt (isInfinite_iff x).mpr (by simp [hinfinite])
          omega
        obtain ⟨hnearest, hpos⟩ := Interval.isNearest_shortest (Nat.pos_of_ne_zero hzero) hfinite .up
        obtain ⟨hne, hdigits, hvalue⟩ := significant_spec hpos
        apply IsWritten.decimal _ _ hkind hdigits hne
        rw [hvalue]
        exact hnearest

/-- What is written for a float spells it. -/
theorem IsWritten.spells {s : String} (h : IsWritten x s) : Spells s x := by
  cases h with
  | nan kind => exact .nan kind rfl
  | infinite kind =>
    apply Spells.infinite kind
    cases x.isNegative <;> rfl
  | decimal digits exponent kind areDigits nonempty nearest =>
    obtain ⟨n, e, hread, hvalue⟩ := parseLiteral_signed x.isNegative areDigits nonempty exponent
    apply Spells.decimal n e kind hread
    rw [hvalue]
    exact nearest

/-- What is written for a float has ASCII characters only. -/
theorem IsWritten.toNat_lt {s : String} (h : IsWritten x s) : ∀ c ∈ s.toList, c.toNat < 128 := by
  have hsigned {negative : Bool} {body : List Char} (hbody : ∀ c ∈ body, c.toNat < 128) :
      ∀ c ∈ (signed negative body).toList, c.toNat < 128 := by
    intro c hc
    rw [signed, String.toList_ofList] at hc
    cases negative with
    | false => exact hbody c hc
    | true =>
      rcases List.mem_cons.mp hc with rfl | hc
      · decide
      · exact hbody c hc
  cases h with
  | nan =>
    intro c hc
    simp at hc
    obtain rfl | rfl | rfl := hc <;> decide
  | infinite =>
    apply hsigned
    intro c hc
    simp at hc
    obtain rfl | rfl | rfl := hc <;> decide
  | decimal digits exponent kind areDigits nonempty nearest =>
    apply hsigned
    intro c hc
    rcases mem_positional hc with hdigit | rfl | rfl
    · have := toNat_of_isDigit (areDigits c hdigit)
      omega
    · decide
    · decide

/-- **The text of a float spells this float**, and no other if it is a number. -/
theorem spells_plain (x : Double) : Spells (plain x) x := (isWritten_plain x).spells

end FluentSql.Number
