import FluentSql.Calendar.Reader
import FluentSql.Proofs.SpelledNumbers
import FluentSql.Proofs.WrittenParameters
import Mathlib.Algebra.Group.Nat.Defs
/-!
# `FluentSql.Proofs.PaddedNumbers` — numbers of a fixed width

Texts are compared byte by byte. Where two texts are made of parts of the same lengths, the first part that
differs decides, and where such a part is a number in the same number of digits, it decides as the number
does.

* `Text.append_lt_append_iff` — texts of parts;
* `Date.length_padded`, `Date.padded_lt_padded_iff` — padded numbers have a fixed width, and among numbers
  of one width the order of the texts is that of the numbers;
* `Postgres.textBytes_lt_iff` — ASCII texts are in the order of their bytes;
* `Calendar.readNumber_padded` — a padded number is read back, whatever is behind it.
-/

namespace FluentSql

open FluentSql.Number FluentSql.Text

/-! ## Texts of parts -/

/-- **Texts with first parts of the same length** are compared by these, and then by what is behind. -/
theorem Text.append_lt_append_iff {α : Type} [LT α] {front front' back back' : List α}
    (h : front.length = front'.length) :
    front ++ back < front' ++ back' ↔ front < front' ∨ front = front' ∧ back < back' := by
  induction front generalizing front' with
  | nil =>
    obtain rfl := List.length_eq_zero_iff.mp h.symm
    simp
  | cons x front ih =>
    cases front' with
    | nil => cases h
    | cons x' front' =>
      rw [List.cons_append, List.cons_append, List.cons_lt_cons_iff, List.cons_lt_cons_iff,
        ih (Nat.succ.inj h), List.cons.injEq, and_or_left, or_assoc, and_assoc]

namespace Postgres

/-- The bytes of ASCII characters are in the order of the characters. -/
theorem encoded_lt_iff {cs ds : List Char} (hcs : ∀ c ∈ cs, c.toNat < 128) (hds : ∀ d ∈ ds, d.toNat < 128) :
    Placeholder.encoded cs < Placeholder.encoded ds ↔ cs < ds := by
  induction cs generalizing ds with
  | nil =>
    cases ds with
    | nil => exact iff_of_false (List.not_lt_nil _) (List.not_lt_nil _)
    | cons d ds =>
      rw [Placeholder.encoded_cons, Placeholder.utf8EncodeChar_of_lt (hds d List.mem_cons_self)]
      exact iff_of_true (List.nil_lt_cons _ _) (List.nil_lt_cons _ _)
  | cons c cs ih =>
    have hc : c.toNat < 128 := hcs c List.mem_cons_self
    cases ds with
    | nil => exact iff_of_false (List.not_lt_nil _) (List.not_lt_nil _)
    | cons d ds =>
      have hd : d.toNat < 128 := hds d List.mem_cons_self
      have hlt : UInt8.ofNat c.toNat < UInt8.ofNat d.toNat ↔ c < d := by
        rw [UInt8.lt_iff_toNat_lt, UInt8.toNat_ofNat', UInt8.toNat_ofNat', Nat.mod_eq_of_lt (by omega),
          Nat.mod_eq_of_lt (by omega)]
        exact Iff.rfl
      have heq : UInt8.ofNat c.toNat = UInt8.ofNat d.toNat ↔ c = d := by
        rw [← UInt8.toNat_inj, UInt8.toNat_ofNat', UInt8.toNat_ofNat', Nat.mod_eq_of_lt (by omega),
          Nat.mod_eq_of_lt (by omega), Char.toNat_inj]
      rw [Placeholder.encoded_cons, Placeholder.encoded_cons, Placeholder.utf8EncodeChar_of_lt hc,
        Placeholder.utf8EncodeChar_of_lt hd, List.singleton_append, List.singleton_append,
        List.cons_lt_cons_iff, List.cons_lt_cons_iff, hlt, heq,
        ih (fun c h => hcs c (List.mem_cons_of_mem _ h)) (fun d h => hds d (List.mem_cons_of_mem _ h))]

/-- **ASCII texts are in the order of their bytes.** -/
theorem textBytes_lt_iff {s t : String} (hs : ∀ c ∈ s.toList, c.toNat < 128)
    (ht : ∀ c ∈ t.toList, c.toNat < 128) : textBytes s < textBytes t ↔ s.toList < t.toList := by
  rw [textBytes_eq, textBytes_eq, encoded_lt_iff hs ht]

end Postgres

/-! ## Digits -/

namespace Number

variable {cs ds : List Char}

/-- The first digit counts for the most. -/
theorem ofDigitChars_cons (c : Char) (cs : List Char) :
    Nat.ofDigitChars 10 (c :: cs) 0 = 10 ^ cs.length * (c.toNat - 48) + Nat.ofDigitChars 10 cs 0 := by
  rw [Nat.ofDigitChars_cons, Nat.ofDigitChars_eq_ofDigitChars_zero, Nat.mul_zero, Nat.zero_add]
  rfl

/-- As many digits as there are make a number below this power of ten. -/
theorem ofDigitChars_lt (h : ∀ c ∈ cs, c.isDigit = true) : Nat.ofDigitChars 10 cs 0 < 10 ^ cs.length := by
  induction cs with
  | nil => exact Nat.one_pos
  | cons c cs ih =>
    have hc := toNat_of_isDigit (h c List.mem_cons_self)
    have hrest := ih fun d hd => h d (List.mem_cons_of_mem _ hd)
    rw [ofDigitChars_cons, List.length_cons, Nat.pow_succ]
    calc 10 ^ cs.length * (c.toNat - 48) + Nat.ofDigitChars 10 cs 0
        < 10 ^ cs.length * (c.toNat - 48) + 10 ^ cs.length := Nat.add_lt_add_left hrest _
      _ = 10 ^ cs.length * (c.toNat - 48 + 1) := (Nat.mul_succ _ _).symm
      _ ≤ 10 ^ cs.length * 10 := Nat.mul_le_mul_left _ (by omega)

/-- **Digits are in the order of their number**, if there are equally many. -/
theorem lt_iff_ofDigitChars_lt (hcs : ∀ c ∈ cs, c.isDigit = true) (hds : ∀ d ∈ ds, d.isDigit = true)
    (hlength : cs.length = ds.length) :
    cs < ds ↔ Nat.ofDigitChars 10 cs 0 < Nat.ofDigitChars 10 ds 0 := by
  induction cs generalizing ds with
  | nil =>
    obtain rfl := List.length_eq_zero_iff.mp hlength.symm
    exact iff_of_false (List.not_lt_nil _) (Nat.lt_irrefl _)
  | cons c cs ih =>
    cases ds with
    | nil => cases hlength
    | cons d ds =>
      have hcs' : ∀ c ∈ cs, c.isDigit = true := fun c h => hcs c (List.mem_cons_of_mem _ h)
      have hds' : ∀ d ∈ ds, d.isDigit = true := fun d h => hds d (List.mem_cons_of_mem _ h)
      have hlength' : cs.length = ds.length := Nat.succ.inj hlength
      have hc := toNat_of_isDigit (hcs c List.mem_cons_self)
      have hd := toNat_of_isDigit (hds d List.mem_cons_self)
      have hlt : c < d ↔ c.toNat < d.toNat := Iff.rfl
      have hrest := ofDigitChars_lt hcs'
      have hrest' := ofDigitChars_lt hds'
      rw [hlength'] at hrest
      rw [List.cons_lt_cons_iff, ih hcs' hds' hlength', ofDigitChars_cons, ofDigitChars_cons, hlength', hlt,
        ← Char.toNat_inj]
      obtain hfirst | hfirst | hfirst := Nat.lt_trichotomy c.toNat d.toNat
      · have hstep : 10 ^ ds.length * (c.toNat - 48 + 1) ≤ 10 ^ ds.length * (d.toNat - 48) :=
          Nat.mul_le_mul_left _ (by omega)
        rw [Nat.mul_succ] at hstep
        exact iff_of_true (.inl hfirst) (by omega)
      · rw [hfirst, Nat.add_lt_add_iff_left]
        simp
      · have hstep : 10 ^ ds.length * (d.toNat - 48 + 1) ≤ 10 ^ ds.length * (c.toNat - 48) :=
          Nat.mul_le_mul_left _ (by omega)
        rw [Nat.mul_succ] at hstep
        exact iff_of_false (by omega) (by omega)

end Number

/-! ## Padded numbers -/

namespace Date

variable {width m n : Nat}

theorem toList_padded (width n : Nat) :
    (padded width n).toList =
      List.replicate (width - (Nat.toDigits 10 n).length) '0' ++ Nat.toDigits 10 n :=
  String.toList_ofList

theorem isDigit_of_mem_padded {c : Char} (h : c ∈ (padded width n).toList) : c.isDigit = true := by
  rw [toList_padded] at h
  rcases List.mem_append.mp h with hzero | hdigit
  · exact isDigit_of_mem_replicate hzero
  · exact isDigit_of_mem_toDigits hdigit

/-- **A padded number that fits its width** is exactly as wide. -/
theorem length_padded (hwidth : 0 < width) (hn : n < 10 ^ width) : (padded width n).toList.length = width := by
  have hle : (Nat.toDigits 10 n).length ≤ width := (Nat.length_toDigits_le_iff (by decide) hwidth).mpr hn
  rw [toList_padded, List.length_append, List.length_replicate]
  omega

/-- A padded number begins with a digit. -/
theorem exists_padded_eq_cons (hwidth : 0 < width) (hn : n < 10 ^ width) :
    ∃ c cs, (padded width n).toList = c :: cs ∧ c.isDigit = true := by
  have hlength := length_padded hwidth hn
  obtain ⟨c, cs, hcs⟩ := List.exists_cons_of_length_pos (hlength.symm ▸ hwidth)
  exact ⟨c, cs, hcs, isDigit_of_mem_padded (hcs ▸ List.mem_cons_self)⟩

theorem ofDigitChars_padded (width n : Nat) : Nat.ofDigitChars 10 (padded width n).toList 0 = n := by
  rw [toList_padded, Nat.ofDigitChars_append, Nat.ofDigitChars_replicate_zero, Nat.mul_zero,
    Nat.ofDigitChars_ten_toDigits]

/-- **Padded numbers of one width are in the order of the numbers.** -/
theorem padded_lt_padded_iff (hwidth : 0 < width) (hm : m < 10 ^ width) (hn : n < 10 ^ width) :
    (padded width m).toList < (padded width n).toList ↔ m < n := by
  have hlength : (padded width m).toList.length = (padded width n).toList.length := by
    rw [length_padded hwidth hm, length_padded hwidth hn]
  rw [lt_iff_ofDigitChars_lt (fun _ => isDigit_of_mem_padded) (fun _ => isDigit_of_mem_padded) hlength,
    ofDigitChars_padded, ofDigitChars_padded]

theorem padded_inj : (padded width m).toList = (padded width n).toList ↔ m = n := by
  constructor
  · intro h
    rw [← ofDigitChars_padded width m, h, ofDigitChars_padded]
  · rintro rfl
    rfl

/-- **Texts that begin with a padded number** are in the order of the numbers, and then of what is behind
    them. -/
theorem padded_append_lt_iff (hwidth : 0 < width) (hm : m < 10 ^ width) (hn : n < 10 ^ width)
    (mark : Char) (back back' : List Char) :
    (padded width m).toList ++ mark :: back < (padded width n).toList ++ mark :: back' ↔
      m < n ∨ m = n ∧ back < back' := by
  have hlength : (padded width m).toList.length = (padded width n).toList.length := by
    rw [length_padded hwidth hm, length_padded hwidth hn]
  rw [append_lt_append_iff hlength, padded_lt_padded_iff hwidth hm hn, padded_inj, List.cons_lt_cons_iff]
  simp

end Date

/-! ## Reading back -/

namespace Calendar

variable {width n : Nat}

/-- **A padded number is read back**, whatever is behind it. -/
theorem readNumber_padded (hwidth : 0 < width) (hn : n < 10 ^ width) (rest : List Char) :
    readNumber (some width) ((Date.padded width n).toList ++ rest) = .ok (n, rest) := by
  have hlength := Date.length_padded hwidth hn
  have hvalue : digitsValue (Date.padded width n).toList = n := Date.ofDigitChars_padded width n
  have htake : (((Date.padded width n).toList ++ rest).takeWhile Char.isDigit).take width =
      (Date.padded width n).toList := by
    rw [List.takeWhile_append_of_pos fun _ => Date.isDigit_of_mem_padded, List.take_left' hlength]
  obtain ⟨c, cs, hcs, -⟩ := Date.exists_padded_eq_cons hwidth hn
  unfold readNumber
  simp only [Option.map_some, Option.getD_some, htake]
  rw [hcs, List.cons_append]
  simp only
  rw [← List.cons_append, ← hcs, hvalue, List.drop_left]

end Calendar

end FluentSql
