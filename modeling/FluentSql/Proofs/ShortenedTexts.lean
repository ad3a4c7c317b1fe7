import FluentSql.Proofs.ByteOffsets
/-!
# `FluentSql.Proofs.ShortenedTexts` — texts cut at a number of bytes

A logged text above the limit is cut behind the last character that fits whole (`takeBytes`). The same can
be done on bytes alone: from the limit back to the next offset that is not inside of a character, which the
byte at the offset tells, and a cut there (`cutBytes?`). A cut inside of a character would fail.

* `prefix_takeBytes_iff` — what is taken is the longest that fits;
* `isBoundary_encoded_iff` — the byte at an offset tells whether a character ends there;
* `cuts_at_character` — no cut fails, whatever the text and the limit, and what is logged.
-/

namespace FluentSql

open FluentSql.Text Placeholder

/-! ## As many characters as fit -/

/-- **What is taken is the longest that fits**: the beginnings of it are the beginnings of the text that
    fit. -/
theorem prefix_takeBytes_iff {most : Nat} {cs part : List Char} :
    part <+: takeBytes most cs ↔ part <+: cs ∧ byteLength part ≤ most := by
  induction cs generalizing most part with
  | nil =>
    rw [takeBytes]
    constructor
    · intro h
      rw [List.prefix_nil.mp h]
      exact ⟨List.nil_prefix, Nat.zero_le _⟩
    · exact fun h => h.1
  | cons c cs ih =>
    cases part with
    | nil => exact ⟨fun _ => ⟨List.nil_prefix, Nat.zero_le _⟩, fun _ => List.nil_prefix⟩
    | cons d part =>
      rw [takeBytes, List.cons_prefix_cons, byteLength]
      by_cases hc : c.utf8Size ≤ most
      · rw [if_pos hc, List.cons_prefix_cons, ih]
        constructor
        · rintro ⟨rfl, hpart, hfits⟩
          exact ⟨⟨rfl, hpart⟩, by omega⟩
        · rintro ⟨⟨rfl, hpart⟩, hfits⟩
          exact ⟨rfl, hpart, by omega⟩
      · rw [if_neg hc]
        constructor
        · intro h
          exact absurd (List.prefix_nil.mp h) (List.cons_ne_nil d part)
        · rintro ⟨⟨rfl, -⟩, hfits⟩
          omega

/-- What is taken of a longer text falls short of the limit by less than one character. -/
theorem lt_byteLength_takeBytes_add {most : Nat} {cs : List Char} (h : most < byteLength cs) :
    most < byteLength (takeBytes most cs) + 4 := by
  induction cs generalizing most with
  | nil => exact absurd h (Nat.not_lt_zero most)
  | cons c cs ih =>
    rw [byteLength] at h
    rw [takeBytes]
    by_cases hc : c.utf8Size ≤ most
    · have hrest : most - c.utf8Size < byteLength (takeBytes (most - c.utf8Size) cs) + 4 := ih (by omega)
      rw [if_pos hc, byteLength]
      omega
    · have hsize : c.utf8Size ≤ 4 := Char.utf8Size_le_four c
      rw [if_neg hc, byteLength]
      omega

theorem byteLength_toList (s : String) : byteLength s.toList = s.utf8ByteSize := by
  rw [← length_encoded, ← bytesOf_eq]
  rfl

/-! ## Offsets between characters -/

/-- Whether a byte goes on with a character that began before it. -/
def continues (b : UInt8) : Bool := 0x80 ≤ b && b < 0xC0

/-- **Whether a text can be cut at an offset**, by its bytes: where it begins or ends, and before a byte
    that begins a character. -/
def isBoundary (bytes : List UInt8) (i : Nat) : Bool :=
  i == 0 ||
    match bytes[i]? with
    | some b => !continues b
    | none => i == bytes.length

/-- The first offset at which a text can be cut, from an offset on backwards. -/
def stepBack (bytes : List UInt8) : Nat → Nat
  | 0 => 0
  | i + 1 => if isBoundary bytes (i + 1) then i + 1 else stepBack bytes i

/-- **Cutting by bytes**: a text above the limit is cut at the last offset up to the limit that is a
    boundary, and `none` if that is inside of a character after all. -/
def cutBytes? (most : Nat) (sql : String) : Option String :=
  if (bytesOf sql).length ≤ most then some sql
  else (slice? sql.toList 0 (stepBack (bytesOf sql) most)).map String.ofList

theorem continues_iff {b : UInt8} : continues b = true ↔ 128 ≤ b.toNat ∧ b.toNat < 192 := by
  rw [continues, Bool.and_eq_true, decide_eq_true_iff, decide_eq_true_iff, UInt8.le_iff_toNat_le,
    UInt8.lt_iff_toNat_lt]
  rfl

theorem continues_ofNat {n : Nat} (hlow : 128 ≤ n) (hhigh : n < 192) :
    continues (UInt8.ofNat n) = true := by
  rw [continues_iff, UInt8.toNat_ofNat']
  omega

theorem continues_ofNat_eq_false {n : Nat} (h : n < 128 ∨ 192 ≤ n ∧ n < 256) :
    continues (UInt8.ofNat n) = false := by
  rw [← Bool.not_eq_true, continues_iff, UInt8.toNat_ofNat']
  omega

/-- **The bytes of a character**: the first one begins it, and all others go on with it. -/
theorem exists_utf8EncodeChar (c : Char) :
    ∃ b bs, String.utf8EncodeChar c = b :: bs ∧ continues b = false ∧ ∀ d ∈ bs, continues d = true := by
  have hlast : c.val.toNat < 1114112 := by
    rcases c.valid with h | ⟨-, h⟩
    · exact Nat.lt_trans h (by decide)
    · exact h
  rw [String.utf8EncodeChar]
  -- one byte, two, three or four: a marker in front, and remainders of six bits
  split
  · exact ⟨_, [], rfl, continues_ofNat_eq_false (.inl (by omega)), List.forall_mem_nil _⟩
  · split
    · refine ⟨_, _, rfl, continues_ofNat_eq_false (.inr (by omega)), ?_⟩
      exact List.forall_mem_singleton.mpr (continues_ofNat (by omega) (by omega))
    · split
      · refine ⟨_, _, rfl, continues_ofNat_eq_false (.inr (by omega)), ?_⟩
        simp only [List.forall_mem_cons]
        exact ⟨continues_ofNat (by omega) (by omega), continues_ofNat (by omega) (by omega),
          List.forall_mem_nil _⟩
      · refine ⟨_, _, rfl, continues_ofNat_eq_false (.inr (by omega)), ?_⟩
        simp only [List.forall_mem_cons]
        exact ⟨continues_ofNat (by omega) (by omega), continues_ofNat (by omega) (by omega),
          continues_ofNat (by omega) (by omega), List.forall_mem_nil _⟩

/-- **An offset between characters**: behind some characters that begin the text. -/
def FallsBetween (cs : List Char) (i : Nat) : Prop := ∃ part, part <+: cs ∧ byteLength part = i

theorem fallsBetween_nil_iff {i : Nat} : FallsBetween [] i ↔ i = 0 := by
  constructor
  · rintro ⟨part, hpart, rfl⟩
    rw [List.prefix_nil.mp hpart]
    rfl
  · rintro rfl
    exact ⟨[], List.nil_prefix, rfl⟩

/-- Behind the first character an offset is between characters where it is in the rest. -/
theorem fallsBetween_cons_iff {c : Char} {cs : List Char} {i : Nat} :
    FallsBetween (c :: cs) i ↔ i = 0 ∨ ∃ j, i = c.utf8Size + j ∧ FallsBetween cs j := by
  constructor
  · rintro ⟨part, hpart, rfl⟩
    cases part with
    | nil => exact .inl rfl
    | cons d part =>
      obtain ⟨rfl, hrest⟩ := List.cons_prefix_cons.mp hpart
      exact .inr ⟨byteLength part, rfl, part, hrest, rfl⟩
  · rintro (rfl | ⟨j, rfl, part, hpart, rfl⟩)
    · exact ⟨[], List.nil_prefix, rfl⟩
    · exact ⟨c :: part, List.cons_prefix_cons.mpr ⟨rfl, hpart⟩, rfl⟩

/-- A text can be cut before its first character. -/
theorem isBoundary_zero (bytes : List UInt8) : isBoundary bytes 0 = true := rfl

/-- No text can be cut inside of its first character. -/
theorem isBoundary_encoded_cons_of_lt {c : Char} {cs : List Char} {i : Nat} (hpos : 0 < i)
    (hlt : i < c.utf8Size) : isBoundary (encoded (c :: cs)) i = false := by
  obtain ⟨b, bs, hbytes, -, hrest⟩ := exists_utf8EncodeChar c
  have hlength : bs.length + 1 = c.utf8Size := by
    rw [← String.length_utf8EncodeChar, hbytes, List.length_cons]
  obtain ⟨j, rfl⟩ : ∃ j, i = j + 1 := ⟨i - 1, by omega⟩
  have hj : j < bs.length := by omega
  have hget : (encoded (c :: cs))[j + 1]? = some bs[j] := by
    rw [encoded_cons, hbytes, List.cons_append, List.getElem?_cons_succ, List.getElem?_append_left hj,
      List.getElem?_eq_getElem hj]
  rw [isBoundary, hget]
  simp [hrest _ (List.getElem_mem hj)]

/-- Behind the first character a text can be cut where the rest can. -/
theorem isBoundary_encoded_cons_add (c : Char) (cs : List Char) (i : Nat) :
    isBoundary (encoded (c :: cs)) (c.utf8Size + i) = isBoundary (encoded cs) i := by
  have hpos : 0 < c.utf8Size := Char.utf8Size_pos c
  have hget : (encoded (c :: cs))[c.utf8Size + i]? = (encoded cs)[i]? := by
    rw [encoded_cons, List.getElem?_append_right (by rw [String.length_utf8EncodeChar]; omega),
      String.length_utf8EncodeChar, Nat.add_sub_cancel_left]
  have hlength : (encoded (c :: cs)).length = c.utf8Size + (encoded cs).length := by
    rw [encoded_cons, List.length_append, String.length_utf8EncodeChar]
  have hzero : (c.utf8Size + i == 0) = false := by
    rw [beq_eq_false_iff_ne]
    omega
  have hend : (c.utf8Size + i == c.utf8Size + (encoded cs).length) = (i == (encoded cs).length) := by
    rw [Bool.eq_iff_iff, beq_iff_eq, beq_iff_eq]
    omega
  rw [isBoundary, isBoundary, hget, hlength, hzero, hend, Bool.false_or]
  cases i with
  | succ i => rfl
  | zero =>
    -- what stands behind the first character begins with a first byte, or is nothing
    cases cs with
    | nil => rfl
    | cons d ds =>
      obtain ⟨b, bs, hbytes, hb, -⟩ := exists_utf8EncodeChar d
      rw [encoded_cons, hbytes]
      show (!continues b) = true
      rw [hb]
      rfl

/-- **The byte at an offset tells** whether the text can be cut there: exactly between characters. -/
theorem isBoundary_encoded_iff {cs : List Char} {i : Nat} :
    isBoundary (encoded cs) i = true ↔ FallsBetween cs i := by
  induction cs generalizing i with
  | nil =>
    rw [fallsBetween_nil_iff]
    constructor
    · intro h
      rcases Bool.or_eq_true_iff.mp h with hzero | hend
      · exact beq_iff_eq.mp hzero
      · exact beq_iff_eq.mp hend
    · rintro rfl
      rfl
  | cons c cs ih =>
    rw [fallsBetween_cons_iff]
    by_cases hzero : i = 0
    · rw [hzero]
      exact ⟨fun _ => .inl rfl, fun _ => rfl⟩
    · by_cases hlt : i < c.utf8Size
      · rw [isBoundary_encoded_cons_of_lt (by omega) hlt]
        constructor
        · intro h
          cases h
        · rintro (hi | ⟨j, rfl, -⟩)
          · exact absurd hi hzero
          · omega
      · obtain ⟨j, rfl⟩ : ∃ j, i = c.utf8Size + j := ⟨i - c.utf8Size, by omega⟩
        rw [isBoundary_encoded_cons_add, ih]
        constructor
        · exact fun h => .inr ⟨j, rfl, h⟩
        · rintro (hi | ⟨k, hk, h⟩)
          · exact absurd hi hzero
          · rwa [Nat.add_left_cancel hk]

/-! ## The cut -/

theorem isBoundary_stepBack (bytes : List UInt8) (i : Nat) : isBoundary bytes (stepBack bytes i) = true := by
  induction i with
  | zero => exact isBoundary_zero bytes
  | succ i ih =>
    rw [stepBack]
    split
    · assumption
    · exact ih

theorem stepBack_le (bytes : List UInt8) (i : Nat) : stepBack bytes i ≤ i := by
  induction i with
  | zero => exact Nat.le_refl 0
  | succ i ih =>
    rw [stepBack]
    split
    · exact Nat.le_refl _
    · omega

/-- No boundary is passed on the way back. -/
theorem le_stepBack {bytes : List UInt8} {i j : Nat} (hj : isBoundary bytes j = true) (hle : j ≤ i) :
    j ≤ stepBack bytes i := by
  induction i with
  | zero => exact hle
  | succ i ih =>
    rw [stepBack]
    split
    · exact hle
    · rename_i hi
      have hne : j ≠ i + 1 := fun heq => hi (heq ▸ hj)
      exact ih (by omega)

/-- The way back ends behind the characters that fit. -/
theorem stepBack_encoded (most : Nat) (cs : List Char) :
    stepBack (encoded cs) most = byteLength (takeBytes most cs) := by
  apply Nat.le_antisymm
  · obtain ⟨part, hpart, hlength⟩ := isBoundary_encoded_iff.mp (isBoundary_stepBack (encoded cs) most)
    have hfits : byteLength part ≤ most := hlength ▸ stepBack_le (encoded cs) most
    obtain ⟨back, hback⟩ := prefix_takeBytes_iff.mpr ⟨hpart, hfits⟩
    rw [← hlength, ← hback, byteLength_append]
    exact Nat.le_add_right _ _
  · have hboundary := isBoundary_encoded_iff.mpr ⟨_, takeBytes_isPrefix most cs, rfl⟩
    exact le_stepBack hboundary (byteLength_takeBytes_le most cs)

/-- A text that fits is taken as a whole. -/
theorem takeBytes_of_le {most : Nat} {cs : List Char} (h : byteLength cs ≤ most) :
    takeBytes most cs = cs :=
  ((takeBytes_isPrefix most cs).eq_of_length_le
    (prefix_takeBytes_iff.mpr ⟨List.prefix_rfl, h⟩).length_le)

/-- **No cut fails**: by bytes, as much is kept as characters fit. -/
theorem cutBytes?_eq (most : Nat) (sql : String) :
    cutBytes? most sql = some (String.ofList (takeBytes most sql.toList)) := by
  rw [cutBytes?, bytesOf_eq, length_encoded, stepBack_encoded]
  by_cases h : byteLength sql.toList ≤ most
  · rw [if_pos h, takeBytes_of_le h, String.ofList_toList]
  · obtain ⟨back, hback⟩ := takeBytes_isPrefix most sql.toList
    have hslice := slice?_append [] (takeBytes most sql.toList) back
    rw [List.nil_append, List.nil_append, hback] at hslice
    rw [if_neg h]
    exact congrArg (Option.map String.ofList) hslice

/-- **A text above a limit is cut between characters**, for any text and any limit. The cut by bytes does
    not fail, and it keeps the longest beginning of the text that is within the limit: less than four bytes
    below it if the text is longer.

    A text is logged as it is if there is no limit or it is within the limit, and else what the cut keeps
    is logged, with three dots behind it. -/
theorem cuts_at_character (most : Nat) (sql : String) :
    ∃ kept : String,
      cutBytes? most sql = some kept ∧
      kept.toList <+: sql.toList ∧ kept.utf8ByteSize ≤ most ∧
      (∀ part : String, part.toList <+: sql.toList → part.utf8ByteSize ≤ most →
        part.toList <+: kept.toList) ∧
      (most < sql.utf8ByteSize → most < kept.utf8ByteSize + 4) ∧
      ∀ logger : Logger,
        Logger.shorten { logger with maxLength := none } sql = sql ∧
        Logger.shorten { logger with maxLength := some most } sql =
          if sql.utf8ByteSize ≤ most then sql else kept ++ "..." := by
  have hkept : (String.ofList (takeBytes most sql.toList)).toList = takeBytes most sql.toList :=
    String.toList_ofList
  refine ⟨_, cutBytes?_eq most sql, ?_, ?_, ?_, ?_, fun logger => ⟨rfl, ?_⟩⟩
  · rw [hkept]
    exact takeBytes_isPrefix most sql.toList
  · rw [← byteLength_toList, hkept]
    exact byteLength_takeBytes_le most sql.toList
  · intro part hpart hfits
    rw [hkept]
    exact prefix_takeBytes_iff.mpr ⟨hpart, (byteLength_toList part).symm ▸ hfits⟩
  · intro hlong
    rw [← byteLength_toList, hkept]
    exact lt_byteLength_takeBytes_add ((byteLength_toList sql).symm ▸ hlong)
  · show (if byteLength sql.toList ≤ most then sql
      else String.ofList (takeBytes most sql.toList ++ ['.', '.', '.'])) = _
    rw [byteLength_toList, String.ofList_append]

/-- A limit inside of a character, and one inside of the first character. -/
theorem accented_cut :
    2 < "héllo".utf8ByteSize ∧ cutBytes? 2 "héllo" = some "h" ∧ 2 < "h".utf8ByteSize + 4 ∧
      Logger.shorten { maxLength := some 2 } "héllo" = "h..." ∧
      Logger.shorten { maxLength := some 3 } "€" = "€" ∧
      Logger.shorten { maxLength := some 2 } "€" = "..." := by
  have hlong : 2 < "héllo".utf8ByteSize := by decide +kernel
  have hcut : cutBytes? 2 "héllo" = some "h" := by decide +kernel
  have hempty : cutBytes? 2 "€" = some "" := by decide +kernel
  obtain ⟨kept, hkept, -, -, -, hshort, hlogged⟩ := cuts_at_character 2 "héllo"
  obtain ⟨rest, hrest, -, -, -, -, hrestLogged⟩ := cuts_at_character 2 "€"
  obtain ⟨whole, -, -, -, -, -, hwholeLogged⟩ := cuts_at_character 3 "€"
  obtain rfl : "h" = kept := Option.some.inj (hcut.symm.trans hkept)
  obtain rfl : "" = rest := Option.some.inj (hempty.symm.trans hrest)
  exact ⟨hlong, hcut, hshort hlong, (hlogged {}).2.trans (by decide +kernel),
    (hwholeLogged {}).2.trans (if_pos (by decide +kernel)), (hrestLogged {}).2.trans (by decide +kernel)⟩

end FluentSql
