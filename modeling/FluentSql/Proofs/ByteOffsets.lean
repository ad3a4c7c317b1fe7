import FluentSql.Logger
import FluentSql.Proofs.Lexemes
import FluentSql.Text.Utf8
/-!
# `FluentSql.Proofs.ByteOffsets` — scanning by byte offsets

A scanner need not look at characters: the quotes, colons and names that it looks for are ASCII, and no
byte of a longer character is. `scanBytes` goes through the bytes of a text with two offsets, the one it
reads at and the one up to which the text is copied. It cuts the text at these offsets, and a cut inside
of a character, behind the end or in the wrong order fails.

* `cutAt?` — a text cut at a byte offset, or `none`;
* `scanBytes_eq` — no cut fails, although the reading offset passes the end behind an open quote, and
  what is written is what the scanner of characters writes;
* `replaceM_lexemes` — both scanners against the lexemes of the text.
-/

namespace FluentSql.Placeholder

open FluentSql.Text

/-! ## Cutting at byte offsets -/

/-- **A text cut at a byte offset**: what stands before it and behind it, `none` if the offset is inside
    of a character or behind the end. -/
def cutAt? : Nat → List Char → Option (List Char × List Char)
  | 0, cs => some ([], cs)
  | _ + 1, [] => none
  | n + 1, c :: cs =>
    if c.utf8Size ≤ n + 1 then (cutAt? (n + 1 - c.utf8Size) cs).map fun parts => (c :: parts.1, parts.2)
    else none

/-- **The text between two byte offsets**, `none` if it cannot be cut at them. -/
def slice? (cs : List Char) (i j : Nat) : Option (List Char) :=
  if i ≤ j then
    (cutAt? i cs).bind fun parts => (cutAt? (j - i) parts.2).map Prod.fst
  else none

/-! ## The scanner -/

/-- The bytes of a text. -/
def bytesOf (sql : String) : List UInt8 :=
  sql.toUTF8.data.toList

/-- The character with the code of a byte. -/
def ofByte (b : UInt8) : Char := Char.ofNat b.toNat

/-- The offset behind a quoted region, from an offset inside of it. A region that nothing closes ends
    one offset behind the end of the text. -/
def regionEnd (bytes : List UInt8) (q : UInt8) (i : Nat) : Nat :=
  if h : i < bytes.length then
    if bytes[i] = q then
      if bytes[i + 1]? = some q then regionEnd bytes q (i + 2) else i + 1
    else regionEnd bytes q (i + 1)
  else i + 1
termination_by bytes.length - i

/-- The offset behind a run of name characters. -/
def wordEnd (bytes : List UInt8) (i : Nat) : Nat :=
  if h : i < bytes.length then
    if isNameChar (ofByte bytes[i]) then wordEnd bytes (i + 1) else i
  else i
termination_by bytes.length - i

theorem le_regionEnd (bytes : List UInt8) (q : UInt8) (i : Nat) : i ≤ regionEnd bytes q i := by
  fun_induction regionEnd bytes q i with
  | case1 i _ _ _ ih => omega
  | case2 i _ _ _ => omega
  | case3 i _ _ ih => omega
  | case4 i _ => omega

theorem le_wordEnd (bytes : List UInt8) (i : Nat) : i ≤ wordEnd bytes i := by
  fun_induction wordEnd bytes i with
  | case1 i _ _ ih => omega
  | case2 i _ _ => omega
  | case3 i _ => omega

variable {m : Type → Type} [Monad m]

/-- A cut, in a computation that fails with it. -/
def cut (part : Option (List Char)) : OptionT m (List Char) := OptionT.mk (pure part)

/-- **Scanning from a byte offset**: `i` is the offset that is read at, `copied` the one up to which the
    text is in `out`. -/
def scanFrom (f : String → m (Option String)) (bytes : List UInt8) (cs : List Char) (i copied : Nat)
    (out : List Char) : OptionT m (List Char) :=
  if h : i < bytes.length then
    if isQuote (ofByte bytes[i]) then
      scanFrom f bytes cs (regionEnd bytes bytes[i] (i + 1)) copied out
    else if ofByte bytes[i] = ':' ∧ (bytes[i + 1]?.any fun b => ofByte b = ':') then
      scanFrom f bytes cs (i + 2) copied out
    else if ofByte bytes[i] = ':' ∧ (bytes[i + 1]?.any fun b => isNameStart (ofByte b)) then do
      let token ← cut (slice? cs i (wordEnd bytes (i + 1)))
      match ← OptionT.lift (f (String.ofList token)) with
      | some answer =>
        let kept ← cut (slice? cs copied i)
        scanFrom f bytes cs (wordEnd bytes (i + 1)) (wordEnd bytes (i + 1)) (out ++ kept ++ answer.toList)
      | none => scanFrom f bytes cs (wordEnd bytes (i + 1)) copied out
    else scanFrom f bytes cs (i + 1) copied out
  else do
    let kept ← cut (slice? cs (min copied bytes.length) bytes.length)
    pure (out ++ kept)
termination_by bytes.length - i
decreasing_by
  · have hregion := le_regionEnd bytes bytes[i] (i + 1)
    omega
  · omega
  · have hword := le_wordEnd bytes (i + 1)
    omega
  · have hword := le_wordEnd bytes (i + 1)
    omega
  · omega

/-- **Replacing placeholders by byte offsets.** -/
def scanBytes (f : String → m (Option String)) (sql : String) : OptionT m String := do
  pure (String.ofList (← scanFrom f (bytesOf sql) sql.toList 0 0 []))

/-! ## Cuts that do not fail -/

/-- A text is cut between its characters. -/
theorem cutAt?_append (front back : List Char) :
    cutAt? (byteLength front) (front ++ back) = some (front, back) := by
  induction front with
  | nil => exact cutAt?.eq_1 back
  | cons c front ih =>
    have hpos : 0 < c.utf8Size := Char.utf8Size_pos c
    obtain ⟨n, hn⟩ : ∃ n, byteLength (c :: front) = n + 1 := by
      refine ⟨byteLength (c :: front) - 1, ?_⟩
      rw [byteLength]
      omega
    have hrest : n + 1 - c.utf8Size = byteLength front := by
      rw [← hn, byteLength]
      omega
    have hle : c.utf8Size ≤ n + 1 := by
      rw [← hn, byteLength]
      omega
    rw [hn, List.cons_append, cutAt?, if_pos hle, hrest, ih]
    rfl

theorem byteLength_append (front back : List Char) :
    byteLength (front ++ back) = byteLength front + byteLength back := by
  induction front with
  | nil => exact (Nat.zero_add _).symm
  | cons c front ih =>
    rw [List.cons_append, byteLength, byteLength, ih]
    omega

/-- The text between two offsets that are between characters. -/
theorem slice?_append (front part back : List Char) :
    slice? (front ++ (part ++ back)) (byteLength front) (byteLength (front ++ part)) = some part := by
  have hle : byteLength front ≤ byteLength (front ++ part) := by
    rw [byteLength_append]
    omega
  have hpart : byteLength (front ++ part) - byteLength front = byteLength part := by
    rw [byteLength_append]
    omega
  rw [slice?, if_pos hle, hpart, cutAt?_append, Option.bind_some, cutAt?_append]
  rfl

/-! ## Bytes -/

/-- The bytes of characters. -/
def encoded (cs : List Char) : List UInt8 :=
  cs.flatMap String.utf8EncodeChar

theorem bytesOf_eq (sql : String) : bytesOf sql = encoded sql.toList := by
  rw [bytesOf, String.toUTF8_eq_toByteArray, ← String.utf8Encode_toList, List.utf8Encode,
    List.data_toByteArray]
  rfl

theorem encoded_append (cs ds : List Char) : encoded (cs ++ ds) = encoded cs ++ encoded ds :=
  List.flatMap_append

theorem encoded_cons (c : Char) (cs : List Char) :
    encoded (c :: cs) = String.utf8EncodeChar c ++ encoded cs :=
  List.flatMap_cons

theorem length_encoded (cs : List Char) : (encoded cs).length = byteLength cs := by
  induction cs with
  | nil => rfl
  | cons c cs ih => rw [encoded_cons, List.length_append, String.length_utf8EncodeChar, ih, byteLength]

/-- **A class of ASCII characters.** -/
def IsAscii (p : Char → Bool) : Prop := ∀ c, p c = true → c.toNat < 128

theorem toNat_ofByte (b : UInt8) : (ofByte b).toNat = b.toNat := by
  have hlt : b.toNat < 256 := b.toNat_lt
  have hvalid : b.toNat.isValidChar := Or.inl (by omega)
  rw [ofByte, Char.ofNat, dif_pos hvalid]
  rfl

/-- An ASCII character is one byte, with its code. -/
theorem utf8EncodeChar_of_lt {c : Char} (h : c.toNat < 128) :
    String.utf8EncodeChar c = [UInt8.ofNat c.toNat] := by
  have hle : c.val.toNat ≤ 127 := Nat.le_of_lt_succ h
  rw [String.utf8EncodeChar]
  simp only [if_pos hle]
  rfl

theorem ofByte_of_lt {c : Char} (h : c.toNat < 128) : ofByte (UInt8.ofNat c.toNat) = c := by
  have hbyte : (UInt8.ofNat c.toNat).toNat = c.toNat := by
    rw [UInt8.toNat_ofNat']
    omega
  rw [ofByte, hbyte]
  exact Char.ofNat_toNat c

theorem ofByte_of_mem {c : Char} (h : c.toNat < 128) {b : UInt8} (hb : b ∈ String.utf8EncodeChar c) :
    ofByte b = c := by
  rw [utf8EncodeChar_of_lt h, List.mem_singleton] at hb
  rw [hb, ofByte_of_lt h]

/-- No byte of a longer character is ASCII. -/
theorem le_toNat_of_mem {c : Char} (h : 128 ≤ c.toNat) {b : UInt8}
    (hb : b ∈ String.utf8EncodeChar c) : 128 ≤ b.toNat := by
  have hgt : ¬c.val.toNat ≤ 127 := Nat.not_le.mpr h
  rw [String.utf8EncodeChar] at hb
  simp only [if_neg hgt] at hb
  -- two, three or four bytes, each a remainder of at most six bits above a marker of 128 or more
  split at hb
  · simp only [List.mem_cons, List.not_mem_nil, or_false] at hb
    rcases hb with rfl | rfl
    all_goals
      rw [UInt8.toNat_ofNat']
      omega
  · split at hb
    · simp only [List.mem_cons, List.not_mem_nil, or_false] at hb
      rcases hb with rfl | rfl | rfl
      all_goals
        rw [UInt8.toNat_ofNat']
        omega
    · simp only [List.mem_cons, List.not_mem_nil, or_false] at hb
      rcases hb with rfl | rfl | rfl | rfl
      all_goals
        rw [UInt8.toNat_ofNat']
        omega

/-- No byte of a longer character is in a class of ASCII characters. -/
theorem IsAscii.eq_false {p : Char → Bool} (hp : IsAscii p) {c : Char} (h : 128 ≤ c.toNat) {b : UInt8}
    (hb : b ∈ String.utf8EncodeChar c) : p (ofByte b) = false := by
  have hbyte : 128 ≤ b.toNat := le_toNat_of_mem h hb
  cases hpb : p (ofByte b) with
  | false => rfl
  | true =>
    have hlt := hp _ hpb
    rw [toNat_ofByte] at hlt
    omega

/-- **The first byte of a text** tells whether its first character is in a class of ASCII characters. -/
theorem IsAscii.any_head? {p : Char → Bool} (hp : IsAscii p) (cs : List Char) :
    ((encoded cs).head?.any fun b => p (ofByte b)) = cs.head?.any p := by
  cases cs with
  | nil => rfl
  | cons c cs =>
    rw [encoded_cons]
    by_cases h : c.toNat < 128
    · rw [utf8EncodeChar_of_lt h]
      exact congrArg p (ofByte_of_lt h)
    · have hle : 128 ≤ c.toNat := Nat.le_of_not_lt h
      have hc : p c = false := by
        cases hpc : p c with
        | false => rfl
        | true => exact absurd (hp c hpc) h
      cases hbytes : String.utf8EncodeChar c with
      | nil =>
        have hlength := String.length_utf8EncodeChar c
        rw [hbytes] at hlength
        exact absurd hlength (Nat.ne_of_lt (Char.utf8Size_pos c))
      | cons b bs =>
        have hb : p (ofByte b) = false := hp.eq_false hle (by rw [hbytes]; exact List.mem_cons_self)
        show p (ofByte b) = p c
        rw [hb, hc]

theorem isAscii_of_eq {q : Char} (h : q.toNat < 128) : IsAscii (fun c => c = q) := by
  intro c hc
  rw [of_decide_eq_true hc]
  exact h

theorem toNat_lt_of_isAlphanum {c : Char} (h : c.isAlphanum = true) : c.toNat < 128 := by
  have hval : c.toNat = c.val.toNat := rfl
  rcases Bool.or_eq_true_iff.mp h with hletter | hdigit
  · rcases Bool.or_eq_true_iff.mp hletter with hupper | hlower
    · have hle := UInt32.le_iff_toNat_le.mp (of_decide_eq_true hupper).2
      have hlast : 'Z'.val.toNat = 90 := rfl
      omega
    · have hle := UInt32.le_iff_toNat_le.mp (of_decide_eq_true (Bool.and_eq_true_iff.mp hlower).2)
      have hlast : 'z'.val.toNat = 122 := rfl
      omega
  · have hle := (Char.isDigit_iff_toNat.mp hdigit).2
    have hlast : '9'.toNat = 57 := rfl
    omega

theorem isAscii_isNameChar : IsAscii isNameChar := by
  intro c hc
  rcases Bool.or_eq_true_iff.mp hc with halpha | hunderscore
  · exact toNat_lt_of_isAlphanum halpha
  · rw [eq_of_beq hunderscore]
    decide

theorem isAscii_isNameStart : IsAscii isNameStart := by
  intro c hc
  rcases Bool.or_eq_true_iff.mp hc with halpha | hunderscore
  · exact toNat_lt_of_isAlphanum (Bool.or_eq_true_iff.mpr (Or.inl halpha))
  · rw [eq_of_beq hunderscore]
    decide

theorem isAscii_isQuote : IsAscii isQuote := by
  intro c hc
  simp only [isQuote, Bool.or_eq_true, beq_iff_eq] at hc
  rcases hc with (rfl | rfl) | rfl <;> decide

/-! ## Where the offsets lead -/

section Offsets

variable {bytes back : List UInt8} {i : Nat}

theorem getElem?_of_drop {b : UInt8} (h : bytes.drop i = b :: back) : bytes[i]? = some b := by
  rw [← List.head?_drop, h]
  rfl

theorem drop_of_drop_cons {b : UInt8} (h : bytes.drop i = b :: back) : bytes.drop (i + 1) = back := by
  rw [← List.drop_drop, h]
  rfl

theorem drop_of_drop_append {bs : List UInt8} (h : bytes.drop i = bs ++ back) :
    bytes.drop (i + bs.length) = back := by
  rw [← List.drop_drop, h, List.drop_left]

theorem getElem?_succ_of_drop {b : UInt8} (h : bytes.drop i = b :: back) :
    bytes[i + 1]? = back.head? := by
  rw [← List.head?_drop, drop_of_drop_cons h]

/-- The byte that is read at an offset. -/
theorem exists_getElem_of_drop {b : UInt8} (h : bytes.drop i = b :: back) :
    ∃ hlt : i < bytes.length, bytes[i] = b :=
  List.getElem?_eq_some_iff.mp (getElem?_of_drop h)

/-- Bytes that are no quote are inside of the region. -/
theorem regionEnd_run {q : UInt8} {bs : List UInt8} (hbs : ∀ b ∈ bs, b ≠ q)
    (h : bytes.drop i = bs ++ back) : regionEnd bytes q i = regionEnd bytes q (i + bs.length) := by
  induction bs generalizing i with
  | nil => rfl
  | cons b bs ih =>
    obtain ⟨hlt, hb⟩ := exists_getElem_of_drop h
    have hne : ¬bytes[i] = q := by
      rw [hb]
      exact hbs b List.mem_cons_self
    rw [regionEnd, dif_pos hlt, if_neg hne,
      ih (fun d hd => hbs d (List.mem_cons_of_mem b hd)) (drop_of_drop_cons h), List.length_cons]
    congr 1
    omega

theorem regionEnd_of_length_le {q : UInt8} (h : bytes.length ≤ i) : regionEnd bytes q i = i + 1 := by
  rw [regionEnd, dif_neg (Nat.not_lt.mpr h)]

/-- Two quotes are inside of the region. -/
theorem regionEnd_quotes {q : UInt8} (h : bytes.drop i = q :: q :: back) :
    regionEnd bytes q i = regionEnd bytes q (i + 2) := by
  obtain ⟨hlt, hq⟩ := exists_getElem_of_drop h
  have hnext : bytes[i + 1]? = some q := getElem?_succ_of_drop h
  rw [regionEnd, dif_pos hlt, if_pos hq, if_pos hnext]

/-- One quote is not. -/
theorem regionEnd_quote {q : UInt8} (h : bytes.drop i = q :: back) (hback : back.head? ≠ some q) :
    regionEnd bytes q i = i + 1 := by
  obtain ⟨hlt, hq⟩ := exists_getElem_of_drop h
  have hnext : bytes[i + 1]? ≠ some q := by
    rw [getElem?_succ_of_drop h]
    exact hback
  rw [regionEnd, dif_pos hlt, if_pos hq, if_neg hnext]

theorem wordEnd_run {bs : List UInt8} (hbs : ∀ b ∈ bs, isNameChar (ofByte b) = true)
    (h : bytes.drop i = bs ++ back) : wordEnd bytes i = wordEnd bytes (i + bs.length) := by
  induction bs generalizing i with
  | nil => rfl
  | cons b bs ih =>
    obtain ⟨hlt, hb⟩ := exists_getElem_of_drop h
    have hname : isNameChar (ofByte bytes[i]) = true := by
      rw [hb]
      exact hbs b List.mem_cons_self
    rw [wordEnd, dif_pos hlt, if_pos hname,
      ih (fun d hd => hbs d (List.mem_cons_of_mem b hd)) (drop_of_drop_cons h), List.length_cons]
    congr 1
    omega

theorem wordEnd_stop (h : bytes.drop i = back)
    (hback : (back.head?.any fun b => isNameChar (ofByte b)) = false) : wordEnd bytes i = i := by
  by_cases hlt : i < bytes.length
  · have hhead : back.head? = some bytes[i] := by
      rw [← h, List.head?_drop]
      exact List.getElem?_eq_getElem hlt
    have hname : ¬isNameChar (ofByte bytes[i]) = true := by
      rw [hhead] at hback
      exact Bool.eq_false_iff.mp hback
    rw [wordEnd, dif_pos hlt, if_neg hname]
  · rw [wordEnd, dif_neg hlt]

end Offsets

/-! ## Lexeme after lexeme -/

section Lexemes

variable {bytes back : List UInt8} {i : Nat}

theorem toNat_lt_of_quote (q : Quote) : q.val.toNat < 128 := isAscii_isQuote q.val q.property

/-- The byte of a quote. -/
def quoteByte (q : Quote) : UInt8 := UInt8.ofNat q.val.toNat

theorem encoded_quote (q : Quote) (cs : List Char) : encoded (q.val :: cs) = quoteByte q :: encoded cs := by
  rw [encoded_cons, utf8EncodeChar_of_lt (toNat_lt_of_quote q)]
  rfl

/-- The byte of a quote stands for that quote alone. -/
theorem eq_of_quoteByte_mem {q : Quote} {c : Char} (h : quoteByte q ∈ String.utf8EncodeChar c) :
    c = q.val := by
  have hascii : IsAscii (fun c => c = q.val) := isAscii_of_eq (toNat_lt_of_quote q)
  have hq : ofByte (quoteByte q) = q.val := ofByte_of_lt (toNat_lt_of_quote q)
  by_cases hlt : c.toNat < 128
  · rw [utf8EncodeChar_of_lt hlt, List.mem_singleton] at h
    rw [← hq, h, ofByte_of_lt hlt]
  · have hfalse := hascii.eq_false (Nat.le_of_not_lt hlt) h
    rw [hq] at hfalse
    exact absurd rfl (of_decide_eq_false hfalse)

/-- **The contents of a region** are passed over, whatever they hold. -/
theorem regionEnd_doubled (q : Quote) (contents : List Char)
    (h : bytes.drop i = encoded (doubled q.val contents) ++ back) :
    regionEnd bytes (quoteByte q) i =
      regionEnd bytes (quoteByte q) (i + byteLength (doubled q.val contents)) := by
  induction contents generalizing i with
  | nil => rfl
  | cons c contents ih =>
    -- the quote is doubled, and no byte of any other character is its byte
    by_cases hc : c = q.val
    · rw [doubled, if_pos hc, encoded_quote, encoded_quote] at h
      rw [regionEnd_quotes h, ih (drop_of_drop_cons (drop_of_drop_cons h)), doubled, if_pos hc,
        ← length_encoded, ← length_encoded, encoded_quote, encoded_quote, List.length_cons,
        List.length_cons]
      congr 1
      omega
    · rw [doubled, if_neg hc, encoded_cons, List.append_assoc] at h
      have hinside : ∀ b ∈ String.utf8EncodeChar c, b ≠ quoteByte q := by
        rintro b hb rfl
        exact hc (eq_of_quoteByte_mem hb)
      rw [regionEnd_run hinside h, ih (drop_of_drop_append h), doubled, if_neg hc,
        String.length_utf8EncodeChar, byteLength]
      congr 1
      omega

/-- The first byte of what stands behind a region. -/
theorem head?_encoded_ne {q : Quote} {rest : List Char} (h : rest.head? ≠ some q.val) :
    (encoded rest).head? ≠ some (quoteByte q) := by
  intro hhead
  have hascii : IsAscii (fun c => c = q.val) := isAscii_of_eq (toNat_lt_of_quote q)
  have hany := hascii.any_head? rest
  rw [hhead] at hany
  have hq : ofByte (quoteByte q) = q.val := ofByte_of_lt (toNat_lt_of_quote q)
  cases rest with
  | nil => cases hhead
  | cons c rest =>
    have hc : (decide (c = q.val)) = true := by
      simpa [hq] using hany.symm
    exact h (congrArg some (of_decide_eq_true hc))

/-- **The end of a region**: behind its quote, or one offset behind the end of the text. -/
theorem regionEnd_text {q : Quote} {contents rest : List Char} {closed : Bool}
    (hends : (Lexeme.quoted q contents closed).Ends rest)
    (h : bytes.drop i = encoded ((Lexeme.quoted q contents closed).text ++ rest)) :
    regionEnd bytes (quoteByte q) (i + 1) =
      i + byteLength (Lexeme.quoted q contents closed).text + if closed then 0 else 1 := by
  have hdrop : bytes.drop i = quoteByte q :: (encoded (doubled q.val contents) ++
      encoded ((if closed then [q.val] else []) ++ rest)) := by
    rw [h, Lexeme.text, List.cons_append, encoded_quote, List.append_assoc, encoded_append]
  have hcontents := drop_of_drop_cons hdrop
  have hbehind := drop_of_drop_append hcontents
  rw [length_encoded] at hbehind
  have hlength : byteLength (Lexeme.quoted q contents closed).text =
      1 + byteLength (doubled q.val contents) + if closed then 1 else 0 := by
    rw [← length_encoded, Lexeme.text, encoded_quote, encoded_append, List.length_cons,
      List.length_append, length_encoded, length_encoded]
    cases closed with
    | true =>
      have hone : byteLength [q.val] = 1 := by
        rw [← length_encoded, encoded_quote]
        rfl
      rw [if_pos rfl, if_pos rfl, hone]
      omega
    | false =>
      simp only [Bool.false_eq_true, if_false, byteLength]
      omega
  rw [regionEnd_doubled q contents hcontents, hlength]
  cases closed with
  | true =>
    rw [if_pos rfl, List.singleton_append, encoded_quote] at hbehind
    rw [regionEnd_quote hbehind (head?_encoded_ne hends)]
    simp only [if_true]
    omega
  | false =>
    have hnil : rest = [] := hends
    have hend : bytes.length ≤ i + 1 + byteLength (doubled q.val contents) := by
      rw [hnil] at hbehind
      exact List.drop_eq_nil_iff.mp hbehind
    rw [regionEnd_of_length_le hend]
    simp only [Bool.false_eq_true, if_false]
    omega

/-- The byte of a colon. -/
theorem encoded_colon (cs : List Char) : encoded (':' :: cs) = 58 :: encoded cs := rfl

theorem isNameChar_of_isNameStart {c : Char} (h : isNameStart c = true) : isNameChar c = true := by
  rcases Bool.or_eq_true_iff.mp h with halpha | hunderscore
  · exact Bool.or_eq_true_iff.mpr (Or.inl (Bool.or_eq_true_iff.mpr (Or.inl halpha)))
  · exact Bool.or_eq_true_iff.mpr (Or.inr hunderscore)

/-- The longest run of name characters, for a lexeme that no name character follows. -/
theorem any_head?_eq_false {p : Char → Bool} (hp : IsAscii p) {rest : List Char}
    (h : ∀ c ∈ rest.head?, p c = false) :
    ((encoded rest).head?.any fun b => p (ofByte b)) = false := by
  rw [hp.any_head?]
  cases hhead : rest.head? with
  | none => rfl
  | some c => exact h c hhead

/-- **The end of a name.** -/
theorem wordEnd_text {first : NameStart} {word : List NameChar} {rest : List Char}
    (hends : (Lexeme.token first word).Ends rest)
    (h : bytes.drop i = encoded ((Lexeme.token first word).text ++ rest)) :
    wordEnd bytes (i + 1) = i + byteLength (Lexeme.token first word).text := by
  have hname : ∀ b ∈ encoded (first.val :: word.map Subtype.val), isNameChar (ofByte b) = true := by
    intro b hb
    obtain ⟨c, hc, hbyte⟩ := List.mem_flatMap.mp hb
    have hchar : isNameChar c = true := by
      rcases List.mem_cons.mp hc with rfl | hmem
      · exact isNameChar_of_isNameStart first.property
      · obtain ⟨d, -, rfl⟩ := List.mem_map.mp hmem
        exact d.property
    rw [ofByte_of_mem (isAscii_isNameChar c hchar) hbyte]
    exact hchar
  have hdrop : bytes.drop i = 58 :: (encoded (first.val :: word.map Subtype.val) ++ encoded rest) := by
    rw [h, Lexeme.text, List.cons_append, encoded_colon, encoded_append]
  have hword := drop_of_drop_cons hdrop
  have hbehind := drop_of_drop_append hword
  rw [wordEnd_run hname hword, wordEnd_stop hbehind (any_head?_eq_false isAscii_isNameChar hends),
    ← length_encoded, Lexeme.text, encoded_colon, List.length_cons]
  omega

variable {m : Type → Type} [Monad m] (f : String → m (Option String)) {cs : List Char} {copied : Nat}
  {out : List Char}

theorem scanFrom_of_length_le (h : bytes.length ≤ i) :
    scanFrom f bytes cs i copied out =
      cut (slice? cs (min copied bytes.length) bytes.length) >>= fun kept => pure (out ++ kept) := by
  rw [scanFrom, dif_neg (Nat.not_lt.mpr h)]

/-- Bytes of which none is a quote or a colon are passed over. -/
theorem scanFrom_run {bs : List UInt8}
    (hbs : ∀ b ∈ bs, isQuote (ofByte b) = false ∧ ofByte b ≠ ':') (h : bytes.drop i = bs ++ back) :
    scanFrom f bytes cs i copied out = scanFrom f bytes cs (i + bs.length) copied out := by
  induction bs generalizing i with
  | nil => rfl
  | cons b bs ih =>
    obtain ⟨hlt, hb⟩ := exists_getElem_of_drop h
    obtain ⟨hquote, hcolon⟩ := hbs b List.mem_cons_self
    rw [scanFrom, dif_pos hlt, hb, if_neg (by rw [hquote]; decide), if_neg (fun h => hcolon h.1),
      if_neg (fun h => hcolon h.1),
      ih (fun d hd => hbs d (List.mem_cons_of_mem b hd)) (drop_of_drop_cons h), List.length_cons]
    congr 1
    omega

/-- **A lexeme that is no placeholder** is passed over. -/
theorem scanFrom_pass {x : Lexeme} (hname : x.name? = none) {rest : List Char} (hends : x.Ends rest)
    (h : bytes.drop i = encoded (x.text ++ rest)) :
    scanFrom f bytes cs i copied out = scanFrom f bytes cs (i + byteLength x.text) copied out := by
  cases x with
  | quoted q contents closed =>
    have hdrop : bytes.drop i = quoteByte q ::
        encoded (doubled q.val contents ++ (if closed then [q.val] else []) ++ rest) := by
      rw [h, Lexeme.text, List.cons_append, encoded_quote]
    obtain ⟨hlt, hb⟩ := exists_getElem_of_drop hdrop
    have hquote : isQuote (ofByte (quoteByte q)) = true := by
      rw [quoteByte, ofByte_of_lt (toNat_lt_of_quote q)]
      exact q.property
    rw [scanFrom, dif_pos hlt, hb, if_pos hquote, regionEnd_text hends h]
    cases closed with
    | true => rfl
    | false =>
      -- behind the end every offset is as good as any other
      have hnil : rest = [] := hends
      have hend : bytes.length ≤ i + byteLength (Lexeme.quoted q contents false).text := by
        rw [hnil, List.append_nil] at h
        have hlength := congrArg List.length h
        rw [List.length_drop, length_encoded] at hlength
        omega
      rw [scanFrom_of_length_le f hend, scanFrom_of_length_le f (Nat.le_add_right_of_le hend)]
  | cast =>
    have hdrop : bytes.drop i = 58 :: 58 :: encoded rest := h
    obtain ⟨hlt, hb⟩ := exists_getElem_of_drop hdrop
    have hcast : ofByte 58 = ':' ∧ (bytes[i + 1]?.any fun b => ofByte b = ':') = true := by
      refine ⟨rfl, ?_⟩
      rw [getElem?_succ_of_drop hdrop]
      rfl
    rw [scanFrom, dif_pos hlt, hb, if_neg (by decide), if_pos hcast]
    rfl
  | token first word => cases hname
  | other c =>
    by_cases hcolon : c.val = ':'
    · have hdrop : bytes.drop i = 58 :: encoded rest := by
        rw [h, Lexeme.text, List.singleton_append, hcolon, encoded_colon]
      obtain ⟨hlt, hb⟩ := exists_getElem_of_drop hdrop
      have hnocast : (bytes[i + 1]?.any fun b => ofByte b = ':') = false := by
        rw [getElem?_succ_of_drop hdrop]
        exact any_head?_eq_false (isAscii_of_eq (by decide))
          fun d hd => decide_eq_false (hends hcolon d hd).1
      have hnoname : (bytes[i + 1]?.any fun b => isNameStart (ofByte b)) = false := by
        rw [getElem?_succ_of_drop hdrop]
        exact any_head?_eq_false isAscii_isNameStart fun d hd => (hends hcolon d hd).2
      rw [scanFrom, dif_pos hlt, hb, if_neg (by decide), if_neg (by simp [hnocast]),
        if_neg (by simp [hnoname]), Lexeme.text, hcolon]
      rfl
    · have hidle : ∀ b ∈ String.utf8EncodeChar c.val, isQuote (ofByte b) = false ∧ ofByte b ≠ ':' := by
        intro b hb
        by_cases hlt : c.val.toNat < 128
        · rw [ofByte_of_mem hlt hb]
          exact ⟨c.property, hcolon⟩
        · have hle : 128 ≤ c.val.toNat := Nat.le_of_not_lt hlt
          have hascii : IsAscii (fun d => d = ':') := isAscii_of_eq (by decide)
          exact ⟨isAscii_isQuote.eq_false hle hb, of_decide_eq_false (hascii.eq_false hle hb)⟩
      have hdrop : bytes.drop i = String.utf8EncodeChar c.val ++ encoded rest := by
        rw [h, Lexeme.text, List.singleton_append, encoded_cons]
      rw [scanFrom_run f hidle hdrop, String.length_utf8EncodeChar]
      rfl

/-- **A placeholder** is cut out and asked for. -/
theorem scanFrom_token {first : NameStart} {word : List NameChar} {rest : List Char}
    (hends : (Lexeme.token first word).Ends rest)
    (h : bytes.drop i = encoded ((Lexeme.token first word).text ++ rest)) :
    let j := i + byteLength (Lexeme.token first word).text
    scanFrom f bytes cs i copied out = (do
      let token ← cut (slice? cs i j)
      match ← OptionT.lift (f (String.ofList token)) with
      | some answer =>
        let kept ← cut (slice? cs copied i)
        scanFrom f bytes cs j j (out ++ kept ++ answer.toList)
      | none => scanFrom f bytes cs j copied out) := by
  intro j
  have hdrop : bytes.drop i = 58 :: encoded (first.val :: (word.map Subtype.val ++ rest)) := by
    rw [h, Lexeme.text, List.cons_append, encoded_colon, List.cons_append]
  obtain ⟨hlt, hb⟩ := exists_getElem_of_drop hdrop
  have hnocast : (bytes[i + 1]?.any fun b => ofByte b = ':') = false := by
    rw [getElem?_succ_of_drop hdrop]
    refine any_head?_eq_false (isAscii_of_eq (by decide)) fun d hd => ?_
    cases hd
    exact decide_eq_false (Lexeme.ne_colon_of_isNameStart first.property)
  have hstart : (bytes[i + 1]?.any fun b => isNameStart (ofByte b)) = true := by
    rw [getElem?_succ_of_drop hdrop, isAscii_isNameStart.any_head?]
    exact first.property
  have hj : wordEnd bytes (i + 1) = j := wordEnd_text hends h
  rw [scanFrom, dif_pos hlt, hb, if_neg (by decide), if_neg (by simp [hnocast]),
    if_pos ⟨rfl, hstart⟩, hj]

variable [LawfulMonad m]

theorem cut_some_bind {α : Type} (part : List Char) (k : List Char → OptionT m α) :
    (cut (some part) >>= k) = k part :=
  pure_bind part k

/-- **Scanning by offsets** writes what is pending and then what the scanner of characters writes. -/
theorem scanFrom_eq {rest : List Char} : ∀ {front pending out : List Char},
    cs = front ++ (pending ++ rest) →
    scanFrom f (encoded cs) cs (byteLength (front ++ pending)) (byteLength front) out =
      OptionT.lift ((fun written => out ++ (pending ++ written)) <$> replaceFrom f .plain rest) := by
  -- the text up to `front` is copied, `pending` is read and not copied: both end between characters
  induction rest using lexeme_induction with
  | nil =>
    intro front pending out hcs
    have hend : (encoded cs).length = byteLength (front ++ pending) := by
      rw [hcs, List.append_nil, length_encoded]
    have hmin : min (byteLength front) (byteLength (front ++ pending)) = byteLength front := by
      rw [byteLength_append]
      omega
    have hcut : slice? cs (byteLength front) (byteLength (front ++ pending)) = some pending := by
      rw [hcs]
      exact slice?_append front pending []
    rw [scanFrom_of_length_le f (Nat.le_of_eq hend), hend, hmin, hcut, cut_some_bind]
    show _ = OptionT.lift ((fun written => out ++ (pending ++ written)) <$> pure [])
    rw [map_pure, OptionT.lift_pure, List.append_nil]
  | lexeme x rest hends ih =>
    intro front pending out hcs
    have hdrop : (encoded cs).drop (byteLength (front ++ pending)) = encoded (x.text ++ rest) := by
      rw [hcs, ← List.append_assoc, encoded_append, ← length_encoded, List.drop_left]
    have hbehind : cs = front ++ ((pending ++ x.text) ++ rest) := by
      rw [hcs, List.append_assoc]
    have hoffset : byteLength (front ++ pending) + byteLength x.text =
        byteLength (front ++ (pending ++ x.text)) := by
      rw [← byteLength_append, List.append_assoc]
    rw [replaceFrom_append f hends]
    cases hname : x.name? with
    | none =>
      rw [scanFrom_pass f hname hends hdrop, hoffset, ih hbehind, x.write_of_name?_eq_none f hname,
        pure_bind, Functor.map_map]
      simp only [List.append_assoc]
    | some name =>
      cases x with
      | token first word =>
        let front' : List Char := front ++ (pending ++ (Lexeme.token first word).text)
        have hj : byteLength (front ++ pending) + byteLength (Lexeme.token first word).text =
            byteLength front' := hoffset
        have htoken : slice? cs (byteLength (front ++ pending)) (byteLength front') =
            some (Lexeme.token first word).text := by
          rw [← List.append_assoc] at hcs
          rw [hcs]
          show slice? _ _ (byteLength (front ++ (pending ++ _))) = _
          rw [← List.append_assoc front]
          exact slice?_append (front ++ pending) (Lexeme.token first word).text rest
        have hkept : slice? cs (byteLength front) (byteLength (front ++ pending)) = some pending := by
          rw [hcs]
          exact slice?_append front pending _
        have hread := (Lexeme.token first word).isToken_of_name? hname
        have hwrite : (Lexeme.token first word).write f =
            f name >>= fun answer => pure (answer.getD name).toList := by
          rw [(Lexeme.token first word).write_of_name? f hname, written, map_bind]
          simp
        rw [scanFrom_token f hends hdrop, hj, htoken, cut_some_bind, ← hread.2, String.ofList_toList,
          hwrite, bind_assoc, map_bind, OptionT.lift_bind]
        refine bind_congr fun answer => ?_
        cases answer with
        | none =>
          show scanFrom f (encoded cs) cs (byteLength front') (byteLength front) out = _
          rw [ih hbehind, ← hread.2]
          simp
        | some word' =>
          have hcs' : cs = front' ++ ([] ++ rest) := by
            rw [hbehind, List.nil_append, ← List.append_assoc]
          have hrest := @ih front' [] (out ++ pending ++ word'.toList) hcs'
          rw [List.append_nil] at hrest
          show (cut (slice? cs (byteLength front) (byteLength (front ++ pending))) >>= fun kept =>
            scanFrom f (encoded cs) cs (byteLength front') (byteLength front')
              (out ++ kept ++ word'.toList)) = _
          rw [hkept, cut_some_bind, hrest]
          simp
      | quoted q contents closed => cases hname
      | cast => cases hname
      | other c => cases hname

/-- **No cut fails**, and the bytes are scanned as the characters are. -/
theorem scanBytes_eq (sql : String) : scanBytes f sql = OptionT.lift (replaceM f sql) := by
  have hscan := @scanFrom_eq m _ f sql.toList _ sql.toList [] [] [] rfl
  have hzero : byteLength [] = 0 := rfl
  rw [List.append_nil, hzero] at hscan
  rw [scanBytes, bytesOf_eq, hscan, replaceM, OptionT.lift_bind]
  simp

end Lexemes

/-! ## Both scanners -/

/-- A callback that keeps everything leaves the text, whatever else it does with the placeholders. -/
theorem replaceM_keep {m : Type → Type} [Monad m] [LawfulMonad m] (g : String → m Unit) (sql : String) :
    replaceM (fun token => g token *> pure none) sql =
      (fun _ => sql) <$> (tokens sql).mapM g := by
  have hwritten : written (fun token => g token *> pure none) =
      fun token => (fun _ => token) <$> g token := by
    funext token
    simp [written, seqRight_eq_bind]
  have hnames : ∀ names : List String, names.mapM (written fun token => g token *> pure none) =
      (fun _ => names) <$> names.mapM g := by
    intro names
    rw [hwritten]
    induction names with
    | nil => simp
    | cons name names ih =>
      rw [List.mapM_cons, List.mapM_cons, ih]
      simp
  have htext : String.ofList (Template.weave (gaps (split sql.toList)) (tokens sql)) = sql := by
    rw [tokens, weave_gaps, flatten_split, String.ofList_toList]
  rw [replaceM_tokens, hnames, Functor.map_map, htext]

/-- **Replacing placeholders, lexeme by lexeme.** Every text is cut in one way into lexemes, each the
    longest where it begins. A callback with any effect is asked once for each placeholder among them, in
    order, and the text that is written has its answer in the place of the placeholder, or the placeholder
    if there is no answer, and the other lexemes as they are. The scanner that cuts by byte offsets cuts
    inside of no character and not behind the end, and writes the same. A callback that keeps every
    placeholder gets the text back. -/
theorem replaceM_lexemes {m : Type → Type} [Monad m] [LawfulMonad m]
    (f : String → m (Option String)) (sql : String) :
    ∃ xs : List Lexeme,
      Splits sql.toList xs ∧ (∀ ys, Splits sql.toList ys → ys = xs) ∧
      replaceM f sql = (fun outs => String.ofList outs.flatten) <$> xs.mapM (Lexeme.write f) ∧
      (scanBytes f sql).run = some <$> replaceM f sql ∧
      (∀ g : String → Option String,
        replace g sql = String.ofList (xs.map (Lexeme.filled g)).flatten) ∧
      ∀ g : String → m Unit, replaceM (fun token => g token *> pure none) sql =
        (fun _ => sql) <$> (xs.filterMap Lexeme.name?).mapM g := by
  refine ⟨split sql.toList, splits_iff.mpr rfl, fun ys hys => splits_iff.mp hys, replaceM_split f sql,
    ?_, fun g => replace_split g sql, fun g => replaceM_keep g sql⟩
  rw [scanBytes_eq, OptionT.run_lift, map_eq_pure_bind]

/-- Casts, names right behind each other, doubled quotes, characters of several bytes and a quote that
    nothing closes. -/
def oddText : String := "é:a:b_1::c:::d 'it''s :e':f''\":g\":é\x60 :h''"

/-- A callback that answers one placeholder and notes all of them. -/
def noting (token : String) : StateM (List String) (Option String) := do
  modify (· ++ [token])
  pure (if token = ":a" then some "€" else none)

theorem replaceM_oddText :
    LawfulMonad (StateM (List String)) ∧
      ((scanBytes noting oddText).run.run []).1 =
        some "é€:b_1::c:::d 'it''s :e':f''\":g\":é\x60 :h''" ∧
      ((scanBytes noting oddText).run.run []).2 = [":a", ":b_1", ":d", ":f"] := by
  obtain ⟨xs, -, -, -, hbytes, -⟩ := replaceM_lexemes noting oddText
  rw [hbytes]
  refine ⟨inferInstance, ?_, ?_⟩
  · decide +kernel
  · decide +kernel

end FluentSql.Placeholder
