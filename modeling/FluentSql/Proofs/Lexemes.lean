import FluentSql.Proofs.Scanning
/-!
# `FluentSql.Proofs.Lexemes` — the pieces that a scanner passes over

The scanner goes through a text with what is open as its only memory. What it does is said here without
it: a text is cut, from the left, into **lexemes** — quoted regions, the two colons of a cast,
placeholders and other characters — and every time the longest lexeme is cut off that stands there.

* `Lexeme.isFirst_iff` — the longest lexeme is told by the one character behind it;
* `splits_iff` — every text can be cut in exactly one way, and `split` does it;
* `replaceM_split` — replacing placeholders is done lexeme by lexeme: each placeholder is asked for
  once, in order, and all other lexemes are written as they are.
-/

namespace FluentSql.Placeholder

open FluentSql.Text

/-! ## Lexemes -/

/-- A character that a name begins with. -/
abbrev NameStart := { c : Char // isNameStart c = true }

/-- A character that a name goes on with. -/
abbrev NameChar := { c : Char // isNameChar c = true }

/-- **What a scanner passes over as a whole.** -/
inductive Lexeme where
  /-- A region between quotes, or from a quote to the end of the text. The contents show a doubled
      quote once. -/
  | quoted (q : Quote) (contents : List Char) (closed : Bool)
  /-- The two colons of a cast. -/
  | cast
  /-- A placeholder, without its colon. -/
  | token (first : NameStart) (word : List NameChar)
  /-- Any other character, a lone colon among them. -/
  | other (c : { c : Char // isQuote c = false })
  deriving DecidableEq

namespace Lexeme

/-- The text of a lexeme. -/
def text : Lexeme → List Char
  | .quoted q contents closed => q.val :: (doubled q.val contents ++ if closed then [q.val] else [])
  | .cast => [':', ':']
  | .token first word => ':' :: first.val :: word.map Subtype.val
  | .other c => [c.val]

/-- The placeholder that a lexeme is, with its colon. -/
def name? : Lexeme → Option String
  | .token first word => some (String.ofList (text (.token first word)))
  | _ => none

/-- **What may stand behind a lexeme.** A quote that closes a region is not doubled, and a region that
    nothing closes runs to the end. -/
def MayPrecede : Lexeme → List Char → Prop
  | .quoted q _ true, rest => rest.head? ≠ some q.val
  | .quoted _ _ false, rest => rest = []
  | _, _ => True

/-- **A lexeme stands at the beginning** of a text, with a rest behind it. -/
def Begins (x : Lexeme) (cs rest : List Char) : Prop :=
  cs = x.text ++ rest ∧ x.MayPrecede rest

/-- **The longest lexeme** at the beginning of a text. -/
def IsFirst (x : Lexeme) (cs rest : List Char) : Prop :=
  x.Begins cs rest ∧ ∀ y back, Begins y cs back → y.text.length ≤ x.text.length

end Lexeme

/-- **Cutting a text into lexemes**, from the left and each time the longest. -/
inductive Splits : List Char → List Lexeme → Prop where
  /-- Nothing is left. -/
  | nil : Splits [] []
  /-- The longest lexeme, and then those of the rest. -/
  | cons {x : Lexeme} {cs rest : List Char} {xs : List Lexeme} (first : x.IsFirst cs rest)
      (more : Splits rest xs) : Splits cs (x :: xs)

/-! ## The longest lexeme -/

namespace Lexeme

/-- **What stands behind the longest lexeme**, as a condition on the next character. -/
def Ends : Lexeme → List Char → Prop
  | .quoted q _ true, rest => rest.head? ≠ some q.val
  | .quoted _ _ false, rest => rest = []
  | .cast, _ => True
  | .token _ _, rest => ∀ c ∈ rest.head?, isNameChar c = false
  | .other c, rest => c.val = ':' → ∀ d ∈ rest.head?, d ≠ ':' ∧ isNameStart d = false

theorem Ends.mayPrecede {x : Lexeme} {rest : List Char} (h : x.Ends rest) : x.MayPrecede rest := by
  cases x with
  | quoted q contents closed => cases closed <;> exact h
  | cast => trivial
  | token first word => trivial
  | other c => trivial

theorem length_text_pos (x : Lexeme) : 0 < x.text.length := by
  cases x <;> simp [text]

theorem ne_colon_of_isQuote {c : Char} (h : isQuote c = true) : c ≠ ':' := by
  rintro rfl
  exact absurd h (by decide)

/-- Where the contents of a region end: at the end of the text, or at a quote that is not doubled. -/
theorem isStop_of_mayPrecede {q : Quote} {contents : List Char} {closed : Bool} {rest : List Char}
    (h : (quoted q contents closed).MayPrecede rest) :
    IsStop q.val ((if closed then [q.val] else []) ++ rest) := by
  cases closed with
  | true => exact ⟨rfl, h⟩
  | false =>
    have hnil : rest = [] := h
    rw [hnil]
    trivial

/-- **A quoted region is the only lexeme** where it begins. -/
theorem length_of_quoted {q : Quote} {contents rest : List Char} {closed : Bool}
    (h : (quoted q contents closed).MayPrecede rest) {y : Lexeme} {back : List Char}
    (hy : y.Begins ((quoted q contents closed).text ++ rest) back) :
    y.text.length ≤ (quoted q contents closed).text.length := by
  obtain ⟨heq, hback⟩ := hy
  cases y with
  | quoted q' contents' closed' =>
    obtain ⟨hq, hcontents⟩ := List.cons.inj heq
    obtain rfl : q = q' := Subtype.ext hq
    have hregion : doubled q.val contents ++ ((if closed then [q.val] else []) ++ rest) =
        doubled q.val contents' ++ ((if closed' then [q.val] else []) ++ back) := by
      rw [← List.append_assoc, ← List.append_assoc]
      exact hcontents
    obtain ⟨rfl, htail⟩ := doubled_inj (isStop_of_mayPrecede h) (isStop_of_mayPrecede hback) hregion
    cases closed with
    | true =>
      apply Nat.le_of_eq
      cases closed' with
      | true => rfl
      | false =>
        have hnil : back = [] := hback
        rw [hnil] at htail
        cases htail
    | false =>
      have hnil : rest = [] := h
      rw [hnil] at htail
      cases closed' with
      | true => cases htail
      | false => exact Nat.le_refl _
  | cast => exact absurd (List.cons.inj heq).1 (ne_colon_of_isQuote q.property)
  | token first word => exact absurd (List.cons.inj heq).1 (ne_colon_of_isQuote q.property)
  | other c =>
    have hquote : isQuote c.val = true := (List.cons.inj heq).1 ▸ q.property
    rw [c.property] at hquote
    cases hquote

/-- A run of name characters is no longer than one that no name character follows. -/
theorem length_le_of_run {word run : List NameChar} {rest back : List Char}
    (hrest : ∀ c ∈ rest.head?, isNameChar c = false)
    (h : word.map Subtype.val ++ rest = run.map Subtype.val ++ back) : run.length ≤ word.length := by
  induction run generalizing word with
  | nil => exact Nat.zero_le _
  | cons c run ih =>
    cases word with
    | nil =>
      have hhead : rest = c.val :: (run.map Subtype.val ++ back) := h
      have hname : isNameChar c.val = false := hrest c.val (by rw [hhead]; rfl)
      rw [c.property] at hname
      cases hname
    | cons d word => exact Nat.succ_le_succ (ih (List.cons.inj h).2)

theorem ne_colon_of_isNameStart {c : Char} (h : isNameStart c = true) : c ≠ ':' := by
  rintro rfl
  exact absurd h (by decide)

/-- **The longest lexeme is told by the character behind it.** -/
theorem isFirst_iff {x : Lexeme} {cs rest : List Char} :
    x.IsFirst cs rest ↔ cs = x.text ++ rest ∧ x.Ends rest := by
  constructor
  · rintro ⟨⟨rfl, hprecede⟩, hlongest⟩
    refine ⟨rfl, ?_⟩
    cases x with
    | quoted q contents closed => cases closed <;> exact hprecede
    | cast => trivial
    | token first word =>
      intro c hc
      obtain ⟨more, rfl⟩ : ∃ more, rest = c :: more := List.head?_eq_some_iff.mp hc
      cases hname : isNameChar c with
      | false => rfl
      | true =>
        have hlonger := hlongest (.token first (word ++ [⟨c, hname⟩])) more
          ⟨by simp [text], trivial⟩
        simp only [text, List.length_cons, List.length_map, List.length_append] at hlonger
        omega
    | other c =>
      intro hcolon d hd
      obtain ⟨more, rfl⟩ : ∃ more, rest = d :: more := List.head?_eq_some_iff.mp hd
      constructor
      · rintro rfl
        have hlonger := hlongest .cast more ⟨by simp [text, hcolon], trivial⟩
        simp [text] at hlonger
      · cases hstart : isNameStart d with
        | false => rfl
        | true =>
          have hlonger := hlongest (.token ⟨d, hstart⟩ []) more ⟨by simp [text, hcolon], trivial⟩
          simp [text] at hlonger
  · rintro ⟨rfl, hends⟩
    refine ⟨⟨rfl, hends.mayPrecede⟩, fun y back hy => ?_⟩
    cases x with
    | quoted q contents closed => exact length_of_quoted hends.mayPrecede hy
    | cast =>
      obtain ⟨heq, -⟩ := hy
      cases y with
      | quoted q _ _ => exact absurd (List.cons.inj heq).1.symm (ne_colon_of_isQuote q.property)
      | cast => exact Nat.le_refl _
      | token first word =>
        have hfirst : ':' = first.val := (List.cons.inj (List.cons.inj heq).2).1
        exact absurd hfirst.symm (ne_colon_of_isNameStart first.property)
      | other c => simp [text]
    | token first word =>
      obtain ⟨heq, -⟩ := hy
      cases y with
      | quoted q _ _ => exact absurd (List.cons.inj heq).1.symm (ne_colon_of_isQuote q.property)
      | cast => simp [text]
      | token first' run =>
        have hrun := (List.cons.inj (List.cons.inj heq).2).2
        have hle : run.length ≤ word.length := length_le_of_run hends hrun
        simpa [text] using hle
      | other c => simp [text]
    | other c =>
      obtain ⟨heq, -⟩ := hy
      have hhead : [c.val] ++ rest = y.text ++ back := heq
      cases y with
      | quoted q _ _ =>
        have hquote : isQuote c.val = true := (List.cons.inj hhead).1 ▸ q.property
        rw [c.property] at hquote
        cases hquote
      | cast =>
        obtain ⟨hcolon, hrest⟩ := List.cons.inj hhead
        have hnext : rest = ':' :: back := hrest
        exact absurd rfl (hends hcolon ':' (by rw [hnext]; rfl)).1
      | token first word =>
        obtain ⟨hcolon, hrest⟩ := List.cons.inj hhead
        have hnext : rest = first.val :: (word.map Subtype.val ++ back) := hrest
        have hstart := (hends hcolon first.val (by rw [hnext]; rfl)).2
        rw [first.property] at hstart
        cases hstart
      | other d => exact Nat.le_refl _

/-- A list of name characters as characters. -/
theorem exists_word (word : List Char) (h : ∀ c ∈ word, isNameChar c = true) :
    ∃ run : List NameChar, run.map Subtype.val = word :=
  ⟨word.attachWith _ h, (List.attachWith_map_val h).trans (List.map_id word)⟩

/-- A region that begins ends somewhere. A quote is read with the character behind it, which tells
    whether it is doubled. -/
theorem exists_quoted (q : Quote) : ∀ cs : List Char,
    ∃ contents closed rest, cs = doubled q.val contents ++ (if closed then [q.val] else []) ++ rest ∧
      (quoted q contents closed).Ends rest
  | [] => ⟨[], false, [], rfl, rfl⟩
  | [c] => by
    by_cases hc : c = q.val
    · refine ⟨[], true, [], by rw [hc]; rfl, ?_⟩
      intro h
      cases h
    · exact ⟨[c], false, [], by simp [doubled, hc], rfl⟩
  | c :: d :: cs => by
    by_cases hc : c = q.val
    · by_cases hd : d = q.val
      · obtain ⟨contents, closed, rest, hcs, hends⟩ := exists_quoted q cs
        refine ⟨q.val :: contents, closed, rest, ?_, ?_⟩
        · rw [doubled, if_pos rfl, hc, hd, hcs]
          rfl
        · cases closed <;> exact hends
      · refine ⟨[], true, d :: cs, by rw [hc]; rfl, ?_⟩
        intro h
        exact hd (Option.some.inj h)
    · obtain ⟨contents, closed, rest, hcs, hends⟩ := exists_quoted q (d :: cs)
      refine ⟨c :: contents, closed, rest, ?_, ?_⟩
      · rw [doubled, if_neg hc, hcs]
        rfl
      · cases closed <;> exact hends

/-- **Some lexeme stands at the beginning** of every text that is not empty. -/
theorem exists_first {cs : List Char} (h : cs ≠ []) : ∃ x : Lexeme, ∃ rest,
    cs = x.text ++ rest ∧ x.Ends rest := by
  cases cs with
  | nil => exact absurd rfl h
  | cons c cs =>
    by_cases hquote : isQuote c = true
    · obtain ⟨contents, closed, rest, hcs, hends⟩ := exists_quoted ⟨c, hquote⟩ cs
      exact ⟨.quoted ⟨c, hquote⟩ contents closed, rest, congrArg (c :: ·) hcs, hends⟩
    have hplain : isQuote c = false := Bool.eq_false_iff.mpr hquote
    by_cases hcolon : c = ':'
    · cases cs with
      | nil =>
        refine ⟨.other ⟨c, hplain⟩, [], rfl, fun _ d hd => ?_⟩
        cases hd
      | cons d cs =>
        by_cases hcast : d = ':'
        · exact ⟨.cast, cs, by rw [hcolon, hcast]; rfl, trivial⟩
        by_cases hstart : isNameStart d = true
        · obtain ⟨run, hrun⟩ := exists_word (cs.takeWhile isNameChar)
            (List.all_eq_true.mp List.all_takeWhile)
          refine ⟨.token ⟨d, hstart⟩ run, cs.dropWhile isNameChar, ?_, fun e he => ?_⟩
          · rw [text, hrun, hcolon]
            exact congrArg (fun l => ':' :: d :: l) List.takeWhile_append_dropWhile.symm
          · have hnot := List.head?_dropWhile_not isNameChar cs
            rw [Option.mem_def.mp he] at hnot
            simpa using hnot
        · refine ⟨.other ⟨c, hplain⟩, d :: cs, rfl, fun _ e he => ?_⟩
          cases he
          exact ⟨hcast, Bool.eq_false_iff.mpr hstart⟩
    · exact ⟨.other ⟨c, hplain⟩, cs, rfl, fun h => absurd h hcolon⟩

end Lexeme

/-! ## Cutting -/

/-- **A lexeme that is being read**; what is read of it is in reverse. -/
inductive Pending where
  /-- None. -/
  | plain
  /-- A colon was passed. -/
  | colon
  /-- A placeholder. -/
  | token (first : NameStart) (read : List NameChar)
  /-- The contents of a region. -/
  | quoted (q : Quote) (read : List Char)
  /-- Behind a quote that ends the region unless it is doubled. -/
  | closing (q : Quote) (read : List Char)
  deriving DecidableEq

namespace Pending

/-- A character with no lexeme before it: the lexemes that it ends, and what is being read after it. -/
def start (c : Char) : List Lexeme × Pending :=
  if h : isQuote c = true then ([], .quoted ⟨c, h⟩ [])
  else if c = ':' then ([], .colon)
  else ([.other ⟨c, Bool.eq_false_iff.mpr h⟩], .plain)

/-- The lexeme that ends where the text does. -/
def flush : Pending → List Lexeme
  | .plain => []
  | .colon => [.other ⟨':', rfl⟩]
  | .token first read => [.token first read.reverse]
  | .quoted q read => [.quoted q read.reverse false]
  | .closing q read => [.quoted q read.reverse true]

/-- A character that goes on with nothing ends what is being read and starts anew. -/
def restart (p : Pending) (c : Char) : List Lexeme × Pending :=
  (p.flush ++ (start c).1, (start c).2)

/-- **One character**: the lexemes that it ends, and what is being read after it. -/
def push : Pending → Char → List Lexeme × Pending
  | .plain, c => start c
  | .colon, c =>
    if c = ':' then ([.cast], .plain)
    else if h : isNameStart c = true then ([], .token ⟨c, h⟩ [])
    else restart .colon c
  | .token first read, c =>
    if h : isNameChar c = true then ([], .token first (⟨c, h⟩ :: read))
    else restart (.token first read) c
  | .quoted q read, c => ([], if c = q.val then .closing q read else .quoted q (c :: read))
  | .closing q read, c =>
    if c = q.val then ([], .quoted q (q.val :: read)) else restart (.closing q read) c

end Pending

/-- The lexemes of a text in which a lexeme is being read. -/
def splitFrom : Pending → List Char → List Lexeme
  | p, [] => p.flush
  | p, c :: cs => (p.push c).1 ++ splitFrom (p.push c).2 cs

/-- **The lexemes of a text.** -/
def split (cs : List Char) : List Lexeme :=
  splitFrom .plain cs

/-- Where what is being read ends, the rest is cut as if it stood alone. -/
theorem splitFrom_restart {p : Pending} {rest : List Char}
    (h : ∀ c ∈ rest.head?, p.push c = p.restart c) : splitFrom p rest = p.flush ++ split rest := by
  cases rest with
  | nil => exact (List.append_nil _).symm
  | cons c rest =>
    show (p.push c).1 ++ splitFrom (p.push c).2 rest = _
    rw [h c rfl]
    exact List.append_assoc _ _ _

/-- The contents of a region are read up to where they stop. -/
theorem splitFrom_doubled (q : Quote) (contents read rest : List Char) :
    splitFrom (.quoted q read) (doubled q.val contents ++ rest) =
      splitFrom (.quoted q (contents.reverse ++ read)) rest := by
  induction contents generalizing read with
  | nil => rfl
  | cons c contents ih =>
    rw [List.reverse_cons, List.append_assoc, List.singleton_append, ← ih (c :: read)]
    by_cases hc : c = q.val
    · rw [doubled, if_pos hc, List.cons_append, List.cons_append, hc]
      simp [splitFrom, Pending.push]
    · rw [doubled, if_neg hc, List.cons_append]
      simp [splitFrom, Pending.push, hc]

/-- A placeholder is read as long as name characters follow. -/
theorem splitFrom_word (first : NameStart) (word read : List NameChar) (rest : List Char) :
    splitFrom (.token first read) (word.map Subtype.val ++ rest) =
      splitFrom (.token first (word.reverse ++ read)) rest := by
  induction word generalizing read with
  | nil => rfl
  | cons c word ih =>
    rw [List.reverse_cons, List.append_assoc, List.singleton_append, ← ih (c :: read)]
    simp [splitFrom, Pending.push, c.property]

/-- **One lexeme after the other.** -/
theorem split_append {x : Lexeme} {rest : List Char} (h : x.Ends rest) :
    split (x.text ++ rest) = x :: split rest := by
  cases x with
  | quoted q contents closed =>
    have hopen : ∀ cs, split (q.val :: cs) = splitFrom (.quoted q []) cs := by
      intro cs
      simp [split, splitFrom, Pending.push, Pending.start, q.property]
    rw [Lexeme.text, List.cons_append, hopen, List.append_assoc, splitFrom_doubled, List.append_nil]
    cases closed with
    | true =>
      have hclose : splitFrom (.quoted q contents.reverse) ([q.val] ++ rest) =
          splitFrom (.closing q contents.reverse) rest := by
        simp [splitFrom, Pending.push]
      rw [if_pos rfl, hclose, splitFrom_restart]
      · rw [Pending.flush, List.reverse_reverse, List.singleton_append]
      · intro c hc
        have hne : c ≠ q.val := by
          rintro rfl
          exact h hc
        rw [Pending.push, if_neg hne]
    | false =>
      have hnil : rest = [] := h
      rw [hnil]
      show [Lexeme.quoted q contents.reverse.reverse false] = [Lexeme.quoted q contents false]
      rw [List.reverse_reverse]
  | cast => rfl
  | token first word =>
    have hne : first.val ≠ ':' := Lexeme.ne_colon_of_isNameStart first.property
    have hbegin : split (':' :: first.val :: (word.map Subtype.val ++ rest)) =
        splitFrom (.token first []) (word.map Subtype.val ++ rest) := by
      simp [split, splitFrom, Pending.push, Pending.start, isQuote, hne, first.property]
    rw [Lexeme.text, List.cons_append, List.cons_append, hbegin, splitFrom_word, List.append_nil,
      splitFrom_restart]
    · rw [Pending.flush, List.reverse_reverse, List.singleton_append]
    · intro c hc
      have hname : ¬isNameChar c = true := by
        rw [h c hc]
        decide
      rw [Pending.push, dif_neg hname]
  | other c =>
    have hquote : ¬isQuote c.val = true := by
      rw [c.property]
      decide
    by_cases hcolon : c.val = ':'
    · have hpush : split (c.val :: rest) = splitFrom .colon rest := by
        simp [split, splitFrom, Pending.push, Pending.start, hcolon, isQuote]
      rw [Lexeme.text, List.singleton_append, hpush, splitFrom_restart]
      · show Lexeme.other ⟨':', rfl⟩ :: split rest = _
        exact congrArg (Lexeme.other · :: split rest) (Subtype.ext hcolon.symm)
      · intro d hd
        obtain ⟨hne, hstart⟩ := h hcolon d hd
        rw [Pending.push, if_neg hne, dif_neg (by rw [hstart]; decide)]
    · simp [Lexeme.text, split, splitFrom, Pending.push, Pending.start, hquote, hcolon]

/-- Induction on a text, lexeme by lexeme. -/
theorem lexeme_induction {P : List Char → Prop} (nil : P [])
    (lexeme : ∀ (x : Lexeme) (rest : List Char), x.Ends rest → P rest → P (x.text ++ rest))
    (cs : List Char) : P cs := by
  -- on the length, since lexemes differ in theirs and none is empty
  induction hn : cs.length using Nat.strongRecOn generalizing cs with
  | _ n ih =>
    by_cases hempty : cs = []
    · rw [hempty]
      exact nil
    · obtain ⟨x, rest, rfl, hends⟩ := Lexeme.exists_first hempty
      have hshorter : rest.length < n := by
        have hpos := x.length_text_pos
        rw [List.length_append] at hn
        omega
      exact lexeme x rest hends (ih rest.length hshorter rest rfl)

/-- **Every text can be cut in exactly one way.** -/
theorem splits_iff {cs : List Char} {xs : List Lexeme} : Splits cs xs ↔ xs = split cs := by
  constructor
  · intro h
    induction h with
    | nil => rfl
    | cons first more ih =>
      obtain ⟨rfl, hends⟩ := Lexeme.isFirst_iff.mp first
      rw [split_append hends, ih]
  · rintro rfl
    induction cs using lexeme_induction with
    | nil => exact .nil
    | lexeme x rest hends ih =>
      rw [split_append hends]
      exact .cons (Lexeme.isFirst_iff.mpr ⟨rfl, hends⟩) ih

/-- The lexemes hold the text. -/
theorem flatten_split (cs : List Char) : ((split cs).map Lexeme.text).flatten = cs := by
  induction cs using lexeme_induction with
  | nil => rfl
  | lexeme x rest hends ih => rw [split_append hends, List.map_cons, List.flatten_cons, ih]

/-! ## Replacing -/

variable {m : Type → Type} [Monad m]

/-- **What is written for a lexeme**: for a placeholder the answer or itself, for any other lexeme its
    text. -/
def Lexeme.write (f : String → m (Option String)) (x : Lexeme) : m (List Char) :=
  match x.name? with
  | some name => String.toList <$> written f name
  | none => pure x.text

theorem Lexeme.write_of_name? (f : String → m (Option String)) {x : Lexeme} {name : String}
    (h : x.name? = some name) : x.write f = String.toList <$> written f name := by
  rw [Lexeme.write, h]

theorem Lexeme.write_of_name?_eq_none (f : String → m (Option String)) {x : Lexeme}
    (h : x.name? = none) : x.write f = pure x.text := by
  rw [Lexeme.write, h]

/-- A lexeme with a name is a placeholder, and its text is the name. -/
theorem Lexeme.isToken_of_name? {x : Lexeme} {name : String} (h : x.name? = some name) :
    IsToken name ∧ name.toList = x.text := by
  cases x with
  | token first word =>
    cases h
    have hlist : (String.ofList (Lexeme.token first word).text).toList =
        ':' :: first.val :: word.map Subtype.val := String.toList_ofList
    refine ⟨⟨first.val, word.map Subtype.val, hlist, first.property, fun d hd => ?_⟩, hlist⟩
    obtain ⟨e, -, rfl⟩ := List.mem_map.mp hd
    exact e.property
  | quoted q contents closed => cases h
  | cast => cases h
  | other c => cases h

variable [LawfulMonad m] (f : String → m (Option String))

/-- Text inside of a region is written as it is. -/
theorem replaceFrom_doubled (q : Quote) (contents rest : List Char) :
    replaceFrom f (.quoted q.val) (doubled q.val contents ++ rest) =
      (doubled q.val contents ++ ·) <$> replaceFrom f (.quoted q.val) rest := by
  induction contents with
  | nil => exact (id_map _).symm
  | cons c contents ih =>
    by_cases hc : c = q.val
    · have hclose : step f (.quoted q.val) q.val = pure ([q.val], .closing q.val) := by simp [step]
      have hopen : step f (.closing q.val) q.val = pure ([q.val], .quoted q.val) := by simp [step]
      rw [doubled, if_pos hc, List.cons_append, List.cons_append, replaceFrom_cons f hclose,
        replaceFrom_cons f hopen, ih, Functor.map_map, Functor.map_map]
      rfl
    · have hinside : step f (.quoted q.val) c = pure ([c], .quoted q.val) := by simp [step, hc]
      rw [doubled, if_neg hc, List.cons_append, replaceFrom_cons f hinside, ih, Functor.map_map]
      rfl

/-- With nothing to write, a scan goes on as if it began. -/
theorem replaceFrom_fresh {s : Scan} {rest : List Char} {out : List Char}
    (hstop : stop f s = pure out)
    (h : ∀ c ∈ rest.head?, step f s c = pure (out ++ (fresh c).1, (fresh c).2)) :
    replaceFrom f s rest = (out ++ ·) <$> replaceFrom f .plain rest := by
  cases rest with
  | nil =>
    show stop f s = (out ++ ·) <$> pure []
    rw [hstop, map_pure, List.append_nil]
  | cons c rest =>
    have hfresh : step f .plain c = pure ((fresh c).1, (fresh c).2) := rfl
    rw [replaceFrom_cons f (h c rfl), replaceFrom_cons f hfresh, Functor.map_map]
    exact congrArg (· <$> _) (funext fun cs => List.append_assoc out (fresh c).1 cs)

/-- **One lexeme** is written, and the rest as if it stood alone. -/
theorem replaceFrom_append {x : Lexeme} {rest : List Char} (h : x.Ends rest) :
    replaceFrom f .plain (x.text ++ rest) =
      x.write f >>= fun out => (out ++ ·) <$> replaceFrom f .plain rest := by
  cases x with
  | quoted q contents closed =>
    have hopen : step f .plain q.val = pure ([q.val], .quoted q.val) := by
      simp [step, fresh, q.property]
    have hregion : replaceFrom f (.quoted q.val) ((if closed then [q.val] else []) ++ rest) =
        ((if closed then [q.val] else []) ++ ·) <$> replaceFrom f .plain rest := by
      cases closed with
      | true =>
        have hclose : step f (.quoted q.val) q.val = pure ([q.val], .closing q.val) := by simp [step]
        have hrest : replaceFrom f (.closing q.val) rest = ([] ++ ·) <$> replaceFrom f .plain rest := by
          refine replaceFrom_fresh f rfl fun c hc => ?_
          have hne : c ≠ q.val := by
            rintro rfl
            exact h hc
          simp [step, hne]
        rw [if_pos rfl, List.singleton_append, replaceFrom_cons f hclose, hrest, Functor.map_map]
        rfl
      | false =>
        have hnil : rest = [] := h
        rw [hnil]
        exact (id_map _).symm
    rw [Lexeme.write_of_name?_eq_none f rfl, pure_bind, Lexeme.text, List.cons_append,
      replaceFrom_cons f hopen, List.append_assoc, replaceFrom_doubled, hregion, Functor.map_map,
      Functor.map_map]
    simp
  | cast =>
    have hcolon : step f .plain ':' = pure ([], .colon) := rfl
    have hcast : step f .colon ':' = pure ([':', ':'], .plain) := rfl
    show replaceFrom f .plain (':' :: ':' :: rest) = pure [':', ':'] >>= _
    rw [replaceFrom_cons f hcolon, replaceFrom_cons f hcast, pure_bind]
    exact id_map _
  | token first word =>
    obtain ⟨htoken, hlist⟩ := Lexeme.isToken_of_name? (x := .token first word) rfl
    have hname := replaceFrom_name f (r := .plain) trivial htoken h
    rw [hlist] at hname
    rw [Lexeme.write_of_name? f rfl, map_eq_pure_bind, bind_assoc]
    simp only [pure_bind]
    exact hname
  | other c =>
    have hquote : ¬isQuote c.val = true := by
      rw [c.property]
      decide
    rw [Lexeme.write_of_name?_eq_none f rfl, pure_bind, Lexeme.text, List.singleton_append]
    by_cases hcolon : c.val = ':'
    · have hpush : step f .plain c.val = pure ([], .colon) := by
        simp [step, fresh, isQuote, hcolon]
      have hrest : replaceFrom f .colon rest = ([':'] ++ ·) <$> replaceFrom f .plain rest := by
        refine replaceFrom_fresh f rfl fun d hd => ?_
        obtain ⟨hne, hstart⟩ := h hcolon d hd
        simp [step, hne, hstart]
      rw [replaceFrom_cons f hpush, hrest, hcolon, Functor.map_map]
      rfl
    · have hidle : step f .plain c.val = pure ([c.val], .plain) := by
        simp [step, fresh, hquote, hcolon]
      rw [replaceFrom_cons f hidle]

/-- **Replacing is done lexeme by lexeme.** -/
theorem replaceFrom_split (cs : List Char) :
    replaceFrom f .plain cs = List.flatten <$> (split cs).mapM (Lexeme.write f) := by
  induction cs using lexeme_induction with
  | nil => simp [split, splitFrom, Pending.flush, replaceFrom, stop]
  | lexeme x rest hends ih =>
    rw [replaceFrom_append f hends, split_append hends, List.mapM_cons, ih]
    simp

theorem replaceM_split (sql : String) :
    replaceM f sql =
      (fun outs => String.ofList outs.flatten) <$> (split sql.toList).mapM (Lexeme.write f) := by
  rw [replaceM, replaceFrom_split, ← map_eq_pure_bind, Functor.map_map]

/-- What an answer writes for a lexeme: for a placeholder the answer or itself. -/
def Lexeme.filled (g : String → Option String) (x : Lexeme) : List Char :=
  match x.name? with
  | some name => ((g name).getD name).toList
  | none => x.text

/-- Replacing without an effect is filling in each lexeme. -/
theorem replace_split (g : String → Option String) (sql : String) :
    replace g sql = String.ofList ((split sql.toList).map (Lexeme.filled g)).flatten := by
  have hwrite : Lexeme.write (m := Id) (fun token => pure (g token)) =
      fun x => pure (x.filled g) := by
    funext x
    cases hname : x.name? with
    | none => rw [x.write_of_name?_eq_none _ hname, Lexeme.filled, hname]
    | some name =>
      rw [x.write_of_name? _ hname, Lexeme.filled, hname]
      rfl
  rw [replace, replaceM_split, hwrite, List.mapM_pure]
  rfl

/-! ## Placeholders in order -/

/-- The placeholders of a text, in order. -/
def tokens (sql : String) : List String :=
  (split sql.toList).filterMap Lexeme.name?

/-- **The pieces of text** around the placeholders: what stands before the first one, and what stands
    after each. -/
def gaps : List Lexeme → List Char × List (List Char)
  | [] => ([], [])
  | x :: xs =>
    match x.name? with
    | some _ => ([], (gaps xs).1 :: (gaps xs).2)
    | none => (x.text ++ (gaps xs).1, (gaps xs).2)

theorem gaps_of_name? {x : Lexeme} {name : String} (h : x.name? = some name) (xs : List Lexeme) :
    gaps (x :: xs) = ([], (gaps xs).1 :: (gaps xs).2) := by
  rw [gaps, h]

theorem gaps_of_name?_eq_none {x : Lexeme} (h : x.name? = none) (xs : List Lexeme) :
    gaps (x :: xs) = (x.text ++ (gaps xs).1, (gaps xs).2) := by
  rw [gaps, h]

/-- The text is its pieces with the placeholders between them. -/
theorem weave_gaps (xs : List Lexeme) :
    Template.weave (gaps xs) (xs.filterMap Lexeme.name?) = (xs.map Lexeme.text).flatten := by
  induction xs with
  | nil => rfl
  | cons x xs ih =>
    rw [List.map_cons, List.flatten_cons, ← ih]
    cases hname : x.name? with
    | none =>
      rw [gaps_of_name?_eq_none hname, List.filterMap_cons_none hname]
      exact List.append_assoc _ _ _
    | some name =>
      rw [gaps_of_name? hname, List.filterMap_cons_some hname, ← (x.isToken_of_name? hname).2]
      simp [Template.weave]

theorem weave_text (front : List Char) (p : List Char × List (List Char)) :
    Template.weave (front ++ p.1, p.2) = fun words => front ++ Template.weave p words :=
  funext fun _ => List.append_assoc _ _ _

theorem weave_gap (p : List Char × List (List Char)) (word : String) (words : List String) :
    Template.weave ([], p.1 :: p.2) (word :: words) = word.toList ++ Template.weave p words := by
  simp [Template.weave]

/-- What is written for lexemes is what is written for the placeholders among them, between pieces. -/
theorem flatten_mapM_write (xs : List Lexeme) :
    List.flatten <$> xs.mapM (Lexeme.write f) =
      Template.weave (gaps xs) <$> (xs.filterMap Lexeme.name?).mapM (written f) := by
  induction xs with
  | nil => simp [gaps, Template.weave]
  | cons x xs ih =>
    have hfront : ∀ front : List Char,
        (fun outs => front ++ List.flatten outs) <$> xs.mapM (Lexeme.write f) =
          (fun words => front ++ Template.weave (gaps xs) words) <$>
            (xs.filterMap Lexeme.name?).mapM (written f) := by
      intro front
      have h := congrArg (fun outs => (front ++ ·) <$> outs) ih
      simpa only [Functor.map_map] using h
    rw [List.mapM_cons, map_bind]
    cases hname : x.name? with
    | none =>
      rw [x.write_of_name?_eq_none f hname, pure_bind, gaps_of_name?_eq_none hname,
        List.filterMap_cons_none hname]
      simpa [weave_text, Functor.map_map] using hfront x.text
    | some name =>
      rw [x.write_of_name? f hname, gaps_of_name? hname, List.filterMap_cons_some hname,
        List.mapM_cons, map_bind, map_eq_pure_bind, bind_assoc]
      refine bind_congr fun word => ?_
      simpa [weave_gap, Functor.map_map] using hfront word.toList

/-- **Replacing asks for each placeholder once, in order**, and puts the answers between the pieces. -/
theorem replaceM_tokens (sql : String) :
    replaceM f sql =
      (fun words => String.ofList (Template.weave (gaps (split sql.toList)) words)) <$>
        (tokens sql).mapM (written f) := by
  have h := congrArg (fun outs => String.ofList <$> outs) (flatten_mapM_write f (split sql.toList))
  rw [replaceM_split, tokens]
  simpa only [Functor.map_map] using h

end FluentSql.Placeholder
