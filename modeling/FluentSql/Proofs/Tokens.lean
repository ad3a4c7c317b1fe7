import FluentSql.Dialect
import FluentSql.Params
import FluentSql.Text.Blank
import FluentSql.Text.Quoted
/-!
# `FluentSql.Proofs.Tokens` — reading SQL text as tokens

A reader of SQL that knows the quote character of its dialect sees tokens: a quoted identifier is one
token, whatever is between its quotes, a word is one token, and of the rest every character that is no
blank. The reader goes over the text once, character by character; `Open` is what the characters read
so far leave open.

* `IsRead` — what characters are read as; `IsRead.spaced`, `IsRead.marked` read part by part;
* `isRead_wrap` — a quoted identifier is one token, with the text that was quoted;
* `isRead_of_chars` — parentheses among the tokens are those outside quotes.
-/

namespace FluentSql.Reading

open FluentSql.Text

/-! ## The reader -/

/-- **A token.** -/
inductive Token where
  /-- A quoted identifier, by the text that was quoted. -/
  | quoted (name : List Char)
  /-- Letters, digits, underscores and colons in a row: keywords, numbers, placeholders. -/
  | word (cs : List Char)
  /-- Any other character that is no blank. -/
  | mark (c : Char)
  deriving DecidableEq

/-- **What is open** while a text is read; what was read of a token is in reverse. -/
inductive Open where
  | nothing
  | word (read : List Char)
  | quoted (read : List Char)
  /-- After a quote that ends the identifier unless it is doubled. -/
  | closing (read : List Char)
  deriving DecidableEq

/-- Whether an identifier is open. -/
def Open.isQuoted : Open → Bool
  | .quoted _ => true
  | _ => false

/-- The characters of words. -/
def inWord (c : Char) : Bool := Params.isNameChar c || c == ':'

variable (d : Dialect)

/-- A character with nothing open: the tokens it is and what it opens. -/
def fresh (c : Char) : List Token × Open :=
  if c = d.quoteChar then ([], .quoted [])
  else if inWord c then ([], .word [c])
  else if isBlank c then ([], .nothing)
  else ([.mark c], .nothing)

/-- **One character**: the tokens it ends or is, and what is open after it. -/
def step : Open → Char → List Token × Open
  | .nothing, c => fresh d c
  | .word read, c =>
    if inWord c then ([], .word (c :: read))
    else (.word read.reverse :: (fresh d c).1, (fresh d c).2)
  | .quoted read, c => if c = d.quoteChar then ([], .closing read) else ([], .quoted (c :: read))
  | .closing read, c =>
    if c = d.quoteChar then ([], .quoted (c :: read))
    else (.quoted read.reverse :: (fresh d c).1, (fresh d c).2)

/-- The tokens that the end of the text ends. A quote that is still open is no identifier. -/
def stop : Open → List Token
  | .nothing => []
  | .word read => [.word read.reverse]
  | .quoted read => .mark d.quoteChar :: read.reverse.map .mark
  | .closing read => [.quoted read.reverse]

/-- The tokens that a text ends or is, and what is open after it. -/
def readFrom (o : Open) : List Char → List Token × Open
  | [] => ([], o)
  | c :: cs =>
    ((step d o c).1 ++ (readFrom (step d o c).2 cs).1, (readFrom (step d o c).2 cs).2)

/-- The tokens of the rest of a text. -/
def tokensFrom (o : Open) (cs : List Char) : List Token :=
  (readFrom d o cs).1 ++ stop d (readFrom d o cs).2

/-- **The tokens of a text.** -/
def tokens (cs : List Char) : List Token := tokensFrom d .nothing cs

/-! ## Part by part -/

variable {d}

/-- **Characters that are read as tokens**, and leave no identifier open. -/
structure IsRead (d : Dialect) (cs : List Char) (ts : List Token) : Prop where
  tokens_eq : tokens d cs = ts
  closed : (readFrom d .nothing cs).2.isQuoted = false

theorem isRead_nil : IsRead d [] [] := ⟨rfl, rfl⟩

theorem readFrom_cons {o next : Open} {c : Char} {ts : List Token} (h : step d o c = (ts, next))
    (cs : List Char) :
    readFrom d o (c :: cs) = (ts ++ (readFrom d next cs).1, (readFrom d next cs).2) := by
  rw [readFrom, h]

theorem readFrom_append (o : Open) (as bs : List Char) :
    readFrom d o (as ++ bs) =
      ((readFrom d o as).1 ++ (readFrom d (readFrom d o as).2 bs).1,
        (readFrom d (readFrom d o as).2 bs).2) := by
  induction as generalizing o with
  | nil => rfl
  | cons a as ih => simp only [List.cons_append, readFrom, ih, List.append_assoc]

/-- A character that no word and no identifier takes in ends what is open. -/
theorem step_of_not_quoted {o : Open} (ho : o.isQuoted = false) {c : Char}
    (hword : inWord c = false) (hquote : c ≠ d.quoteChar) :
    step d o c = (stop d o ++ (fresh d c).1, (fresh d c).2) := by
  cases o with
  | nothing => rfl
  | word read => simp [step, stop, hword]
  | quoted read => cases ho
  | closing read => simp [step, stop, hquote]

/-- **Two parts** with such a character between them are read one after the other. -/
theorem IsRead.across {as bs : List Char} {ts us sep : List Token} (has : IsRead d as ts)
    (hbs : IsRead d bs us) {c : Char} (hword : inWord c = false) (hquote : c ≠ d.quoteChar)
    (hfresh : fresh d c = (sep, .nothing)) : IsRead d (as ++ c :: bs) (ts ++ (sep ++ us)) := by
  have hstep := step_of_not_quoted has.closed hword hquote
  rw [hfresh] at hstep
  constructor
  · rw [← has.tokens_eq, ← hbs.tokens_eq]
    simp only [tokens, tokensFrom, readFrom_append, readFrom_cons hstep, List.append_assoc]
  · rw [readFrom_append, readFrom_cons hstep]
    exact hbs.closed

/-- **Two parts** with a blank between them. -/
theorem IsRead.spaced {as bs : List Char} {ts us : List Token} (has : IsRead d as ts)
    (hbs : IsRead d bs us) : IsRead d (as ++ ' ' :: bs) (ts ++ us) := by
  have hfresh : fresh d ' ' = ([], .nothing) := by cases d <;> rfl
  exact has.across hbs (by decide) (by cases d <;> decide) hfresh

/-- The characters that are tokens of their own in every dialect. -/
def isMark (c : Char) : Bool := !inWord c && !isBlank c && c != '\x60' && c != '"'

/-- **Two parts** with such a character between them. -/
theorem IsRead.marked {as bs : List Char} {ts us : List Token} (has : IsRead d as ts) {c : Char}
    (hc : isMark c = true) (hbs : IsRead d bs us) :
    IsRead d (as ++ c :: bs) (ts ++ .mark c :: us) := by
  simp only [isMark, Bool.and_eq_true, Bool.not_eq_true', bne_iff_ne] at hc
  obtain ⟨⟨⟨hword, hblank⟩, hback⟩, hdouble⟩ := hc
  have hquote : c ≠ d.quoteChar := by
    cases d <;> assumption
  have hfresh : fresh d c = ([.mark c], .nothing) := by
    simp [fresh, hword, hblank, hquote]
  exact has.across hbs hword hquote hfresh

/-- **Parentheses** around a text. -/
theorem IsRead.parens {cs : List Char} {ts : List Token} (h : IsRead d cs ts) :
    IsRead d ('(' :: (cs ++ [')'])) (.mark '(' :: (ts ++ [.mark ')'])) :=
  isRead_nil.marked (by decide) (h.marked (by decide) isRead_nil)

/-! ## Words and identifiers -/

theorem inWord_quoteChar (d : Dialect) : inWord d.quoteChar = false := by
  cases d <;> decide

theorem ne_quoteChar_of_inWord {c : Char} (h : inWord c = true) : c ≠ d.quoteChar := by
  rintro rfl
  rw [inWord_quoteChar] at h
  cases h

/-- A word goes on as long as its characters do. -/
theorem readFrom_word {cs : List Char} (hcs : ∀ c ∈ cs, inWord c = true) (read : List Char) :
    readFrom d (.word read) cs = ([], .word (cs.reverse ++ read)) := by
  induction cs generalizing read with
  | nil => rfl
  | cons c cs ih =>
    have hc : step d (.word read) c = ([], .word (c :: read)) := if_pos (hcs c (by simp))
    rw [readFrom_cons hc, ih fun b hb => hcs b (List.mem_cons_of_mem c hb)]
    simp

/-- **A word is one token.** -/
theorem isRead_word {cs : List Char} (hcs : ∀ c ∈ cs, inWord c = true) (hne : cs ≠ []) :
    IsRead d cs [.word cs] := by
  cases cs with
  | nil => exact absurd rfl hne
  | cons c cs =>
    have hword : inWord c = true := hcs c (by simp)
    have hc : step d .nothing c = ([], .word [c]) := by
      show fresh d c = _
      rw [fresh, if_neg (ne_quoteChar_of_inWord hword), if_pos hword]
    have hread : readFrom d .nothing (c :: cs) = ([], .word (cs.reverse ++ [c])) := by
      rw [readFrom_cons hc, readFrom_word fun b hb => hcs b (List.mem_cons_of_mem c hb)]
      rfl
    constructor
    · rw [tokens, tokensFrom, hread]
      simp [stop]
    · rw [hread]
      rfl

/-- Doubled quotes stay inside the identifier and are read as one. -/
theorem readFrom_doubled (read cs rest : List Char) :
    readFrom d (.quoted read) (doubled d.quoteChar cs ++ rest) =
      readFrom d (.quoted (cs.reverse ++ read)) rest := by
  induction cs generalizing read with
  | nil => rfl
  | cons c cs ih =>
    by_cases hc : c = d.quoteChar
    · have hend : step d (.quoted read) d.quoteChar = ([], .closing read) := if_pos rfl
      have hagain : step d (.closing read) d.quoteChar = ([], .quoted (d.quoteChar :: read)) :=
        if_pos rfl
      rw [doubled, if_pos hc, List.cons_append, List.cons_append, readFrom_cons hend,
        readFrom_cons hagain, ih]
      simp [hc]
    · have hgo : step d (.quoted read) c = ([], .quoted (c :: read)) := if_neg hc
      rw [doubled, if_neg hc, List.cons_append, readFrom_cons hgo, ih]
      simp

/-- **A quoted identifier is one token**, whatever was quoted. -/
theorem isRead_wrap (cs : List Char) : IsRead d (wrap d.quoteChar cs) [.quoted cs] := by
  have hopen : step d .nothing d.quoteChar = ([], .quoted []) := if_pos rfl
  have hclose : step d (.quoted cs.reverse) d.quoteChar = ([], .closing cs.reverse) := if_pos rfl
  have hread : readFrom d .nothing (wrap d.quoteChar cs) = ([], .closing cs.reverse) := by
    rw [wrap, List.cons_append, readFrom_cons hopen, readFrom_doubled, List.append_nil,
      readFrom_cons hclose]
    rfl
  constructor
  · rw [tokens, tokensFrom, hread]
    simp [stop]
  · rw [hread]
    rfl

/-! ## Parentheses -/

/-- **What a text is inside of**: whether a quoted identifier, and how many parentheses. -/
structure Nesting where
  quoted : Bool
  depth : Nat
  deriving DecidableEq

/-- A character inside of something; a parenthesis that closes nothing is refused. -/
def Nesting.char (d : Dialect) (n : Nesting) (c : Char) : Option Nesting :=
  if c = d.quoteChar then some { n with quoted := !n.quoted }
  else if n.quoted then some n
  else if c = '(' then some { n with depth := n.depth + 1 }
  else if c = ')' then if n.depth = 0 then none else some { n with depth := n.depth - 1 }
  else some n

/-- A token inside of parentheses. -/
def paren (depth : Nat) : Token → Option Nat
  | .mark c =>
    if c = '(' then some (depth + 1)
    else if c = ')' then if depth = 0 then none else some (depth - 1)
    else some depth
  | _ => some depth

theorem foldlM_cons_of {α β : Type} {f : β → α → Option β} {b next : β} {a : α}
    (h : f b a = some next) (as : List α) : (a :: as).foldlM f b = as.foldlM f next := by
  rw [List.foldlM_cons, h]
  rfl

theorem foldlM_append_of {α β : Type} {f : β → α → Option β} {b next : β} {as : List α}
    (h : as.foldlM f b = some next) (bs : List α) : (as ++ bs).foldlM f b = bs.foldlM f next := by
  rw [List.foldlM_append, h]
  rfl

/-- A character with nothing open, seen as a character and as tokens. -/
theorem fresh_of_char {c : Char} {depth : Nat} {n : Nesting}
    (h : Nesting.char d ⟨false, depth⟩ c = some n) :
    (fresh d c).2.isQuoted = n.quoted ∧ (fresh d c).1.foldlM paren depth = some n.depth := by
  unfold Nesting.char at h
  unfold fresh
  by_cases hquote : c = d.quoteChar
  · rw [if_pos hquote] at h ⊢
    cases h
    exact ⟨rfl, rfl⟩
  · rw [if_neg hquote] at h ⊢
    rw [if_neg Bool.false_ne_true] at h
    by_cases hparen : c = '(' ∨ c = ')'
    · have hword : inWord c = false := by
        rcases hparen with rfl | rfl <;> decide
      have hblank : isBlank c = false := by
        rcases hparen with rfl | rfl <;> decide
      rw [hword, hblank]
      rcases hparen with rfl | rfl
      · cases h
        exact ⟨rfl, rfl⟩
      · simp only [↓reduceIte, Char.reduceEq] at h
        by_cases hdepth : depth = 0
        · simp [hdepth] at h
        · simp only [hdepth, ↓reduceIte] at h
          cases h
          simp [Open.isQuoted, paren, hdepth]
    · rw [not_or] at hparen
      rw [if_neg hparen.1, if_neg hparen.2] at h
      cases h
      split
      · exact ⟨rfl, rfl⟩
      · split
        · exact ⟨rfl, rfl⟩
        · simp [Open.isQuoted, paren, hparen.1, hparen.2]

/-- **One character**, seen as a character and as what it ends or is. -/
theorem step_of_char {o : Open} {c : Char} {depth : Nat} {n : Nesting}
    (h : Nesting.char d ⟨o.isQuoted, depth⟩ c = some n) :
    (step d o c).2.isQuoted = n.quoted ∧ (step d o c).1.foldlM paren depth = some n.depth := by
  cases o with
  | nothing => exact fresh_of_char h
  | word read =>
    rw [step]
    by_cases hword : inWord c = true
    · have hquote : c ≠ d.quoteChar := ne_quoteChar_of_inWord hword
      have hparen : c ≠ '(' ∧ c ≠ ')' := by
        constructor <;> rintro rfl <;> exact absurd hword (by decide)
      rw [if_pos hword]
      unfold Nesting.char at h
      rw [if_neg hquote, if_neg hparen.1, if_neg hparen.2] at h
      cases h
      exact ⟨rfl, rfl⟩
    · rw [if_neg hword]
      exact fresh_of_char h
  | quoted read =>
    rw [step]
    unfold Nesting.char at h
    by_cases hquote : c = d.quoteChar
    · rw [if_pos hquote] at h ⊢
      cases h
      exact ⟨rfl, rfl⟩
    · rw [if_neg hquote] at h ⊢
      cases h
      exact ⟨rfl, rfl⟩
  | closing read =>
    rw [step]
    by_cases hquote : c = d.quoteChar
    · unfold Nesting.char at h
      rw [if_pos hquote] at h ⊢
      cases h
      exact ⟨rfl, rfl⟩
    · rw [if_neg hquote]
      exact fresh_of_char h

/-- A text, seen as characters and as what it ends or is. -/
theorem readFrom_of_chars {o : Open} {cs : List Char} {depth : Nat} {n : Nesting}
    (h : cs.foldlM (Nesting.char d) ⟨o.isQuoted, depth⟩ = some n) :
    (readFrom d o cs).2.isQuoted = n.quoted ∧
      (readFrom d o cs).1.foldlM paren depth = some n.depth := by
  induction cs generalizing o depth with
  | nil =>
    cases h
    exact ⟨rfl, rfl⟩
  | cons c cs ih =>
    obtain ⟨next, hnext, hrest⟩ := Option.bind_eq_some_iff.mp h
    obtain ⟨hquoted, hdepth⟩ := step_of_char hnext
    have hread : cs.foldlM (Nesting.char d) ⟨(step d o c).2.isQuoted, next.depth⟩ = some n := by
      rw [hquoted]
      exact hrest
    rw [readFrom, foldlM_append_of hdepth]
    exact ih hread

/-- **Parentheses among the tokens** are those outside quotes, if all quotes are closed. -/
theorem isRead_of_chars {cs : List Char} {depth after : Nat}
    (h : cs.foldlM (Nesting.char d) ⟨false, depth⟩ = some ⟨false, after⟩) :
    IsRead d cs (tokens d cs) ∧ (tokens d cs).foldlM paren depth = some after := by
  obtain ⟨hquoted, hdepth⟩ := readFrom_of_chars (o := .nothing) h
  refine ⟨⟨rfl, hquoted⟩, ?_⟩
  rw [tokens, tokensFrom, foldlM_append_of hdepth]
  cases ho : (readFrom d .nothing cs).2 with
  | quoted read =>
    rw [ho] at hquoted
    cases hquoted
  | _ => rfl

end FluentSql.Reading
