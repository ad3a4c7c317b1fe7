/-!
# `FluentSql.Text.Quoted` — text between quote characters

A quoted text stands between two quote characters and doubles every quote character inside, so that
the first quote that is not doubled ends it. Identifiers and text literals are written this way.

* `wrap` — a text in quotes;
* `unwrap?` — the text a quoted token stands for;
* `unwrap?_wrap` — reading a written token gives the text back, so no text can end its own token;
* `doubled_inj` — doubled text determines what was doubled, whatever follows.
-/

namespace FluentSql.Text

/-- Every quote character `q` doubled. -/
def doubled (q : Char) : List Char → List Char
  | [] => []
  | c :: cs => if c = q then q :: q :: doubled q cs else c :: doubled q cs

/-- **A text in quotes**, over characters. -/
def wrap (q : Char) (cs : List Char) : List Char :=
  q :: doubled q cs ++ [q]

/-- **A text in quotes.** -/
def quoteWith (q : Char) (s : String) : String :=
  String.ofList (wrap q s.toList)

/-- The text of a token after its opening quote: doubled quotes are read as one, and the first single
    quote has to be the last character. -/
def undouble? (q : Char) : List Char → Option (List Char)
  | [] => none
  | [c] => if c = q then some [] else none
  | c :: d :: cs =>
    if c = q then if d = q then (undouble? q cs).map (q :: ·) else none
    else (undouble? q (d :: cs)).map (c :: ·)

/-- **The text that a quoted token stands for**, `none` if it is no quoted token. -/
def unwrap? (q : Char) : List Char → Option (List Char)
  | [] => none
  | c :: cs => if c = q then undouble? q cs else none

theorem undouble?_cons_of_ne {q c : Char} (h : c ≠ q) {cs : List Char} (hcs : cs ≠ []) :
    undouble? q (c :: cs) = (undouble? q cs).map (c :: ·) := by
  cases cs with
  | nil => exact absurd rfl hcs
  | cons d ds => simp [undouble?, h]

theorem undouble?_doubled (q : Char) (cs : List Char) :
    undouble? q (doubled q cs ++ [q]) = some cs := by
  induction cs with
  | nil => simp [doubled, undouble?]
  | cons c cs ih =>
    by_cases h : c = q
    · simp [doubled, h, undouble?, ih]
    · rw [doubled, if_neg h, List.cons_append, undouble?_cons_of_ne h (by simp), ih]
      rfl

/-- **A written token reads back.** -/
theorem unwrap?_wrap (q : Char) (cs : List Char) : unwrap? q (wrap q cs) = some cs := by
  simp [unwrap?, wrap, undouble?_doubled]

/-- Where doubled text stops: at the end, or at a quote that is not doubled. -/
def IsStop (q : Char) : List Char → Prop
  | [] => True
  | c :: cs => c = q ∧ cs.head? ≠ some q

/-- **Doubled text shows where it stops**: it determines what was doubled, and what follows. -/
theorem doubled_inj {q : Char} {as bs xs ys : List Char} (hxs : IsStop q xs) (hys : IsStop q ys)
    (h : doubled q as ++ xs = doubled q bs ++ ys) : as = bs ∧ xs = ys := by
  induction as generalizing bs with
  | nil =>
    cases bs with
    | nil => exact ⟨rfl, h⟩
    | cons b bs =>
      have hstop : IsStop q (doubled q (b :: bs) ++ ys) := h ▸ hxs
      by_cases hb : b = q
      · rw [doubled, if_pos hb] at hstop
        exact absurd rfl hstop.2
      · rw [doubled, if_neg hb] at hstop
        exact absurd hstop.1 hb
  | cons a as ih =>
    cases bs with
    | nil =>
      have hstop : IsStop q (doubled q (a :: as) ++ xs) := h.symm ▸ hys
      by_cases ha : a = q
      · rw [doubled, if_pos ha] at hstop
        exact absurd rfl hstop.2
      · rw [doubled, if_neg ha] at hstop
        exact absurd hstop.1 ha
    | cons b bs =>
      by_cases ha : a = q
      · by_cases hb : b = q
        · rw [doubled, doubled, if_pos ha, if_pos hb] at h
          obtain ⟨rfl, rfl⟩ := ih (List.cons.inj (List.cons.inj h).2).2
          exact ⟨by rw [ha, hb], rfl⟩
        · rw [doubled, doubled, if_pos ha, if_neg hb] at h
          exact absurd (List.cons.inj h).1.symm hb
      · by_cases hb : b = q
        · rw [doubled, doubled, if_neg ha, if_pos hb] at h
          exact absurd (List.cons.inj h).1 ha
        · rw [doubled, doubled, if_neg ha, if_neg hb] at h
          obtain ⟨rfl, rfl⟩ := ih (List.cons.inj h).2
          exact ⟨by rw [(List.cons.inj h).1], rfl⟩

end FluentSql.Text
