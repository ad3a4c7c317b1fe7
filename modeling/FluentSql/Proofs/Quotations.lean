import FluentSql.Proofs.Scanning
/-!
# `FluentSql.Proofs.Quotations` — what stands in quotes

The **quotations** of a text are its quoted regions, from left to right, each with the text it stands
for: string literals between single quotes, identifiers between the quotes of a dialect. A doubled
quote inside a region stands for one.

Squeezing does not know of quotes. It takes the blanks inside a region for blanks, so each run of them
becomes one space there too, and that is all that happens to a region: none is lost, none is added, and
their order is kept.

* `quotations_squeezeChars` — the quotations of squeezed text, for any text;
* `Quotation.tidied_eq_self_iff` — which quotations squeezing leaves as they are;
* `Quotes` — the quotations of a template part by part, up to a change made to each of them.
-/

namespace FluentSql

open FluentSql.Text Template

/-! ## Reading quotations -/

/-- **A quotation**: the quote character around it and the text it stands for. -/
structure Quotation where
  quote : Quote
  contents : List Char
  deriving DecidableEq, Repr

namespace Quotation

/-- **What is open** while quotations are read. -/
inductive Open where
  | nothing
  /-- Inside a region, after the characters read of it. -/
  | inside (q : Quote) (read : List Char)
  /-- After a quote that ends the region unless it is doubled. -/
  | closing (q : Quote) (read : List Char)
  deriving DecidableEq, Repr

namespace Open

/-- What a character opens where nothing is open. -/
def fresh (c : Char) : Open :=
  if h : Placeholder.isQuote c = true then .inside ⟨c, h⟩ [] else .nothing

/-- What is open after one more character. -/
def next : Open → Char → Open
  | .nothing, c => fresh c
  | .inside q read, c => if c = q.val then .closing q read else .inside q (read ++ [c])
  | .closing q read, c => if c = q.val then .inside q (read ++ [c]) else fresh c

/-- The quotation that a character shows to be at its end. -/
def ended : Open → Char → List Quotation
  | .closing q read, c => if c = q.val then [] else [⟨q, read⟩]
  | _, _ => []

/-- The quotation that the end of the text shows to be at its end; a region that is never closed is
    none. -/
def stop : Open → List Quotation
  | .closing q read => [⟨q, read⟩]
  | _ => []

/-- What is open after some characters. -/
def after (o : Open) (cs : List Char) : Open := cs.foldl next o

/-- The quotations that some characters show to be at their ends. -/
def passed (o : Open) : List Char → List Quotation
  | [] => []
  | c :: cs => ended o c ++ passed (next o c) cs

/-- Nothing is open. -/
def IsPlain (o : Open) : Prop := o = .nothing

/-- No region is open, though one may just have been closed. -/
def IsOuter : Open → Prop
  | .inside _ _ => False
  | _ => True

theorem after_cons (o : Open) (c : Char) (cs : List Char) :
    after o (c :: cs) = after (next o c) cs := rfl

theorem after_append (o : Open) (as bs : List Char) :
    after o (as ++ bs) = after (after o as) bs := List.foldl_append

theorem passed_append (o : Open) (as bs : List Char) :
    passed o (as ++ bs) = passed o as ++ passed (after o as) bs := by
  induction as generalizing o with
  | nil => rfl
  | cons a as ih => rw [List.cons_append, passed, passed, ih, after_cons, List.append_assoc]

theorem isOuter_of_isPlain {o : Open} (h : o.IsPlain) : o.IsOuter := by
  rw [h]
  trivial

theorem ne_of_not_isQuote {c : Char} (hc : Placeholder.isQuote c = false) (q : Quote) :
    c ≠ q.val := by
  rintro rfl
  rw [q.property] at hc
  cases hc

theorem fresh_of_not_isQuote {c : Char} (hc : Placeholder.isQuote c = false) :
    fresh c = .nothing := by
  unfold fresh
  rw [dif_neg (by rw [hc]; decide)]

/-- **A character that is no quote** shows the end of what was about to be closed. -/
theorem next_of_not_isQuote {o : Open} (ho : o.IsOuter) {c : Char}
    (hc : Placeholder.isQuote c = false) : next o c = .nothing ∧ ended o c = stop o := by
  cases o with
  | nothing => exact ⟨fresh_of_not_isQuote hc, rfl⟩
  | inside q read => exact ho.elim
  | closing q read =>
    have hne : c ≠ q.val := ne_of_not_isQuote hc q
    constructor
    · rw [next, if_neg hne, fresh_of_not_isQuote hc]
    · rw [ended, if_neg hne]
      rfl

end Open

end Quotation

open Quotation (Open)

/-- **The quotations of a text.** -/
def quotations (cs : List Char) : List Quotation :=
  Open.passed .nothing cs ++ (Open.after .nothing cs).stop

/-- **Whether all quotes of a text are closed.** -/
def closesQuotes (cs : List Char) : Bool :=
  match Open.after .nothing cs with
  | .inside _ _ => false
  | _ => true

theorem isOuter_of_closesQuotes {cs : List Char} (h : closesQuotes cs = true) :
    (Open.after .nothing cs).IsOuter := by
  unfold closesQuotes at h
  cases ho : Open.after .nothing cs with
  | inside q read =>
    rw [ho] at h
    cases h
  | nothing => trivial
  | closing q read => trivial

/-! ## Tidied quotations -/

/-- **Every run of blanks as one space**, with a run that is pending. -/
def collapse (pending : Bool) : List Char → List Char
  | [] => if pending then [' '] else []
  | c :: cs =>
    if isBlank c then collapse true cs
    else (if pending then [' '] else []) ++ c :: collapse false cs

/-- **A quotation with every run of blanks in it as one space.** -/
def Quotation.tidied (r : Quotation) : Quotation := { r with contents := collapse false r.contents }

theorem collapse_cons_blank {c : Char} (h : isBlank c = true) (pending : Bool) (cs : List Char) :
    collapse pending (c :: cs) = collapse true cs := if_pos h

theorem collapse_cons_solid {c : Char} (h : isBlank c = false) (pending : Bool) (cs : List Char) :
    collapse pending (c :: cs) = (if pending then [' '] else []) ++ c :: collapse false cs := by
  rw [collapse, h]
  rfl

/-- A solid character cuts a text in two. -/
theorem collapse_append_solid {c : Char} (h : isBlank c = false) (pending : Bool)
    (as bs : List Char) :
    collapse pending (as ++ c :: bs) = collapse pending as ++ c :: collapse false bs := by
  induction as generalizing pending with
  | nil => exact collapse_cons_solid h pending bs
  | cons a as ih =>
    rw [List.cons_append]
    cases ha : isBlank a with
    | true => rw [collapse_cons_blank ha, collapse_cons_blank ha, ih]
    | false =>
      rw [collapse_cons_solid ha, collapse_cons_solid ha, ih, List.append_assoc, List.cons_append]

/-- What was collapsed stays as it is. -/
theorem collapse_collapse (pending : Bool) (cs : List Char) :
    collapse false (collapse pending cs) = collapse pending cs := by
  have hspace : isBlank ' ' = true := isBlank_space
  induction cs generalizing pending with
  | nil =>
    cases pending with
    | false => rfl
    | true => decide
  | cons c cs ih =>
    cases hc : isBlank c with
    | true => rw [collapse_cons_blank hc, ih]
    | false =>
      rw [collapse_cons_solid hc]
      cases pending with
      | false =>
        show collapse false (c :: collapse false cs) = c :: collapse false cs
        rw [collapse_cons_solid hc, ih]
        rfl
      | true =>
        show collapse false (' ' :: c :: collapse false cs) = ' ' :: c :: collapse false cs
        rw [collapse_cons_blank hspace, collapse_cons_solid hc, ih]
        rfl

namespace Quotation

@[simp] theorem tidied_tidied (r : Quotation) : r.tidied.tidied = r.tidied := by
  unfold tidied
  rw [collapse_collapse]

theorem map_tidied_tidied (rs : List Quotation) :
    (rs.map tidied).map tidied = rs.map tidied := by
  rw [List.map_map]
  exact List.map_congr_left fun r _ => tidied_tidied r

/-- Blanks that stand alone and are spaces. -/
def AreSingleSpaces (cs : List Char) : Prop :=
  ∀ front back c, cs = front ++ c :: back → isBlank c = true →
    c = ' ' ∧ ∀ d ∈ back.head?, isBlank d = false

theorem areSingleSpaces_nil : AreSingleSpaces [] := by
  intro front back c heq
  exact absurd heq.symm (by simp)

theorem areSingleSpaces_cons (c : Char) (cs : List Char) :
    AreSingleSpaces (c :: cs) ↔
      (isBlank c = true → c = ' ' ∧ ∀ d ∈ cs.head?, isBlank d = false) ∧ AreSingleSpaces cs := by
  constructor
  · intro h
    refine ⟨h [] cs c rfl, ?_⟩
    intro front back b heq hb
    exact h (c :: front) back b (congrArg (c :: ·) heq) hb
  · rintro ⟨hfirst, hrest⟩ front back b heq hb
    cases front with
    | nil =>
      obtain ⟨rfl, rfl⟩ := List.cons.inj heq
      exact hfirst hb
    | cons a front => exact hrest front back b (List.cons.inj heq).2 hb

/-- What collapsing leaves holds single spaces only, and one in front only if a blank was there. -/
theorem areSingleSpaces_collapse (pending : Bool) (cs : List Char) :
    AreSingleSpaces (collapse pending cs) := by
  have hspace : ∀ {ds : List Char}, (∀ d ∈ ds.head?, isBlank d = false) → AreSingleSpaces ds →
      AreSingleSpaces (' ' :: ds) := by
    intro ds hhead hds
    exact (areSingleSpaces_cons ' ' ds).mpr ⟨fun _ => ⟨rfl, hhead⟩, hds⟩
  induction cs generalizing pending with
  | nil =>
    cases pending with
    | false => exact areSingleSpaces_nil
    | true => exact hspace (by simp) areSingleSpaces_nil
  | cons c cs ih =>
    cases hc : isBlank c with
    | true =>
      rw [collapse_cons_blank hc]
      exact ih true
    | false =>
      have hsolid : AreSingleSpaces (c :: collapse false cs) := by
        refine (areSingleSpaces_cons c _).mpr ⟨?_, ih false⟩
        intro hb
        rw [hc] at hb
        cases hb
      rw [collapse_cons_solid hc]
      cases pending with
      | false => exact hsolid
      | true => exact hspace (by simpa using hc) hsolid

/-- Single spaces stay as they are. -/
theorem collapse_of_areSingleSpaces {cs : List Char} (h : AreSingleSpaces cs) :
    collapse false cs = cs := by
  induction cs with
  | nil => rfl
  | cons c cs ih =>
    obtain ⟨hfirst, htail⟩ := (areSingleSpaces_cons c cs).mp h
    cases hc : isBlank c with
    | false =>
      rw [collapse_cons_solid hc, ih htail]
      rfl
    | true =>
      obtain ⟨rfl, hhead⟩ := hfirst hc
      rw [collapse_cons_blank hc]
      cases cs with
      | nil => rfl
      | cons d ds =>
        have hd : isBlank d = false := hhead d rfl
        have hds := ih htail
        rw [collapse_cons_solid hd] at hds ⊢
        exact congrArg (' ' :: ·) hds

/-- **The quotations that squeezing leaves as they are**: every blank in them is a space, and no two
    blanks stand side by side. -/
theorem tidied_eq_self_iff (r : Quotation) : r.tidied = r ↔ AreSingleSpaces r.contents := by
  constructor
  · intro h
    have hcontents : collapse false r.contents = r.contents := congrArg contents h
    exact hcontents ▸ areSingleSpaces_collapse false r.contents
  · intro h
    unfold tidied
    rw [collapse_of_areSingleSpaces h]

/-! ## Squeezing -/

/-- **The reading of squeezed text follows that of the text.** `started` and `pending` are the flags of
    squeezing, `o` is open in the text and `o'` in the squeezed text. Where a region was closed in both
    and a blank is pending, the text has shown its end already and the squeezed text has not: this
    quotation is `owed`. -/
inductive Follows : Bool → Bool → List Quotation → Open → Open → Prop where
  | outside (started pending : Bool) : Follows started pending [] .nothing .nothing
  | behind (q : Quote) (read : List Char) :
    Follows true true [⟨q, read⟩] .nothing (.closing q read)
  | closing (q : Quote) (read : List Char) :
    Follows true false [] (.closing q read) (.closing q (collapse false read))
  | inside (pending : Bool) (q : Quote) (read read' : List Char)
      (hread : ∀ more, collapse false (read ++ more) = read' ++ collapse pending more) :
    Follows true pending [] (.inside q read) (.inside q read')

namespace Follows

variable {started pending : Bool} {owed : List Quotation} {o o' : Open}

/-- At the end of the text nothing is owed any more. -/
theorem stop (h : Follows started pending owed o o') : o'.stop = owed ++ o.stop.map tidied := by
  cases h with
  | outside => rfl
  | behind q read => rfl
  | closing q read => rfl
  | inside _ q read read' _ => rfl

theorem isOuter_iff (h : Follows started pending owed o o') : o'.IsOuter ↔ o.IsOuter := by
  cases h <;> exact Iff.rfl

/-- Blanks are no quotes. -/
theorem isQuote_of_isBlank {c : Char} (hc : isBlank c = true) : Placeholder.isQuote c = false := by
  by_cases hquote : Placeholder.isQuote c = true
  · rw [Region.isBlank_of_isQuote hquote] at hc
    cases hc
  · exact Bool.eq_false_iff.mpr hquote

/-- **A blank** is not written, and is pending. -/
theorem blank (h : Follows started pending owed o o') {c : Char} (hc : isBlank c = true) :
    Follows started true (owed ++ (o.ended c).map tidied) (o.next c) o' := by
  have hquote : Placeholder.isQuote c = false := isQuote_of_isBlank hc
  have hne : ∀ q : Quote, c ≠ q.val := Open.ne_of_not_isQuote hquote
  cases h with
  | outside =>
    rw [Open.next, Open.fresh_of_not_isQuote hquote]
    exact .outside started true
  | behind q read =>
    rw [Open.next, Open.fresh_of_not_isQuote hquote]
    exact .behind q read
  | closing q read =>
    rw [Open.next, Open.ended, if_neg (hne q), if_neg (hne q), Open.fresh_of_not_isQuote hquote]
    exact .behind q (collapse false read)
  | inside _ q read read' hread =>
    rw [Open.next, if_neg (hne q)]
    refine .inside true q (read ++ [c]) read' ?_
    intro more
    rw [List.append_assoc, List.singleton_append, hread, collapse_cons_blank hc]

/-- Where nothing is open, a solid character opens the same in both. -/
theorem fresh (c : Char) : Follows true false [] (Open.fresh c) (Open.fresh c) := by
  unfold Open.fresh
  by_cases hquote : Placeholder.isQuote c = true
  · rw [dif_pos hquote]
    refine .inside false ⟨c, hquote⟩ [] [] ?_
    intro more
    rfl
  · rw [dif_neg hquote]
    exact .outside true false

/-- A solid character in a region, behind a space if a blank is pending. -/
theorem solid_inside {q : Quote} {read read' : List Char}
    (hread : ∀ more, collapse false (read ++ more) = read' ++ collapse pending more) {c : Char}
    (hc : isBlank c = false) :
    Open.passed (.inside q read') ((if pending then [' '] else []) ++ [c]) = [] ∧
      Follows true false [] (Open.next (.inside q read) c)
        (Open.after (.inside q read') ((if pending then [' '] else []) ++ [c])) := by
  have hspace : ' ' ≠ q.val := Open.ne_of_not_isQuote (by decide) q
  have hahead : Open.after (.inside q read') (if pending then [' '] else []) =
      .inside q (read' ++ if pending then [' '] else []) := by
    cases pending with
    | false => exact congrArg (Open.inside q) (List.append_nil read').symm
    | true => exact if_neg hspace
  have hnone : Open.passed (.inside q read') (if pending then [' '] else []) = [] := by
    cases pending <;> rfl
  rw [Open.passed_append, Open.after_append, hahead, hnone]
  refine ⟨rfl, ?_⟩
  show Follows true false [] (Open.next (.inside q read) c)
    (Open.next (.inside q (read' ++ if pending then [' '] else [])) c)
  by_cases hcq : c = q.val
  · have hwhole : collapse false read = read' ++ if pending then [' '] else [] := by
      have hend := hread []
      rwa [List.append_nil] at hend
    rw [Open.next, Open.next, if_pos hcq, if_pos hcq, ← hwhole]
    exact .closing q read
  · rw [Open.next, Open.next, if_neg hcq, if_neg hcq]
    refine .inside false q _ _ ?_
    intro more
    rw [List.append_assoc, List.singleton_append, hread, collapse_cons_solid hc,
      List.append_assoc, List.append_assoc, List.singleton_append]

/-- **A solid symbol** is written, behind a space if a blank is pending. Then nothing is owed. -/
theorem solid (h : Follows started pending owed o o') {c : Char} (hc : isBlank c = false) :
    Open.passed o' ((if started && pending then [' '] else []) ++ [c]) =
        owed ++ (o.ended c).map tidied ∧
      Follows true false [] (o.next c)
        (Open.after o' ((if started && pending then [' '] else []) ++ [c])) := by
  have hne : ∀ q : Quote, ' ' ≠ q.val := Open.ne_of_not_isQuote (by decide)
  cases h with
  | outside =>
    cases started && pending with
    | false => exact ⟨rfl, fresh c⟩
    | true => exact ⟨rfl, fresh c⟩
  | behind q read =>
    have hended : Open.ended (.closing q read) ' ' = [⟨q, read⟩] := if_neg (hne q)
    have hnext : Open.next (.closing q read) ' ' = .nothing := if_neg (hne q)
    constructor
    · show Open.ended _ ' ' ++ (Open.ended (Open.next _ ' ') c ++ []) = _
      rw [hended, hnext]
      rfl
    · show Follows true false [] (Open.fresh c) (Open.next (Open.next _ ' ') c)
      rw [hnext]
      exact fresh c
  | closing q read =>
    show Open.ended (.closing q (collapse false read)) c ++ [] =
        [] ++ (Open.ended (.closing q read) c).map tidied ∧
      Follows true false [] (Open.next (.closing q read) c)
        (Open.next (.closing q (collapse false read)) c)
    by_cases hcq : c = q.val
    · rw [Open.ended, Open.ended, Open.next, Open.next, if_pos hcq, if_pos hcq, if_pos hcq,
        if_pos hcq]
      refine ⟨rfl, .inside false q _ _ ?_⟩
      intro more
      rw [List.append_assoc, List.append_assoc, List.singleton_append, collapse_append_solid hc,
        List.singleton_append]
    · rw [Open.ended, Open.ended, Open.next, Open.next, if_neg hcq, if_neg hcq, if_neg hcq,
        if_neg hcq]
      exact ⟨rfl, fresh c⟩
  | inside _ q read read' hread => exact solid_inside hread hc

/-- **A whole text**: what was shown by the squeezed text and what it owes is what was shown by the
    text, tidied. -/
theorem run (h : Follows started pending owed o o') (cs : List Char) :
    ∃ started' pending' owed',
      Open.passed o' (squeeze charLook ' ' started pending cs) ++ owed' =
          owed ++ (Open.passed o cs).map tidied ∧
        Follows started' pending' owed' (Open.after o cs)
          (Open.after o' (squeeze charLook ' ' started pending cs)) := by
  induction cs generalizing started pending owed o o' with
  | nil =>
    refine ⟨started, pending, owed, ?_, h⟩
    rw [squeeze_nil, Open.passed, Open.passed, List.map_nil, List.nil_append, List.append_nil]
  | cons c cs ih =>
    cases hc : isBlank c with
    | true =>
      have hlook : charLook c = .blank := by simp [charLook, hc]
      obtain ⟨s, p, rest, hpassed, hfollows⟩ := ih (h.blank hc)
      rw [squeeze_cons_blank hlook]
      refine ⟨s, p, rest, ?_, hfollows⟩
      rw [hpassed, Open.passed, List.map_append, List.append_assoc]
    | false =>
      have hlook : charLook c = .solid := by simp [charLook, hc]
      obtain ⟨hwritten, hnext⟩ := h.solid hc
      obtain ⟨s, p, rest, hpassed, hfollows⟩ := ih hnext
      rw [squeeze_cons_solid hlook, List.append_cons]
      generalize (if started && pending then [' '] else []) ++ [c] = out at hwritten hpassed hfollows
      rw [Open.passed_append, Open.after_append]
      refine ⟨s, p, rest, ?_, hfollows⟩
      rw [List.append_assoc, hpassed, hwritten, Open.passed, List.map_append, List.nil_append,
        List.append_assoc]

end Follows

end Quotation

open Quotation (Follows)

/-- **The quotations of squeezed text** are those of the text, each of them tidied. -/
theorem quotations_squeezeChars (cs : List Char) :
    quotations (squeezeChars cs) = (quotations cs).map Quotation.tidied := by
  obtain ⟨s, p, owed, hpassed, hfollows⟩ := (Follows.outside false false).run cs
  unfold quotations squeezeChars
  rw [hfollows.stop, ← List.append_assoc, hpassed, List.nil_append, List.map_append]

/-- Squeezing closes no quote and opens none. -/
theorem isOuter_squeezeChars (cs : List Char) :
    (Open.after .nothing (squeezeChars cs)).IsOuter ↔ (Open.after .nothing cs).IsOuter := by
  obtain ⟨s, p, owed, -, hfollows⟩ := (Follows.outside false false).run cs
  exact hfollows.isOuter_iff

/-! ## Quotations of templates -/

namespace Template

open Quotation.Open (IsPlain IsOuter)

variable {f : Quotation → Quotation} {p q r : Open → Prop} {s t : Template}
  {ks ls : List Quotation}

/-- **The quotations of a template**, up to a change `f` of each of them: whatever names the slots get,
    and whatever is open before, if it is in `p`, the text ends with something open that is in `q`, and
    the quotations are what was about to be closed and then `ls`. -/
def Quotes (f : Quotation → Quotation) (p : Open → Prop) (t : Template) (ls : List Quotation)
    (q : Open → Prop) : Prop :=
  ∀ ps o, p o → q (o.after (assemble ps t).1) ∧
    (o.passed (assemble ps t).1 ++ (o.after (assemble ps t).1).stop).map f = (o.stop ++ ls).map f

theorem Quotes.nil : Quotes f p [] [] p := by
  intro ps o ho
  exact ⟨ho, congrArg (List.map f) (List.append_nil o.stop).symm⟩

/-- **One part after the other.** -/
theorem Quotes.append (hs : Quotes f p s ks q) (ht : Quotes f q t ls r) :
    Quotes f p (s ++ t) (ks ++ ls) r := by
  intro ps o ho
  obtain ⟨hq, hks⟩ := hs ps o ho
  obtain ⟨hr, hls⟩ := ht (assemble ps s).2 _ hq
  rw [assemble_append]
  dsimp only
  rw [Open.after_append, Open.passed_append]
  refine ⟨hr, ?_⟩
  rw [List.append_assoc, List.map_append, hls, List.map_append, ← List.append_assoc,
    ← List.map_append, hks, List.map_append, List.map_append, List.map_append, List.append_assoc]

/-- A part without quotations in front. -/
theorem Quotes.before (hs : Quotes f p s [] q) (ht : Quotes f q t ls r) :
    Quotes f p (s ++ t) ls r := hs.append ht

/-- A part without quotations at the end. -/
theorem Quotes.behind (hs : Quotes f p s ks q) (ht : Quotes f q t [] r) :
    Quotes f p (s ++ t) ks r := by
  have h := hs.append ht
  rwa [List.append_nil] at h

/-- What ends with nothing open may as well end with a region just closed. -/
theorem Quotes.outer (h : Quotes f p t ls IsPlain) : Quotes f p t ls IsOuter := by
  intro ps o ho
  exact ⟨Open.isOuter_of_isPlain (h ps o ho).1, (h ps o ho).2⟩

/-- What may follow a closed region may follow nothing. -/
theorem Quotes.plain (h : Quotes f IsOuter t ls q) : Quotes f IsPlain t ls q := by
  intro ps o ho
  exact h ps o (Open.isOuter_of_isPlain ho)

/-- **A template that shows nothing** has no quotations. -/
theorem Quotes.map_of_isEmpty (h : Quotes f IsPlain t ls q) (hempty : t.isEmpty = true) :
    ls.map f = [] := by
  have hnil : (assemble .empty t).1 = [] := by
    rw [isEmpty_eq_isEmpty_assemble .empty] at hempty
    exact List.isEmpty_iff.mp hempty
  have hls := (h .empty .nothing rfl).2
  rw [hnil] at hls
  exact hls.symm

/-- Quotations that the change makes equal. -/
theorem Quotes.of_map_eq (h : Quotes f p t ks q) (heq : ks.map f = ls.map f) :
    Quotes f p t ls q := by
  intro ps o ho
  refine ⟨(h ps o ho).1, ?_⟩
  rw [(h ps o ho).2, List.map_append, List.map_append, heq]

/-- A template that shows nothing changes nothing that is open. -/
theorem Quotes.of_isEmpty (h : Quotes f IsPlain t ls q) (hempty : t.isEmpty = true) :
    Quotes f p t ls p := by
  have hls : ls.map f = [] := h.map_of_isEmpty hempty
  intro ps o ho
  have hnil : (assemble ps t).1 = [] := by
    rw [isEmpty_eq_isEmpty_assemble ps] at hempty
    exact List.isEmpty_iff.mp hempty
  rw [hnil]
  refine ⟨ho, ?_⟩
  show (Open.stop o).map f = _
  rw [List.map_append, hls, List.append_nil]

/-! ### Text without quotes -/

/-- Text without quotes, after nothing. -/
theorem after_unquoted {cs : List Char} (hcs : ∀ c ∈ cs, Placeholder.isQuote c = false) :
    Open.after .nothing cs = .nothing ∧ Open.passed .nothing cs = [] := by
  induction cs with
  | nil => exact ⟨rfl, rfl⟩
  | cons c cs ih =>
    have hc : Open.next .nothing c = .nothing := Open.fresh_of_not_isQuote (hcs c (by simp))
    obtain ⟨hafter, hpassed⟩ := ih fun d hd => hcs d (List.mem_cons_of_mem c hd)
    rw [Open.after_cons, Open.passed, hc, hpassed]
    exact ⟨hafter, rfl⟩

/-- The first character of text without quotes shows what was about to be closed. -/
theorem after_unquoted_cons {o : Open} (ho : o.IsOuter) {c : Char} {cs : List Char}
    (hcs : ∀ d ∈ c :: cs, Placeholder.isQuote d = false) :
    Open.after o (c :: cs) = .nothing ∧ Open.passed o (c :: cs) = o.stop := by
  obtain ⟨hnext, hended⟩ := Open.next_of_not_isQuote ho (hcs c (by simp))
  obtain ⟨hafter, hpassed⟩ := after_unquoted fun d hd => hcs d (List.mem_cons_of_mem c hd)
  rw [Open.after_cons, Open.passed, hnext, hended, hpassed]
  exact ⟨hafter, List.append_nil _⟩

theorem isQuote_of_isInert {s : String} (h : isInert s = true) :
    ∀ c ∈ s.toList, Placeholder.isQuote c = false := by
  intro c hc
  have hinert : isInertChar c = true := List.all_eq_true.mp h c hc
  rw [isInertChar, Bool.and_eq_true, Bool.not_eq_true'] at hinert
  exact hinert.1

/-- Inert text after nothing. -/
theorem quotes_inert {s : String} (h : isInert s = true) : Quotes f IsPlain (text s) [] IsPlain := by
  intro ps o ho
  obtain ⟨hafter, hpassed⟩ := after_unquoted (isQuote_of_isInert h)
  rw [assemble_text, ho, hafter, hpassed]
  exact ⟨rfl, rfl⟩

/-- **A separator** after anything. -/
theorem quotes_separator {s : String} (h : isSeparator s = true) :
    Quotes f IsOuter (text s) [] IsPlain := by
  obtain ⟨hinert, hhead⟩ := Bool.and_eq_true_iff.mp h
  have hunquoted := isQuote_of_isInert hinert
  intro ps o ho
  rw [assemble_text]
  cases hs : s.toList with
  | nil =>
    rw [hs] at hhead
    cases hhead
  | cons c cs =>
    rw [hs] at hunquoted
    obtain ⟨hafter, hpassed⟩ := after_unquoted_cons ho hunquoted
    rw [hafter, hpassed]
    exact ⟨rfl, rfl⟩

/-- **A slot**: its name holds no quotes. -/
theorem quotes_slot (table column : String) (v : Value) :
    Quotes f IsOuter [.slot table column v] [] IsPlain := by
  intro ps o ho
  have hunquoted : ∀ c ∈ (ps.bind table column v).1.toList, Placeholder.isQuote c = false := by
    intro c hc
    rcases Params.mem_placeholderName hc with rfl | hname
    · decide
    · by_cases hquote : Placeholder.isQuote c = true
      · simp only [Placeholder.isQuote, Bool.or_eq_true, beq_iff_eq] at hquote
        rcases hquote with (rfl | rfl) | rfl <;> exact absurd hname (by decide)
      · exact Bool.eq_false_iff.mpr hquote
  rw [assemble_cons, place_slot, assemble_nil, List.append_nil]
  cases hname : (ps.bind table column v).1.toList with
  | nil => exact absurd hname (toList_bind_ne_nil ps table column v)
  | cons c cs =>
    rw [hname] at hunquoted
    obtain ⟨hafter, hpassed⟩ := after_unquoted_cons ho hunquoted
    rw [hafter, hpassed]
    exact ⟨rfl, rfl⟩

/-! ### Text with quotes -/

/-- A doubled text stays inside its quotes, whatever it holds. -/
theorem after_doubled (q : Quote) (read cs : List Char) :
    Open.after (.inside q read) (doubled q.val cs) = .inside q (read ++ cs) ∧
      Open.passed (.inside q read) (doubled q.val cs) = [] := by
  induction cs generalizing read with
  | nil => exact ⟨congrArg (Open.inside q) (List.append_nil read).symm, rfl⟩
  | cons c cs ih =>
    obtain ⟨hafter, hpassed⟩ := ih (read ++ [c])
    rw [List.append_assoc, List.singleton_append] at hafter
    by_cases hc : c = q.val
    · -- the first of two quotes closes the region, and the second one opens it again
      have hclose : Open.next (.inside q read) q.val = .closing q read := if_pos rfl
      have hagain : Open.next (.closing q read) q.val = .inside q (read ++ [q.val]) := if_pos rfl
      have hgoes : Open.ended (.closing q read) q.val = [] := if_pos rfl
      rw [hc] at hafter hpassed
      rw [doubled, if_pos hc, Open.after_cons, Open.after_cons, Open.passed, Open.passed, hclose,
        hagain, hgoes, hafter, hpassed, hc]
      exact ⟨rfl, rfl⟩
    · have hinside : Open.next (.inside q read) c = .inside q (read ++ [c]) := if_neg hc
      rw [doubled, if_neg hc, Open.after_cons, Open.passed, hinside, hafter, hpassed]
      exact ⟨rfl, rfl⟩

/-- **A text in quotes** is one quotation, of this text. -/
theorem after_wrap (q : Quote) (cs : List Char) :
    Open.after .nothing (wrap q.val cs) = .closing q cs ∧ Open.passed .nothing (wrap q.val cs) = [] := by
  have hopen : Open.next .nothing q.val = .inside q [] := dif_pos q.property
  have hclose : Open.next (.inside q cs) q.val = .closing q cs := if_pos rfl
  obtain ⟨hafter, hpassed⟩ := after_doubled q [] cs
  rw [List.nil_append] at hafter
  rw [wrap, List.cons_append, Open.after_cons, Open.passed, hopen, Open.after_append,
    Open.passed_append, hafter, hpassed]
  exact ⟨hclose, rfl⟩

/-- **Text of its own** that closes its quotes shows its quotations. -/
theorem quotes_text {s : String} (h : closesQuotes s.toList = true) :
    Quotes f IsPlain (text s) (quotations s.toList) IsOuter := by
  intro ps o ho
  rw [assemble_text, ho]
  exact ⟨isOuter_of_closesQuotes h, rfl⟩

/-- Parameters of a caller are not written. -/
theorem Quotes.given (h : Quotes f p t ls q) (params : Params) :
    Quotes f p (.given params :: t) ls q := by
  intro ps o ho
  exact h (ps.merge params) o ho

/-! ### Templates put together -/

/-- A list with one part more in front. -/
theorem quotes_joined_cons {sep : String} (hsep : isSeparator sep = true) {ts : List Template}
    (ht : Quotes f IsPlain t ks IsOuter) (hts : Quotes f IsPlain (joined sep ts) ls IsOuter) :
    Quotes f IsPlain (joined sep (t :: ts)) (ks ++ ls) IsOuter := by
  cases ts with
  | nil =>
    have h := ht.append (hts.of_isEmpty rfl)
    rwa [joined, List.append_nil] at h
  | cons u us => exact (ht.behind (quotes_separator hsep)).append hts

/-- **A list**: the quotations of its parts. -/
theorem quotes_joined {α : Type} {sep : String} (hsep : isSeparator sep = true)
    {part : α → Template} {shown : α → List Quotation} {items : List α}
    (h : ∀ a ∈ items, Quotes f IsPlain (part a) (shown a) IsOuter) :
    Quotes f IsPlain (joined sep (items.map part)) (items.flatMap shown) IsOuter := by
  induction items with
  | nil => exact Quotes.nil.outer
  | cons a items ih =>
    rw [List.map_cons, List.flatMap_cons]
    exact quotes_joined_cons hsep (h a (by simp)) (ih fun b hb => h b (List.mem_cons_of_mem a hb))

theorem quotes_intercalate {α : Type} {sep : String} (hsep : isSeparator sep = true)
    {part : α → String} {shown : α → List Quotation} {items : List α}
    (h : ∀ a ∈ items, Quotes f IsPlain (text (part a)) (shown a) IsOuter) :
    Quotes f IsPlain (text (sep.intercalate (items.map part))) (items.flatMap shown) IsOuter := by
  rw [text_intercalate, List.map_map]
  exact quotes_joined hsep h

theorem Quotes.headed (h : Quotes f IsPlain t ls IsOuter) {keyword : String}
    (hk : isInert (keyword ++ " ") = true) : Quotes f IsPlain (headed keyword t) ls IsOuter := by
  unfold FluentSql.headed
  split
  · exact h
  · exact (quotes_inert hk).before h

theorem Quotes.enclosed (h : Quotes f IsPlain t ls IsOuter) {opening : String}
    (ho : isInert opening = true) : Quotes f IsPlain (enclosed opening t) ls IsOuter := by
  unfold FluentSql.enclosed
  split
  · exact h
  · exact (((quotes_inert ho).before h).behind (quotes_separator (by decide))).outer

/-- **Squeezing** tidies the quotations, which makes no difference once they are tidied. -/
theorem Quotes.squeeze (h : Quotes Quotation.tidied IsPlain t ls IsOuter) :
    Quotes Quotation.tidied IsPlain t.squeeze ls IsOuter := by
  intro ps o ho
  obtain ⟨houter, hls⟩ := h ps o ho
  rw [ho] at houter hls ⊢
  rw [assemble_squeeze]
  refine ⟨(isOuter_squeezeChars _).mpr houter, ?_⟩
  show (quotations (squeezeChars (assemble ps t).1)).map Quotation.tidied = _
  rw [quotations_squeezeChars, Quotation.map_tidied_tidied]
  exact hls

end Template

end FluentSql
