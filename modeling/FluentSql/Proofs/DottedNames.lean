import FluentSql.Style
/-!
# `FluentSql.Proofs.DottedNames` — names, their segments and how they are quoted

A dotted name is quoted segment by segment, an alias as a whole. Quoting a name put together from two
puts together the quoted names (`Dialect.quote_append`), names that are quoted alike are equal
(`Dialect.quote_injective`), and a name is quoted like an alias exactly if it is one segment and not the
star (`Dialect.quoteIdent_eq_quote_iff`).
-/

namespace FluentSql

open FluentSql.Text

/-! ## Segments -/

namespace Text

theorem splitAt_of_not_mem {sep : Char} {cs : List Char} (h : sep ∉ cs) : splitAt sep cs = [cs] := by
  induction cs with
  | nil => rfl
  | cons c cs ih =>
    rw [List.mem_cons, not_or] at h
    rw [splitAt, if_neg (Ne.symm h.1), ih h.2]

/-- **The segments of two texts** with a separator between them. -/
theorem splitAt_append (sep : Char) (as bs : List Char) :
    splitAt sep (as ++ sep :: bs) = splitAt sep as ++ splitAt sep bs := by
  induction as with
  | nil =>
    show splitAt sep (sep :: bs) = [] :: splitAt sep bs
    rw [splitAt, if_pos rfl]
  | cons a as ih =>
    rw [List.cons_append]
    by_cases ha : a = sep
    · rw [splitAt, splitAt, if_pos ha, if_pos ha, ih]
      rfl
    · rw [splitAt, splitAt, if_neg ha, if_neg ha, ih]
      cases hs : splitAt sep as with
      | nil => exact absurd hs (splitAt_ne_nil sep as)
      | cons segment segments => rfl

theorem joinWith_append (sep : Char) {as bs : List (List Char)} (has : as ≠ []) (hbs : bs ≠ []) :
    joinWith sep (as ++ bs) = joinWith sep as ++ sep :: joinWith sep bs := by
  induction as with
  | nil => exact absurd rfl has
  | cons a as ih =>
    by_cases hrest : as = []
    · rw [hrest]
      exact joinWith_cons_of_ne_nil sep a hbs
    · have hall : as ++ bs ≠ [] := by simp [hrest]
      rw [List.cons_append, joinWith_cons_of_ne_nil sep a hall, joinWith_cons_of_ne_nil sep a hrest,
        ih hrest, List.append_assoc, List.cons_append]

/-- What follows the first segment. -/
def joinRest (sep : Char) (segments : List (List Char)) : List Char :=
  match segments with
  | [] => []
  | segments => sep :: joinWith sep segments

theorem joinWith_cons (sep : Char) (segment : List Char) (segments : List (List Char)) :
    joinWith sep (segment :: segments) = segment ++ joinRest sep segments := by
  cases segments with
  | nil => exact (List.append_nil segment).symm
  | cons next more => rfl

/-- A text in quotes determines what was quoted, and what follows if that goes on with no quote. -/
theorem doubled_append_inj {q : Char} {as bs xs ys : List Char} (hxs : xs.head? ≠ some q)
    (hys : ys.head? ≠ some q) (h : doubled q as ++ q :: xs = doubled q bs ++ q :: ys) :
    as = bs ∧ xs = ys := by
  have hstop : IsStop q (q :: xs) := ⟨rfl, hxs⟩
  have hstop' : IsStop q (q :: ys) := ⟨rfl, hys⟩
  obtain ⟨hcontents, hrest⟩ := doubled_inj hstop hstop' h
  exact ⟨hcontents, (List.cons.inj hrest).2⟩

end Text

/-! ## Quoted names -/

/-- **A plain name**: one segment that is neither empty nor the star. -/
def isPlainName (s : String) : Bool := !s.isEmpty && s != "*" && s.toList.all (· != '.')

/-- A name of one segment is plain, unless it is the star. -/
theorem eq_of_splitAt_eq_singleton {called s : String} (hne : called ≠ "") (hstar : called ≠ "*")
    (h : splitAt '.' s.toList = [called.toList]) : called = s ∧ isPlainName s = true := by
  have hlist : called.toList = s.toList := by
    rw [← joinWith_splitAt '.' s.toList, h]
    rfl
  obtain rfl := String.toList_inj.mp hlist
  have hdot : '.' ∉ called.toList := by
    apply not_mem_of_mem_splitAt
    rw [h]
    exact List.mem_singleton_self called.toList
  refine ⟨rfl, ?_⟩
  unfold isPlainName
  simp only [Bool.and_eq_true, Bool.not_eq_true', bne_iff_ne, List.all_eq_true]
  refine ⟨⟨?_, hstar⟩, ?_⟩
  · exact Bool.eq_false_iff.mpr fun hempty => hne (String.isEmpty_iff.mp hempty)
  · rintro c hc rfl
    exact hdot hc

theorem dot_not_mem_of_isPlainName {s : String} (h : isPlainName s = true) : '.' ∉ s.toList := by
  intro hmem
  obtain ⟨-, hall⟩ := Bool.and_eq_true_iff.mp h
  exact absurd rfl (bne_iff_ne.mp (List.all_eq_true.mp hall '.' hmem))

namespace Dialect

variable (d : Dialect)

/-- What may follow a quoted segment: nothing or a dot. -/
def IsRest (cs : List Char) : Prop := ∀ c ∈ cs.head?, c = '.'

theorem quoteChar_ne_dot : d.quoteChar ≠ '.' := by
  cases d <;> decide

theorem quoteChar_ne_star : d.quoteChar ≠ '*' := by
  cases d <;> decide

variable {d}

theorem IsRest.head?_ne {cs : List Char} (h : IsRest cs) : cs.head? ≠ some d.quoteChar := by
  intro hhead
  exact d.quoteChar_ne_dot (h d.quoteChar hhead)

/-- The three ways in which a segment is written. -/
theorem quoteSegment_cases (segment : List Char) :
    (segment = [] ∧ d.quoteSegment segment = []) ∨
      (segment = ['*'] ∧ d.quoteSegment segment = ['*']) ∨
      (segment ≠ [] ∧ segment ≠ ['*'] ∧ d.quoteSegment segment = wrap d.quoteChar segment) := by
  unfold quoteSegment
  by_cases hstar : segment = ['*']
  · rw [if_pos hstar]
    exact .inr (.inl ⟨hstar, hstar⟩)
  · rw [if_neg hstar]
    cases segment with
    | nil => exact .inl ⟨rfl, rfl⟩
    | cons c cs => exact .inr (.inr ⟨List.cons_ne_nil c cs, hstar, rfl⟩)

/-- **A quoted segment** determines the segment, and what follows it. -/
theorem quoteSegment_append_inj {as bs xs ys : List Char} (hxs : IsRest xs) (hys : IsRest ys)
    (h : d.quoteSegment as ++ xs = d.quoteSegment bs ++ ys) : as = bs ∧ xs = ys := by
  have hrest : ∀ {cs zs : List Char} {c : Char}, IsRest zs → zs = c :: cs → c = '.' := by
    rintro cs zs c hzs rfl
    exact hzs c rfl
  have hdot : '.' ≠ '*' := by decide
  rcases d.quoteSegment_cases as with ⟨ha, hqa⟩ | ⟨ha, hqa⟩ | ⟨-, -, hqa⟩
  · rcases d.quoteSegment_cases bs with ⟨hb, hqb⟩ | ⟨hb, hqb⟩ | ⟨-, -, hqb⟩
    · rw [hqa, hqb] at h
      exact ⟨ha.trans hb.symm, h⟩
    · rw [hqa, hqb] at h
      exact absurd (hrest hxs h).symm hdot
    · rw [hqa, hqb] at h
      exact absurd (hrest hxs h) d.quoteChar_ne_dot
  · rcases d.quoteSegment_cases bs with ⟨hb, hqb⟩ | ⟨hb, hqb⟩ | ⟨-, -, hqb⟩
    · rw [hqa, hqb] at h
      exact absurd (hrest hys h.symm).symm hdot
    · rw [hqa, hqb] at h
      exact ⟨ha.trans hb.symm, (List.cons.inj h).2⟩
    · rw [hqa, hqb] at h
      exact absurd (List.cons.inj h).1.symm d.quoteChar_ne_star
  · rcases d.quoteSegment_cases bs with ⟨hb, hqb⟩ | ⟨hb, hqb⟩ | ⟨-, -, hqb⟩
    · rw [hqa, hqb] at h
      exact absurd (hrest hys h.symm) d.quoteChar_ne_dot
    · rw [hqa, hqb] at h
      exact absurd (List.cons.inj h).1 d.quoteChar_ne_star
    · rw [hqa, hqb, wrap, wrap, List.append_assoc, List.append_assoc] at h
      exact doubled_append_inj hxs.head?_ne hys.head?_ne (List.cons.inj h).2

theorem isRest_joinRest (segments : List (List Char)) : IsRest (joinRest '.' segments) := by
  intro c hc
  cases segments with
  | nil => cases hc
  | cons next more =>
    cases hc
    rfl

/-- **Quoted segments** between dots determine the segments. -/
theorem joinWith_quoteSegment_inj {as bs : List (List Char)} (has : as ≠ []) (hbs : bs ≠ [])
    (h : joinWith '.' (as.map d.quoteSegment) = joinWith '.' (bs.map d.quoteSegment)) : as = bs := by
  induction as generalizing bs with
  | nil => exact absurd rfl has
  | cons a as ih =>
    cases bs with
    | nil => exact absurd rfl hbs
    | cons b bs =>
      rw [List.map_cons, List.map_cons, joinWith_cons, joinWith_cons] at h
      obtain ⟨rfl, hrest⟩ := quoteSegment_append_inj (isRest_joinRest _) (isRest_joinRest _) h
      cases as with
      | nil =>
        cases bs with
        | nil => rfl
        | cons b' bs => cases hrest
      | cons a' as =>
        cases bs with
        | nil => cases hrest
        | cons b' bs =>
          have hmore := ih (List.cons_ne_nil a' as) (List.cons_ne_nil b' bs) (List.cons.inj hrest).2
          rw [hmore]

/-- **The first character of a quoted name** is solid. -/
theorem charLook_of_mem_head?_quote (d : Dialect) (s : String) :
    ∀ c ∈ (d.quote s).toList.head?, charLook c = .solid := by
  intro c hc
  rw [quote, String.toList_ofList] at hc
  cases hs : splitAt '.' s.toList with
  | nil => exact absurd hs (splitAt_ne_nil '.' _)
  | cons first more =>
    rw [hs, List.map_cons, joinWith_cons] at hc
    rcases d.quoteSegment_cases first with ⟨-, hq⟩ | ⟨-, hq⟩ | ⟨-, -, hq⟩
    · rw [hq, List.nil_append] at hc
      rw [isRest_joinRest _ c hc]
      decide
    · rw [hq] at hc
      cases hc
      decide
    · rw [hq] at hc
      cases hc
      cases d <;> decide

/-- **Names that are quoted alike are equal.** -/
theorem quote_injective (d : Dialect) : Function.Injective d.quote := by
  intro s t h
  have hchars := String.ofList_injective h
  have hsegments := joinWith_quoteSegment_inj (splitAt_ne_nil '.' _) (splitAt_ne_nil '.' _) hchars
  have hlist : s.toList = t.toList := by
    rw [← joinWith_splitAt '.' s.toList, hsegments, joinWith_splitAt]
  exact String.toList_inj.mp hlist

/-- **A name of two parts**: both are quoted. -/
theorem quote_append (d : Dialect) (s t : String) :
    d.quote (s ++ "." ++ t) = d.quote s ++ "." ++ d.quote t := by
  have hsegments : splitAt '.' (s ++ "." ++ t).toList =
      splitAt '.' s.toList ++ splitAt '.' t.toList := by
    rw [String.toList_append, String.toList_append, List.append_assoc]
    exact splitAt_append '.' s.toList t.toList
  have hs : (splitAt '.' s.toList).map d.quoteSegment ≠ [] := by
    simpa using splitAt_ne_nil '.' s.toList
  have ht : (splitAt '.' t.toList).map d.quoteSegment ≠ [] := by
    simpa using splitAt_ne_nil '.' t.toList
  apply String.toList_inj.mp
  unfold quote
  rw [hsegments, List.map_append, joinWith_append '.' hs ht, String.toList_append,
    String.toList_append, String.toList_ofList, List.append_assoc]
  simp only [String.toList_ofList]
  rfl

/-- A plain name is quoted like an alias. -/
theorem quote_of_isPlainName (d : Dialect) {s : String} (h : isPlainName s = true) :
    d.quote s = d.quoteIdent s := by
  have hdot := dot_not_mem_of_isPlainName h
  simp only [isPlainName, Bool.and_eq_true, bne_iff_ne] at h
  have hstar : s.toList ≠ ['*'] := by
    intro hlist
    exact h.1.2 (String.toList_inj.mp hlist)
  unfold quote quoteIdent
  rw [splitAt_of_not_mem hdot]
  show String.ofList (d.quoteSegment s.toList) = _
  rw [quoteSegment, if_neg hstar]

/-- **An alias that is quoted like a name** is this name, which is plain. -/
theorem quoteIdent_eq_quote_iff (d : Dialect) {called : String} (hcalled : called ≠ "")
    (s : String) : d.quoteIdent called = d.quote s ↔ called = s ∧ isPlainName s = true := by
  have hne : called.toList ≠ [] := by
    intro hnil
    exact hcalled (String.toList_inj.mp hnil)
  constructor
  · intro h
    have hident : d.quoteChars called.toList = wrap d.quoteChar called.toList := by
      cases hs : called.toList with
      | nil => exact absurd hs hne
      | cons c cs => rfl
    have hchars : wrap d.quoteChar called.toList =
        joinWith '.' ((splitAt '.' s.toList).map d.quoteSegment) := by
      rw [← hident]
      exact String.ofList_injective h
    cases hs : splitAt '.' s.toList with
    | nil => exact absurd hs (splitAt_ne_nil '.' _)
    | cons first more =>
      -- the first segment is the alias, and nothing follows it
      rw [hs, List.map_cons, joinWith_cons] at hchars
      have hrest : IsRest (joinRest '.' (more.map d.quoteSegment)) := isRest_joinRest _
      rcases d.quoteSegment_cases first with ⟨-, hq⟩ | ⟨-, hq⟩ | ⟨-, hstar, hq⟩
      · rw [hq, List.nil_append] at hchars
        rw [← hchars] at hrest
        exact absurd (hrest d.quoteChar rfl) d.quoteChar_ne_dot
      · rw [hq] at hchars
        exact absurd (List.cons.inj hchars).1 d.quoteChar_ne_star
      · rw [hq, ← List.append_nil (wrap d.quoteChar called.toList), wrap, wrap, List.append_assoc,
          List.append_assoc] at hchars
        have hnone : IsRest [] := by
          intro c hc
          cases hc
        obtain ⟨hfirst, hmore⟩ :=
          doubled_append_inj hnone.head?_ne hrest.head?_ne (List.cons.inj hchars).2
        have hdone : more = [] := by
          cases more with
          | nil => rfl
          | cons next more => cases hmore
        rw [hdone, ← hfirst] at hs
        have hcalledStar : called ≠ "*" := by
          rintro rfl
          exact hstar hfirst.symm
        exact eq_of_splitAt_eq_singleton hcalled hcalledStar hs
  · rintro ⟨rfl, hplain⟩
    exact (d.quote_of_isPlainName hplain).symm

end Dialect

end FluentSql
