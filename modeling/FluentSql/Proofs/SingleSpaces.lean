import FluentSql.Proofs.DottedNames
import FluentSql.Proofs.Quotations
/-!
# `FluentSql.Proofs.SingleSpaces` — text that squeezing leaves as it is

Text is **tight** if it begins and ends with something solid. Tight text whose blanks are single
spaces is settled, and no other tight text is left as it is by squeezing.

Both properties pass through what statements are written with: quoting a name, commas between items,
words around a part. So it can be read off the names whether squeezing changes a finished text.

* `areSingleSpaces_append` — the blanks of two parts are those of the whole;
* `squeezeChars_eq_self_iff` — tight text is its own squeezed text exactly if its blanks are single
  spaces;
* `Dialect.areSingleSpaces_quote` — quoting a name neither adds nor removes a blank.
-/

namespace FluentSql

open FluentSql.Text

open Quotation (AreSingleSpaces areSingleSpaces_nil areSingleSpaces_cons)

/-! ## Tight text -/

/-- **Tight text** begins and ends with something solid. -/
structure IsTight (cs : List Char) : Prop where
  first : ∃ c, cs.head? = some c ∧ isBlank c = false
  last : ∃ c, cs.getLast? = some c ∧ isBlank c = false

/-- A word is tight. -/
theorem isTight_of_all {cs : List Char} (h : (cs.all fun c => !isBlank c) = true) (hne : cs ≠ []) :
    IsTight cs := by
  have hsolid : ∀ c ∈ cs, isBlank c = false := by
    intro c hc
    exact (Bool.not_eq_true' _).mp (List.all_eq_true.mp h c hc)
  constructor
  · exact ⟨cs.head hne, List.head?_eq_some_head hne, hsolid _ (List.head_mem hne)⟩
  · exact ⟨cs.getLast hne, List.getLast?_eq_some_getLast hne, hsolid _ (List.getLast_mem hne)⟩

namespace IsTight

variable {as bs : List Char}

theorem ne_nil (h : IsTight as) : as ≠ [] := by
  rintro rfl
  obtain ⟨c, hc, -⟩ := h.first
  cases hc

/-- **Two tight texts** with anything between them are tight. -/
theorem between (has : IsTight as) (mid : List Char) (hbs : IsTight bs) :
    IsTight (as ++ mid ++ bs) := by
  obtain ⟨c, hc, hsolid⟩ := has.first
  obtain ⟨d, hd, hsolid'⟩ := hbs.last
  constructor
  · refine ⟨c, ?_, hsolid⟩
    rw [List.append_assoc, List.head?_append, hc]
    rfl
  · refine ⟨d, ?_, hsolid'⟩
    rw [List.getLast?_append, hd]
    rfl

theorem append (has : IsTight as) (hbs : IsTight bs) : IsTight (as ++ bs) := by
  have h := has.between [] hbs
  rwa [List.append_nil] at h

theorem isBlank_of_getLast? (h : IsTight as) {c : Char} (hc : as.getLast? = some c) :
    isBlank c = false := by
  obtain ⟨d, hd, hsolid⟩ := h.last
  rw [hd] at hc
  exact Option.some.inj hc ▸ hsolid

theorem isBlank_of_head? (h : IsTight as) {c : Char} (hc : as.head? = some c) :
    isBlank c = false := by
  obtain ⟨d, hd, hsolid⟩ := h.first
  rw [hd] at hc
  exact Option.some.inj hc ▸ hsolid

end IsTight

/-- A text ends with what its second part ends with. -/
theorem isBlank_of_getLast?_append {as bs : List Char}
    (hbs : ∃ c, bs.getLast? = some c ∧ isBlank c = false) :
    ∀ c, (as ++ bs).getLast? = some c → isBlank c = false := by
  intro c hc
  obtain ⟨d, hd, hsolid⟩ := hbs
  rw [List.getLast?_append, hd] at hc
  cases hc
  exact hsolid

/-! ## Single spaces in parts -/

/-- **The blanks of a text are those of its parts**, if two blanks do not meet where the parts do. -/
theorem areSingleSpaces_append {as bs : List Char}
    (h : (∀ c, as.getLast? = some c → isBlank c = false) ∨
      (∀ c, bs.head? = some c → isBlank c = false)) :
    AreSingleSpaces (as ++ bs) ↔ AreSingleSpaces as ∧ AreSingleSpaces bs := by
  induction as with
  | nil =>
    rw [List.nil_append]
    exact ⟨fun hbs => ⟨areSingleSpaces_nil, hbs⟩, And.right⟩
  | cons a as ih =>
    cases as with
    | nil =>
      rw [List.cons_append, List.nil_append, areSingleSpaces_cons, areSingleSpaces_cons]
      constructor
      · rintro ⟨hfirst, hbs⟩
        exact ⟨⟨fun hblank => ⟨(hfirst hblank).1, by simp⟩, areSingleSpaces_nil⟩, hbs⟩
      · rintro ⟨⟨hfirst, -⟩, hbs⟩
        refine ⟨fun hblank => ⟨(hfirst hblank).1, fun d hd => ?_⟩, hbs⟩
        rcases h with hlast | hhead
        · rw [hlast a rfl] at hblank
          cases hblank
        · exact hhead d hd
    | cons b as =>
      have hrest := ih (h.imp_left fun hlast c hc => hlast c (by rw [List.getLast?_cons_cons]; exact hc))
      rw [List.cons_append, areSingleSpaces_cons, hrest, areSingleSpaces_cons a, and_assoc]
      rfl

/-- A text without blanks. -/
theorem areSingleSpaces_of_all {cs : List Char} (h : (cs.all fun c => !isBlank c) = true) :
    AreSingleSpaces cs := by
  intro front back c heq hblank
  have hc : c ∈ cs := heq ▸ List.mem_append_right front (List.mem_cons_self)
  have hsolid := (Bool.not_eq_true' _).mp (List.all_eq_true.mp h c hc)
  rw [hsolid] at hblank
  cases hblank

/-- A fixed text, by what collapsing makes of it. -/
theorem areSingleSpaces_of_collapse {cs : List Char} (h : collapse false cs = cs) :
    AreSingleSpaces cs := by
  rw [← h]
  exact Quotation.areSingleSpaces_collapse false cs

theorem charLook_of_isBlank_eq_false {c : Char} (h : isBlank c = false) : charLook c = .solid := by
  unfold charLook
  rw [h]
  rfl

/-- What was squeezed has single spaces only. -/
theorem areSingleSpaces_squeeze (started pending : Bool) (cs : List Char) :
    AreSingleSpaces (squeeze charLook ' ' started pending cs) := by
  induction cs generalizing started pending with
  | nil => exact areSingleSpaces_nil
  | cons c cs ih =>
    cases hc : isBlank c with
    | true =>
      have hlook : charLook c = .blank := by
        unfold charLook
        rw [hc]
        rfl
      rw [squeeze_cons_blank hlook]
      exact ih started true
    | false =>
      have hword : AreSingleSpaces (c :: squeeze charLook ' ' true false cs) := by
        refine (areSingleSpaces_cons c _).mpr ⟨?_, ih true false⟩
        intro hblank
        rw [hc] at hblank
        cases hblank
      rw [squeeze_cons_solid (charLook_of_isBlank_eq_false hc)]
      split
      · refine (areSingleSpaces_cons ' ' _).mpr ⟨fun _ => ⟨rfl, ?_⟩, hword⟩
        intro d hd
        cases hd
        exact hc
      · exact hword

/-- Behind something solid, text with single spaces is left as it is up to its last solid character. -/
theorem squeeze_of_areSingleSpaces {cs : List Char} (h : AreSingleSpaces cs)
    (hlast : ∀ c, cs.getLast? = some c → isBlank c = false) :
    squeeze charLook ' ' true false cs = cs := by
  induction cs with
  | nil => rfl
  | cons c cs ih =>
    obtain ⟨hfirst, hrest⟩ := (areSingleSpaces_cons c cs).mp h
    cases hc : isBlank c with
    | false =>
      have hlast' : ∀ d, cs.getLast? = some d → isBlank d = false := by
        intro d hd
        apply hlast d
        rw [List.getLast?_cons, hd]
        rfl
      rw [squeeze_cons_solid (charLook_of_isBlank_eq_false hc), ih hrest hlast']
      rfl
    | true =>
      obtain ⟨rfl, hnext⟩ := hfirst hc
      cases cs with
      | nil =>
        rw [hlast ' ' rfl] at hc
        cases hc
      | cons d cs =>
        have hd : charLook d = .solid := charLook_of_isBlank_eq_false (hnext d rfl)
        have htail := ih hrest fun e he => hlast e (by rw [List.getLast?_cons_cons]; exact he)
        rw [squeeze_cons_solid hd] at htail
        rw [squeeze_cons_blank (by decide), squeeze_cons_solid hd]
        exact congrArg (' ' :: ·) htail

/-- **Tight text with single spaces is settled.** -/
theorem IsTight.isSettled {cs : List Char} (h : IsTight cs) (hspaces : AreSingleSpaces cs) :
    IsSettled charLook ' ' cs := by
  intro started pending
  cases cs with
  | nil => exact absurd rfl h.ne_nil
  | cons c cs =>
    have hc : isBlank c = false := h.isBlank_of_head? rfl
    have htail := squeeze_of_areSingleSpaces hspaces fun d hd => h.isBlank_of_getLast? hd
    rw [squeeze_cons_solid (charLook_of_isBlank_eq_false hc)] at htail ⊢
    exact congrArg _ htail

/-- **Squeezing leaves tight text as it is** exactly if its blanks are single spaces. -/
theorem squeezeChars_eq_self_iff {cs : List Char} (h : IsTight cs) :
    squeezeChars cs = cs ↔ AreSingleSpaces cs := by
  constructor
  · intro hself
    rw [← hself]
    exact areSingleSpaces_squeeze false false cs
  · intro hspaces
    exact h.isSettled hspaces false false

/-- Something is left of tight text. -/
theorem IsTight.squeezeChars_ne_nil {cs : List Char} (h : IsTight cs) : squeezeChars cs ≠ [] := by
  obtain ⟨c, hc, hsolid⟩ := h.first
  have hleft : c ∈ squeezeChars cs :=
    mem_squeeze_of_solid (List.mem_of_head? hc) (charLook_of_isBlank_eq_false hsolid)
  exact List.ne_nil_of_mem hleft

/-! ## Items with commas between them -/

section Items

variable {items : List String}

theorem isTight_intercalate (h : ∀ s ∈ items, IsTight s.toList) (hne : items ≠ []) :
    IsTight (", ".intercalate items).toList := by
  induction items with
  | nil => exact absurd rfl hne
  | cons s items ih =>
    cases items with
    | nil =>
      rw [String.intercalate_singleton]
      exact h s (by simp)
    | cons s' items =>
      rw [String.intercalate_cons_cons, String.toList_append, String.toList_append]
      apply (h s (by simp)).between
      exact ih (fun t ht => h t (List.mem_cons_of_mem s ht)) (List.cons_ne_nil _ _)

/-- **The blanks of a list** are those of its items, and the one behind each comma. -/
theorem areSingleSpaces_intercalate (h : ∀ s ∈ items, IsTight s.toList) :
    AreSingleSpaces (", ".intercalate items).toList ↔ ∀ s ∈ items, AreSingleSpaces s.toList := by
  induction items with
  | nil => exact ⟨fun _ s hs => absurd hs (by simp), fun _ => areSingleSpaces_nil⟩
  | cons s items ih =>
    cases items with
    | nil =>
      rw [String.intercalate_singleton]
      simp
    | cons s' items =>
      have hrest : ∀ t ∈ s' :: items, IsTight t.toList := fun t ht => h t (List.mem_cons_of_mem s ht)
      have htight : IsTight (", ".intercalate (s' :: items)).toList :=
        isTight_intercalate hrest (List.cons_ne_nil _ _)
      have hs : IsTight s.toList := h s (by simp)
      have hcomma : AreSingleSpaces ", ".toList := areSingleSpaces_of_collapse (by decide)
      rw [String.intercalate_cons_cons, String.toList_append, String.toList_append,
        areSingleSpaces_append (.inr fun c hc => htight.isBlank_of_head? hc),
        areSingleSpaces_append (.inl fun c hc => hs.isBlank_of_getLast? hc), ih hrest,
        List.forall_mem_cons (a := s)]
      exact ⟨fun hall => ⟨hall.1.1, hall.2⟩, fun hall => ⟨⟨hall.1, hcomma⟩, hall.2⟩⟩

end Items

/-! ## Quoted names -/

theorem head?_doubled (q : Char) (cs : List Char) : (doubled q cs).head? = cs.head? := by
  cases cs with
  | nil => rfl
  | cons c cs =>
    unfold doubled
    split
    · rename_i hq
      rw [hq]
      rfl
    · rfl

/-- Doubling quotes neither adds nor removes a blank. -/
theorem areSingleSpaces_doubled {q : Char} (hq : isBlank q = false) (cs : List Char) :
    AreSingleSpaces (doubled q cs) ↔ AreSingleSpaces cs := by
  have hquote : ∀ ds, AreSingleSpaces (q :: ds) ↔ AreSingleSpaces ds := by
    intro ds
    rw [areSingleSpaces_cons, hq]
    simp
  induction cs with
  | nil => exact Iff.rfl
  | cons c cs ih =>
    unfold doubled
    split
    · rename_i hc
      rw [hquote, hquote, hc, hquote]
      exact ih
    · rw [areSingleSpaces_cons, areSingleSpaces_cons, head?_doubled]
      exact and_congr_right fun _ => ih

theorem areSingleSpaces_wrap {q : Char} (hq : isBlank q = false) (cs : List Char) :
    AreSingleSpaces (wrap q cs) ↔ AreSingleSpaces cs := by
  have hend : AreSingleSpaces [q] := by
    refine areSingleSpaces_of_all ?_
    simp [hq]
  have hlast : ∀ c, [q].head? = some c → isBlank c = false := by
    intro c hc
    cases hc
    exact hq
  unfold wrap
  rw [List.cons_append, areSingleSpaces_cons, hq, areSingleSpaces_append (.inr hlast),
    areSingleSpaces_doubled hq]
  simp [hend]

theorem isTight_wrap {q : Char} (hq : isBlank q = false) (cs : List Char) : IsTight (wrap q cs) := by
  have hquote : IsTight [q] := isTight_of_all (by simp [hq]) (List.cons_ne_nil _ _)
  exact hquote.between (doubled q cs) hquote

namespace Dialect

variable (d : Dialect)

theorem isBlank_quoteChar : isBlank d.quoteChar = false := by
  cases d <;> decide

/-- A segment that is there is written as tight text. -/
theorem isTight_quoteSegment {segment : List Char} (hne : segment ≠ []) :
    IsTight (d.quoteSegment segment) := by
  rcases d.quoteSegment_cases segment with ⟨hempty, -⟩ | ⟨-, hq⟩ | ⟨-, -, hq⟩
  · exact absurd hempty hne
  · rw [hq]
    exact isTight_of_all (by decide) (List.cons_ne_nil _ _)
  · rw [hq]
    exact isTight_wrap d.isBlank_quoteChar segment

theorem areSingleSpaces_quoteSegment (segment : List Char) :
    AreSingleSpaces (d.quoteSegment segment) ↔ AreSingleSpaces segment := by
  rcases d.quoteSegment_cases segment with ⟨hempty, hq⟩ | ⟨hstar, hq⟩ | ⟨-, -, hq⟩
  · rw [hq, hempty]
  · rw [hq, hstar]
  · rw [hq]
    exact areSingleSpaces_wrap d.isBlank_quoteChar segment

end Dialect

/-- The blanks of a dotted text are those of its segments, for a dot is solid. -/
theorem areSingleSpaces_joinWith (segments : List (List Char)) :
    AreSingleSpaces (joinWith '.' segments) ↔ ∀ segment ∈ segments, AreSingleSpaces segment := by
  induction segments with
  | nil => exact ⟨fun _ segment h => absurd h (by simp), fun _ => areSingleSpaces_nil⟩
  | cons segment segments ih =>
    cases segments with
    | nil => simp [joinWith]
    | cons next more =>
      have hdot : ∀ c, ('.' :: joinWith '.' (next :: more)).head? = some c → isBlank c = false := by
        intro c hc
        cases hc
        decide
      rw [joinWith_cons_of_ne_nil '.' segment (List.cons_ne_nil next more),
        areSingleSpaces_append (.inr hdot), areSingleSpaces_cons, ih,
        List.forall_mem_cons (a := segment)]
      have hsolid : isBlank '.' = false := by decide
      rw [hsolid]
      simp

/-- Segments that are tight or empty are tight together, if anything is written. -/
theorem isTight_joinWith {segments : List (List Char)}
    (h : ∀ segment ∈ segments, segment = [] ∨ IsTight segment) (hne : joinWith '.' segments ≠ []) :
    IsTight (joinWith '.' segments) := by
  have hdot : IsTight ['.'] := isTight_of_all (by decide) (List.cons_ne_nil _ _)
  induction segments with
  | nil => exact absurd rfl hne
  | cons segment segments ih =>
    have hfirst := h segment (by simp)
    cases segments with
    | nil => exact hfirst.resolve_left hne
    | cons next more =>
      have hrest : IsTight ('.' :: joinWith '.' (next :: more)) := by
        by_cases hempty : joinWith '.' (next :: more) = []
        · rw [hempty]
          exact hdot
        · exact hdot.append (ih (fun t ht => h t (List.mem_cons_of_mem segment ht)) hempty)
      rw [joinWith_cons_of_ne_nil '.' segment (List.cons_ne_nil next more)]
      rcases hfirst with rfl | htight
      · exact hrest
      · exact htight.append hrest

namespace Dialect

variable (d : Dialect)

/-- **Quoting a name** neither adds nor removes a blank. -/
theorem areSingleSpaces_quote (name : String) :
    AreSingleSpaces (d.quote name).toList ↔ AreSingleSpaces name.toList := by
  have hname := areSingleSpaces_joinWith (splitAt '.' name.toList)
  rw [joinWith_splitAt] at hname
  rw [quote, String.toList_ofList, areSingleSpaces_joinWith, hname, List.forall_mem_map]
  exact forall₂_congr fun segment _ => d.areSingleSpaces_quoteSegment segment

/-- A quoted name is tight. -/
theorem isTight_quote {name : String} (hne : name ≠ "") : IsTight (d.quote name).toList := by
  have hwritten : (d.quote name).toList ≠ [] := by
    intro hempty
    apply hne
    apply d.quote_injective
    rw [String.toList_eq_nil_iff.mp hempty]
    rfl
  rw [quote, String.toList_ofList] at hwritten ⊢
  refine isTight_joinWith ?_ hwritten
  intro written hmem
  obtain ⟨segment, -, rfl⟩ := List.mem_map.mp hmem
  by_cases hsegment : segment = []
  · rw [hsegment]
    exact .inl rfl
  · exact .inr (d.isTight_quoteSegment hsegment)

end Dialect

end FluentSql
