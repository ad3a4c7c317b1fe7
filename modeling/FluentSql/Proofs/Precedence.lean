import FluentSql.Proofs.SoftDelete
/-!
# `FluentSql.Proofs.Precedence` — conditions read word by word

The text of conditions is a row of **words**: tests, what joins them, and parentheses
(`Conditions.template_eq_words`). SQL reads the words from left to right. AND binds tighter than OR,
so at one level of parentheses the tests form **runs** joined by AND, and an OR ends a run.

A test is one word here, whatever its text is. That is how a database reads it if its text is closed. A
raw fragment need not be, for it stands without parentheses; nor is a range with one bound, for it takes
the next AND for its own. The conditions that are read as their text is are those of
`Conditions.areRawFree` and `Conditions.fitRanges`.

* `Conditions.reads` — what a reader makes of the words, with a stack of levels;
* `Conditions.reads_eq_holds` — the reader finds the groups that were written;
* `ModelQuery.reads_scopedWhere` — the filter for deleted rows stands beside the caller's conditions.
-/

namespace FluentSql

open Template

/-! ## Words -/

/-- **A word of a clause.** -/
inductive ClauseWord where
  | test (predicate : Predicate)
  /-- What joins a test to the one before it. -/
  | link (joiner : Option Conjunction)
  | opening
  | closing

/-- The template of a word. -/
def ClauseWord.template (st : Style) (kind : ClauseKind) (table : String) : ClauseWord → Template
  | .test predicate => predicate.template st kind table
  | .link joiner => text (joinerText joiner)
  | .opening => text "("
  | .closing => text ")"

mutual

/-- **The words of a test**: a group is its conditions in parentheses, without them if none of the
    conditions is written. -/
def Predicate.words : Predicate → List ClauseWord
  | .compare column op operand => [.test (.compare column op operand)]
  | .raw sql params => [.test (.raw sql params)]
  | .related table column parent wanted => [.test (.related table column parent wanted)]
  | .subquery query wanted => [.test (.subquery query wanted)]
  | .group conditions =>
    if Conditions.anyWritten conditions then
      .opening :: (Conditions.wordsFrom false conditions ++ [.closing])
    else Conditions.wordsFrom false conditions

/-- The words of conditions, after something that is written (`started`) or after nothing. -/
def Conditions.wordsFrom (started : Bool) : List Condition → List ClauseWord
  | [] => []
  | ⟨joiner, predicate⟩ :: conditions =>
    if Predicate.isWritten predicate then
      (if started then [.link joiner] else []) ++ Predicate.words predicate
        ++ Conditions.wordsFrom true conditions
    else Predicate.words predicate ++ Conditions.wordsFrom started conditions

end

/-- **The words of conditions.** -/
def Conditions.words (conditions : Conditions) : List ClauseWord :=
  Conditions.wordsFrom false conditions

mutual

/-- A test is its words, one after the other. -/
theorem Predicate.template_eq_words (st : Style) (kind : ClauseKind) (table : String) :
    ∀ predicate : Predicate, predicate.template st kind table =
      predicate.words.flatMap (ClauseWord.template st kind table)
  | .compare _ _ _ => by simp [Predicate.words, ClauseWord.template]
  | .raw _ _ => by simp [Predicate.words, ClauseWord.template]
  | .related _ _ _ _ => by simp [Predicate.words, ClauseWord.template]
  | .subquery _ _ => by simp [Predicate.words, ClauseWord.template]
  | .group conditions => by
    have hinner := Conditions.templateFrom_eq_words st kind table false conditions
    have hempty := Conditions.isEmpty_templateFrom st kind table false conditions
    simp only [Predicate.template, Predicate.words, enclosed, hempty]
    cases Conditions.anyWritten conditions with
    | true => simp [hinner, ClauseWord.template]
    | false => simpa using hinner

/-- Conditions are their words, whether something was written before or not. -/
theorem Conditions.templateFrom_eq_words (st : Style) (kind : ClauseKind) (table : String)
    (started : Bool) : ∀ conditions : List Condition,
      Conditions.templateFrom st kind table started conditions =
        (Conditions.wordsFrom started conditions).flatMap (ClauseWord.template st kind table)
  | [] => rfl
  | ⟨joiner, predicate⟩ :: conditions => by
    have hfirst := Predicate.template_eq_words st kind table predicate
    have hempty := Predicate.isEmpty_template st kind table predicate
    have hrest := fun started => Conditions.templateFrom_eq_words st kind table started conditions
    simp only [Conditions.templateFrom, Conditions.wordsFrom, hempty, hrest]
    cases predicate.isWritten with
    | true => cases started <;> simp [hfirst, ClauseWord.template]
    | false => simp [hfirst]

end

/-- **The text of conditions** is that of their words. -/
theorem Conditions.template_eq_words (st : Style) (kind : ClauseKind) (table : String)
    (conditions : Conditions) : Conditions.template st kind table conditions =
      conditions.words.flatMap (ClauseWord.template st kind table) :=
  templateFrom_eq_words st kind table false conditions

/-! ## Reading -/

/-- **What was read at one level of parentheses**: whether a run that has ended holds, and whether
    the run at hand does, if it has begun. -/
structure Level where
  earlier : Bool := false
  run : Option Bool := none

namespace Level

/-- One more test in the run at hand. -/
def and (level : Level) (holds : Bool) : Level :=
  { level with run := some (level.run.getD true && holds) }

/-- Whether what was read holds; nothing holds of every row. -/
def value (level : Level) : Bool := level.earlier || level.run.getD true

/-- What joins the next test: only an OR ends the run at hand. -/
def link (level : Level) : Option Conjunction → Level
  | some .or => ⟨level.value, none⟩
  | _ => level

end Level

/-- **One word read**, with the levels that are open, the innermost one first. `truth` are the tests
    that are true of the row at hand: each counts as one closed test, a raw fragment and a range with
    one bound too, where a database reads on. Since nothing negates a group, a test that is unknown
    counts as one that is false. -/
def ClauseWord.read (truth : Predicate → Bool) : List Level → ClauseWord → List Level
  | level :: outer, .test predicate =>
    (if predicate.isWritten then level.and (truth predicate) else level) :: outer
  | level :: outer, .link joiner => level.link joiner :: outer
  | level :: outer, .opening => {} :: level :: outer
  | inner :: level :: outer, .closing => level.and inner.value :: outer
  | levels, _ => levels

/-- **Whether conditions hold of a row**, read word by word. Conditions with a raw fragment or a range
    with one bound may mean something else to a database. -/
def Conditions.reads (truth : Predicate → Bool) (conditions : Conditions) : Bool :=
  match conditions.words.foldl (ClauseWord.read truth) [{}] with
  | level :: _ => level.value
  | [] => true

/-- Whether a test holds of a row: a group is read, all else is known. -/
def Predicate.reads (truth : Predicate → Bool) : Predicate → Bool
  | .group conditions => Conditions.reads truth conditions
  | predicate => truth predicate

/-- A condition read as a whole. -/
def Level.take (truth : Predicate → Bool) (level : Level) (condition : Condition) : Level :=
  if condition.predicate.isWritten then
    (if level.run.isSome then level.link condition.joiner else level).and
      (condition.predicate.reads truth)
  else level

mutual

/-- **The words of a test** leave every other level as it is. -/
theorem Predicate.foldl_words (truth : Predicate → Bool) (level : Level) (outer : List Level) :
    ∀ predicate : Predicate, predicate.words.foldl (ClauseWord.read truth) (level :: outer) =
      (if predicate.isWritten then level.and (predicate.reads truth) else level) :: outer
  | .compare _ _ _ => rfl
  | .raw _ _ => rfl
  | .related _ _ _ _ => rfl
  | .subquery _ _ => rfl
  | .group conditions => by
    -- the conditions are read at a level of their own, wherever the group stands
    have hread := fun outer => Conditions.foldl_words truth false {} outer conditions rfl
    have hvalue : Conditions.reads truth conditions =
        (conditions.foldl (Level.take truth) {}).value := by
      rw [Conditions.reads, Conditions.words, hread]
    simp only [Predicate.words, Predicate.isWritten, Predicate.reads, hvalue]
    cases hw : Conditions.anyWritten conditions with
    | true =>
      rw [if_pos rfl, if_pos rfl, List.foldl_cons, List.foldl_append, List.foldl_cons,
        List.foldl_nil, ClauseWord.read, hread, ClauseWord.read]
    | false =>
      rw [if_neg Bool.false_ne_true, if_neg Bool.false_ne_true,
        Conditions.foldl_words_of_unwritten truth false level outer conditions hw]

/-- Conditions of which none is written leave the level as it is. -/
theorem Conditions.foldl_words_of_unwritten (truth : Predicate → Bool) (started : Bool)
    (level : Level) (outer : List Level) : ∀ conditions : List Condition,
      Conditions.anyWritten conditions = false →
      (Conditions.wordsFrom started conditions).foldl (ClauseWord.read truth) (level :: outer) =
        level :: outer
  | [], _ => rfl
  | ⟨joiner, predicate⟩ :: conditions, h => by
    obtain ⟨hp, hc⟩ := Bool.or_eq_false_iff.mp h
    have hfirst := Predicate.foldl_words truth level outer predicate
    rw [hp, if_neg Bool.false_ne_true] at hfirst
    rw [Conditions.wordsFrom, hp, if_neg Bool.false_ne_true, List.foldl_append, hfirst,
      Conditions.foldl_words_of_unwritten truth started level outer conditions hc]

/-- **The words of conditions** are read condition by condition. Something was written before if the
    level's run has begun. -/
theorem Conditions.foldl_words (truth : Predicate → Bool) (started : Bool) (level : Level)
    (outer : List Level) : ∀ conditions : List Condition, started = level.run.isSome →
      (Conditions.wordsFrom started conditions).foldl (ClauseWord.read truth) (level :: outer) =
        conditions.foldl (Level.take truth) level :: outer
  | [], _ => rfl
  | ⟨joiner, predicate⟩ :: conditions, hs => by
    have hfirst := fun level => Predicate.foldl_words truth level outer predicate
    rw [List.foldl_cons, Conditions.wordsFrom, Level.take, ← hs]
    cases hw : predicate.isWritten with
    | false =>
      simp only [hw, Bool.false_eq_true, ↓reduceIte] at hfirst ⊢
      rw [List.foldl_append, hfirst, Conditions.foldl_words truth started level outer conditions hs]
    | true =>
      simp only [hw, ↓reduceIte] at hfirst ⊢
      have hrest := fun level => Conditions.foldl_words truth true (Level.and level
        (predicate.reads truth)) outer conditions rfl
      rw [List.foldl_append, List.foldl_append]
      cases started with
      | false => rw [if_neg Bool.false_ne_true, if_neg Bool.false_ne_true, List.foldl_nil, hfirst,
          hrest]
      | true => rw [if_pos rfl, if_pos rfl, List.foldl_cons, List.foldl_nil, ClauseWord.read, hfirst,
          hrest]

end

/-- Conditions are read condition by condition. -/
theorem Conditions.reads_eq_foldl_take (truth : Predicate → Bool) (conditions : Conditions) :
    Conditions.reads truth conditions = (conditions.foldl (Level.take truth) {}).value := by
  rw [reads, words, foldl_words truth false {} [] conditions rfl]

/-- A level goes on as the run that it is in. -/
theorem Conditions.value_foldl_take (truth : Predicate → Bool) (level : Level)
    (conditions : Conditions) : (conditions.foldl (Level.take truth) level).value =
      (level.earlier || holdsFrom (Predicate.reads truth) level.run conditions) := by
  induction conditions generalizing level with
  | nil => rfl
  | cons condition conditions ih =>
    obtain ⟨joiner, predicate⟩ := condition
    obtain ⟨earlier, run⟩ := level
    rw [List.foldl_cons, ih, Level.take]
    cases hw : predicate.isWritten with
    | false => simp [holdsFrom, hw]
    | true =>
      cases run with
      | none => simp [holdsFrom, hw, Level.and]
      | some run =>
        cases joiner with
        | none => simp [holdsFrom, hw, Level.and, Level.link]
        | some joiner =>
          cases joiner with
          | and => simp [holdsFrom, hw, Level.and, Level.link]
          | or => simp [holdsFrom, hw, Level.and, Level.link, Level.value, Bool.or_assoc]

/-- **Conditions are read as they were put together**: a reader of the words finds every group, and
    reads it as one test. -/
theorem Conditions.reads_eq_holds (truth : Predicate → Bool) (conditions : Conditions) :
    Conditions.reads truth conditions = Conditions.holds (Predicate.reads truth) conditions := by
  rw [reads_eq_foldl_take, value_foldl_take]
  exact Bool.false_or _

/-! ## Conditions behind a filter -/

/-- Conditions of which none is written hold of every row. -/
theorem Conditions.reads_of_unwritten (truth : Predicate → Bool) {conditions : Conditions}
    (h : Conditions.anyWritten conditions = false) : Conditions.reads truth conditions = true := by
  rw [reads, words, foldl_words_of_unwritten truth false {} [] conditions h]
  rfl

/-- A test in front of conditions in parentheses holds beside them. -/
theorem Conditions.reads_filtered (truth : Predicate → Bool) (column : Column) (wanted : Bool)
    (conditions : Conditions) : Conditions.reads truth (conditions.filtered column wanted) =
      (truth (nullTest column wanted) && Conditions.reads truth conditions) := by
  rw [reads_eq_holds, holds_filtered]
  show (truth (nullTest column wanted) && (!Conditions.anyWritten conditions ||
    Conditions.reads truth conditions)) = _
  cases hw : Conditions.anyWritten conditions with
  | true => rfl
  | false => rw [reads_of_unwritten truth hw]; rfl

/-- **The conditions of a query** hold of a row if and only if the filter for deleted rows does and
    the caller's conditions do. -/
theorem ModelQuery.reads_scopedWhere (truth : Predicate → Bool) (q : ModelQuery) :
    Conditions.reads truth q.scopedWhere.conditions =
      (q.trashFilter.all truth && Conditions.reads truth q.select.wheres.conditions) := by
  rcases q.scopedWhere_cases with ⟨hnone, hscoped⟩ | ⟨name, wanted, hsome, hscoped⟩
  · rw [hnone, hscoped]
    rfl
  · rw [hsome, hscoped, Conditions.reads_filtered]
    rfl

end FluentSql
