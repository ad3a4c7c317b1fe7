import FluentSql.Proofs.Composition
import FluentSql.Proofs.ConditionTree
import Mathlib.Data.List.Basic
/-!
# `FluentSql.Proofs.Comparisons` — the comparisons of a statement in its text

A statement writes lists of conditions: its own WHERE and HAVING clause, and those of the statements
that are nested in it. The comparisons in these lists, in groups too, stand in the text of the
statement one by one. What is written after the column of a comparison (`Comparison.test`) is the
operator and the operand, with placeholders for the values; it is not changed when the statement is
squeezed.

* `Statement.written_infix_sql` — every comparison stands in the text;
* `Comparison.keeps_test` — whether a comparison takes in the AND that comes after it.
-/

namespace FluentSql

open FluentSql.Text Template Reading Parsing

/-! ## The comparisons of a statement -/

/-- **A comparison**, in a clause of a statement on a table. -/
structure Comparison where
  kind : ClauseKind
  table : String
  column : Column
  op : Operator
  operand : Operand
  deriving DecidableEq

mutual

/-- The comparisons in a test and its groups. A subquery has lists of its own. -/
def Predicate.comparisons (kind : ClauseKind) (table : String) : Predicate → List Comparison
  | .compare column op operand => [⟨kind, table, column, op, operand⟩]
  | .group conditions => Conditions.comparisons kind table conditions
  | _ => []

/-- The comparisons in conditions. -/
def Conditions.comparisons (kind : ClauseKind) (table : String) : List Condition → List Comparison
  | [] => []
  | ⟨_, predicate⟩ :: conditions =>
    Predicate.comparisons kind table predicate ++ Conditions.comparisons kind table conditions

end

theorem Conditions.comparisons_append (kind : ClauseKind) (table : String)
    (conditions more : List Condition) :
    Conditions.comparisons kind table (conditions ++ more) =
      Conditions.comparisons kind table conditions ++ Conditions.comparisons kind table more := by
  induction conditions with
  | nil => rfl
  | cons c conditions ih =>
    obtain ⟨joiner, predicate⟩ := c
    rw [List.cons_append, Conditions.comparisons, ih, Conditions.comparisons, List.append_assoc]

/-- **A list of conditions**: a clause of a statement on a table. -/
structure ConditionList where
  kind : ClauseKind
  table : String
  conditions : Conditions

/-- The comparisons in a list and its groups. -/
def ConditionList.comparisons (l : ConditionList) : List Comparison :=
  Conditions.comparisons l.kind l.table l.conditions

/-- The lists of a SELECT statement; without a table there are none. -/
def Select.lists (q : Select) : List ConditionList :=
  if q.table.isEmpty then []
  else [⟨.wheres, q.table, q.wheres.conditions⟩, ⟨.having, q.table, q.havings⟩]

/-- The lists of a statement without those nested in it. -/
def Statement.ownLists : Statement → List ConditionList
  | .select q => q.lists
  | .insert _ => []
  | .update q => if q.table.isEmpty then [] else [⟨.wheres, q.table, q.wheres.conditions⟩]
  | .delete q => if q.table.isEmpty then [] else [⟨.wheres, q.table, q.wheres.conditions⟩]
  | .raw _ => []

/-- **The lists of conditions that a statement writes**, at any depth of subqueries and branches. -/
def Statement.lists (s : Statement) : List ConditionList :=
  s.ownLists ++ s.nested.flatMap Select.lists

/-! ## Their text -/

/-- **An operand as text**, with names for its values. -/
def Operand.sql : Operand → List String → String
  | .single _, [name] => name
  | .pair _ _, [low, high] => low ++ " AND " ++ high
  | .list _, names => "(" ++ ", ".intercalate names ++ ")"
  | .null, _ => "NULL"
  | _, _ => ""

namespace Comparison

/-- The template of a comparison. -/
def template (st : Style) (c : Comparison) : Template :=
  compareTemplate st c.kind c.table c.column c.op c.operand

/-- The placeholder with a number. -/
def name (c : Comparison) (n : Nat) : String := Params.placeholderName c.table c.column.text n

/-- **What is written after the column**: the operator and its operand; or a constant, if there are no
    values to compare with. -/
def test (c : Comparison) (names : List String) : String :=
  match c.operand with
  | .list [] => amongNothing c.op
  | operand => c.op.sql ++ " " ++ operand.sql names

/-- **A comparison as text**: the column and the test. A constant has no column. -/
def sql (st : Style) (c : Comparison) (names : List String) : String :=
  match c.operand with
  | .list [] => c.test names
  | _ => conditionColumn st c.kind c.column ++ " " ++ c.test names

/-- The column before the test in a finished statement: squeezed, and set off from the test. -/
def front (st : Style) (c : Comparison) : List Char :=
  let column := squeezeChars (conditionColumn st c.kind c.column).toList
  match c.operand with
  | .list [] => []
  | _ => if column = [] then [] else column ++ [' ']

end Comparison

/-! ### Placeholders -/

/-- The placeholders of a list of values, with commas between them. -/
theorem assemble_slots (table column : String) (values : List Value) :
    ∀ ps : Params, ∃ numbers : List Nat, numbers.length = values.length ∧
      (assemble ps (joined ", " (values.map fun v => [.slot table column v]))).1 =
        (", ".intercalate (numbers.map (Params.placeholderName table column))).toList := by
  induction values with
  | nil => exact fun ps => ⟨[], rfl, rfl⟩
  | cons v values ih =>
    intro ps
    cases values with
    | nil =>
      refine ⟨[ps.freshSuffix table column], rfl, ?_⟩
      simp [joined, assemble_cons, Params.bind]
    | cons w values =>
      obtain ⟨numbers, hlength, htext⟩ := ih (ps.bind table column v).2
      cases numbers with
      | nil => cases hlength
      | cons n numbers =>
        refine ⟨ps.freshSuffix table column :: n :: numbers, congrArg (· + 1) hlength, ?_⟩
        have hfirst : (assemble ps (joined ", "
            ((v :: w :: values).map fun v => [.slot table column v]))).1 =
              (ps.bind table column v).1.toList ++ ", ".toList
                ++ (assemble (ps.bind table column v).2
                    (joined ", " ((w :: values).map fun v => [.slot table column v]))).1 := by
          simp [joined, assemble_append, assemble_text, assemble_cons]
        rw [hfirst, htext]
        simp [Params.bind, String.intercalate_cons_cons, String.toList_append]

namespace Comparison

/-- **The text of a comparison** is its column and its test, with some numbers in the names. -/
theorem exists_numbers (st : Style) (c : Comparison) (ps : Params) :
    ∃ numbers : List Nat, numbers.length = c.operand.values.length ∧
      (assemble ps (c.template st)).1 =
        (c.sql st (numbers.map c.name)).toList := by
  obtain ⟨kind, table, column, op, operand⟩ := c
  cases operand with
  | single v =>
    refine ⟨[ps.freshSuffix table column.text], rfl, ?_⟩
    simp [template, compareTemplate, sql, test, Operand.sql, name, Params.bind, assemble_append,
      assemble_text, assemble_cons]
  | pair low high =>
    refine ⟨[ps.freshSuffix table column.text,
      (ps.bind table column.text low).2.freshSuffix table column.text], rfl, ?_⟩
    simp [template, compareTemplate, sql, test, Operand.sql, name, Params.bind, assemble_append,
      assemble_text, assemble_cons]
  | list values =>
    obtain ⟨numbers, hlength, htext⟩ := assemble_slots table column.text values ps
    refine ⟨numbers, hlength, ?_⟩
    cases values with
    | nil => simp [template, compareTemplate, sql, test, assemble_text]
    | cons v values =>
      have hparts : (assemble ps (compareTemplate st kind table column op (.list (v :: values)))).1 =
          (conditionColumn st kind column ++ " " ++ op.sql ++ " (").toList
            ++ (assemble ps (joined ", "
                ((v :: values).map fun v => [.slot table column.text v]))).1
            ++ ")".toList := by
        simp only [compareTemplate, assemble_append, assemble_text]
      show (assemble ps (compareTemplate st kind table column op (.list (v :: values)))).1 =
        (conditionColumn st kind column ++ " " ++ (op.sql ++ " "
          ++ ("(" ++ ", ".intercalate (numbers.map (Params.placeholderName table column.text))
              ++ ")"))).toList
      rw [hparts, htext]
      simp only [← String.toList_append]
      congr 1
      simp only [String.append_assoc]
      rfl
  | null =>
    refine ⟨[], rfl, ?_⟩
    simp [template, compareTemplate, sql, test, Operand.sql, assemble_text]

end Comparison

/-! ### Tests are settled -/

/-- An operator in front of what is settled. -/
theorem isSettled_operator (op : Operator) {cs : List Char} (h : IsSettled charLook ' ' cs) :
    IsSettled charLook ' ' (op.sql.toList ++ ' ' :: cs) := by
  have hword : ∀ (word : String) {cs : List Char}, (word.toList.all fun c => !isBlank c) = true →
      word.toList ≠ [] → IsSettled charLook ' ' cs →
        IsSettled charLook ' ' (word.toList ++ ' ' :: cs) := by
    intro word cs hsolid hne hcs
    exact hcs.spaced (by decide) (charLook_of_all hsolid) hne
  cases op with
  | notLike => exact hword "NOT" (by decide) (by decide) (hword "LIKE" (by decide) (by decide) h)
  | isNot => exact hword "IS" (by decide) (by decide) (hword "NOT" (by decide) (by decide) h)
  | notBetween =>
    exact hword "NOT" (by decide) (by decide) (hword "BETWEEN" (by decide) (by decide) h)
  | notAmong => exact hword "NOT" (by decide) (by decide) (hword "IN" (by decide) (by decide) h)
  | _ => exact hword _ (by decide) (by decide) h

/-- Placeholders with commas between them, in front of a solid end. -/
theorem isSettled_placeholders (table column : String) (stop : Char)
    (hstop : charLook stop = .solid) (numbers : List Nat) :
    IsSettled charLook ' '
      ((", ".intercalate (numbers.map (Params.placeholderName table column))).toList ++ [stop]) := by
  have hend : IsSettled charLook ' ' [stop] := by
    refine isSettled_word ?_ (List.cons_ne_nil _ _)
    intro c hc
    rw [List.mem_singleton.mp hc]
    exact hstop
  induction numbers with
  | nil => exact hend
  | cons n numbers ih =>
    have hname : ∀ c ∈ (Params.placeholderName table column n).toList, charLook c = .solid :=
      fun c hc => charLook_of_mem_placeholderName hc
    cases numbers with
    | nil => exact hend.prepend hname
    | cons m numbers =>
      have hcomma : ∀ c ∈ (Params.placeholderName table column n).toList ++ [','],
          charLook c = .solid := by
        intro c hc
        rcases List.mem_append.mp hc with hc | hc
        · exact hname c hc
        · rw [List.mem_singleton.mp hc]
          decide
      have hmore := ih.spaced (by decide) hcomma (by simp)
      simpa [String.intercalate_cons_cons, String.toList_append] using hmore

/-- **An operand is settled**, its placeholders included. -/
theorem Operand.isSettled_sql (table column : String) {operand : Operand} {numbers : List Nat}
    (h : numbers.length = operand.values.length) :
    IsSettled charLook ' '
      (operand.sql (numbers.map (Params.placeholderName table column))).toList := by
  have hsolid : ∀ n, ∀ c ∈ (Params.placeholderName table column n).toList, charLook c = .solid :=
    fun n c hc => charLook_of_mem_placeholderName hc
  have hname : ∀ n, IsSettled charLook ' ' (Params.placeholderName table column n).toList :=
    fun n => isSettled_word (hsolid n) (toList_placeholderName_ne_nil table column n)
  cases operand with
  | single v =>
    obtain ⟨n, rfl⟩ := List.length_eq_one_iff.mp h
    exact hname n
  | pair low high =>
    obtain ⟨n, m, rfl⟩ := List.length_eq_two.mp h
    have hand : IsSettled charLook ' '
        ("AND".toList ++ ' ' :: (Params.placeholderName table column m).toList) :=
      (hname m).spaced (by decide) (charLook_of_all (by decide)) (by decide)
    have hall := hand.spaced (by decide) (hsolid n) (toList_placeholderName_ne_nil table column n)
    simpa [Operand.sql] using hall
  | list values =>
    have hopen : ∀ c ∈ ['('], charLook c = .solid := charLook_of_all (by decide)
    have hlist := (isSettled_placeholders table column ')' (by decide) numbers).prepend hopen
    simpa [Operand.sql] using hlist
  | null =>
    have hnull : IsSettled charLook ' ' "NULL".toList :=
      isSettled_word (charLook_of_all (by decide)) (by decide)
    exact hnull

theorem isSettled_amongNothing (op : Operator) :
    IsSettled charLook ' ' (amongNothing op).toList := by
  intro started pending
  unfold amongNothing
  split <;> cases started <;> cases pending <;> rfl

namespace Comparison

theorem test_of_ne {c : Comparison} (h : c.operand ≠ .list []) (names : List String) :
    c.test names = c.op.sql ++ " " ++ c.operand.sql names := by
  unfold test
  split
  · exact absurd ‹_› h
  · rfl

theorem test_of_eq {c : Comparison} (h : c.operand = .list []) (names : List String) :
    c.test names = amongNothing c.op := by
  unfold test
  rw [h]

/-- **A test is settled**: its words have one space between each two. -/
theorem isSettled_test (c : Comparison) {numbers : List Nat}
    (h : numbers.length = c.operand.values.length) :
    IsSettled charLook ' ' (c.test (numbers.map c.name)).toList := by
  by_cases hnothing : c.operand = .list []
  · rw [test_of_eq hnothing]
    exact isSettled_amongNothing c.op
  · have hoperand : IsSettled charLook ' ' (c.operand.sql (numbers.map c.name)).toList :=
      Operand.isSettled_sql c.table c.column.text h
    rw [test_of_ne hnothing]
    simpa using isSettled_operator c.op hoperand

/-- **A comparison squeezed**: the column is squeezed, and the test stays as it is. -/
theorem squeezeChars_sql (st : Style) (c : Comparison) {numbers : List Nat}
    (h : numbers.length = c.operand.values.length) :
    squeezeChars (c.sql st (numbers.map c.name)).toList =
      c.front st ++ (c.test (numbers.map c.name)).toList := by
  have htest := c.isSettled_test h
  unfold sql front
  split
  · simpa [squeezeChars] using htest false false
  · rw [String.toList_append, String.toList_append, List.append_assoc]
    exact squeezeChars_settled (conditionColumn st c.kind c.column).toList htest

/-- **A comparison shows as a whole**: nothing in it comes from raw SQL with parameters. -/
theorem isVisible_of_mem_template {st : Style} {c : Comparison} :
    ∀ a ∈ c.template st, a.isVisible = true := by
  have htext : ∀ s : String, ∀ a ∈ text s, a.isVisible = true := by
    intro s a ha
    obtain ⟨b, -, rfl⟩ := List.mem_map.mp ha
    rfl
  have hslot : ∀ v, ∀ a ∈ [Symbol.slot c.table c.column.text v], a.isVisible = true := by
    intro v a ha
    rw [List.mem_singleton.mp ha]
    rfl
  have hslots : ∀ values : List Value,
      ∀ a ∈ joined ", " (values.map fun v => [.slot c.table c.column.text v]),
        a.isVisible = true := by
    intro values
    induction values with
    | nil => exact nofun
    | cons v values ih =>
      cases values with
      | nil => exact hslot v
      | cons w values =>
        exact List.forall_mem_append.mpr
          ⟨List.forall_mem_append.mpr ⟨hslot v, htext ", "⟩, ih⟩
  unfold template
  cases c.operand with
  | single v => exact List.forall_mem_append.mpr ⟨htext _, hslot v⟩
  | pair low high =>
    refine List.forall_mem_append.mpr ⟨List.forall_mem_append.mpr ⟨?_, htext _⟩, hslot high⟩
    exact List.forall_mem_append.mpr ⟨htext _, hslot low⟩
  | list values =>
    cases values with
    | nil => exact htext _
    | cons v values =>
      refine List.forall_mem_append.mpr ⟨?_, htext _⟩
      exact List.forall_mem_append.mpr ⟨htext _, hslots (v :: values)⟩
  | null => exact htext _

end Comparison

/-! ## Standing in the text -/

mutual

/-- A comparison stands in the test that it is made in. -/
theorem Predicate.comparison_infix (st : Style) (kind : ClauseKind) (table : String) :
    ∀ predicate : Predicate, ∀ c ∈ predicate.comparisons kind table,
      c.template st <:+: predicate.template st kind table
  | .compare column op operand, c, hc => by
    rw [List.mem_singleton.mp hc]
    simp only [Predicate.template]
    exact List.infix_rfl
  | .raw _ _, c, hc => by cases hc
  | .related _ _ _ _, c, hc => by cases hc
  | .subquery _ _, c, hc => by cases hc
  | .group conditions, c, hc => by
    simp only [Predicate.template]
    exact infix_enclosed (Conditions.comparison_infix st kind table false conditions c hc) _

/-- A comparison stands in the conditions that it is made in. -/
theorem Conditions.comparison_infix (st : Style) (kind : ClauseKind) (table : String)
    (started : Bool) : ∀ conditions : List Condition,
      ∀ c ∈ Conditions.comparisons kind table conditions,
        c.template st <:+: Conditions.templateFrom st kind table started conditions
  | [], c, hc => by cases hc
  | ⟨joiner, predicate⟩ :: conditions, c, hc => by
    have hrest := fun started => Conditions.comparison_infix st kind table started conditions c
    simp only [Conditions.templateFrom]
    -- a test that shows nothing stands without a conjunction
    rcases List.mem_append.mp hc with hp | hmore
    · have hbody := Predicate.comparison_infix st kind table predicate c hp
      split
      · exact hbody.trans (List.prefix_append _ _).isInfix
      · exact hbody.trans (List.infix_append _ _ _)
    · split
      · exact (hrest started hmore).trans (List.suffix_append _ _).isInfix
      · exact (hrest true hmore).trans (List.suffix_append _ _).isInfix

end

/-- A comparison of a SELECT statement stands in it, squeezed. -/
theorem Select.comparison_infix (st : Style) {q : Select} {l : ConditionList} (hl : l ∈ q.lists)
    {c : Comparison} (hc : c ∈ l.comparisons) : (c.template st).squeeze <:+: q.template st := by
  obtain ⟨table, called, columns, distinct, joins, ⟨conditions, inConditions⟩, groups, havings,
    orders, aggregates, unions, limit, offset, inTable⟩ := q
  simp only [Select.lists] at hl
  simp only [Select.template]
  split at hl
  · cases hl
  · rename_i htable
    rw [if_neg htable]
    refine squeeze_infix_squeeze_of_visible Comparison.isVisible_of_mem_template ?_
    simp only [List.mem_cons, List.not_mem_nil, or_false] at hl
    rcases hl with rfl | rfl
    · have hwheres := Conditions.comparison_infix st .wheres table false conditions c hc
      exact infix_joined (by simp) (infix_headed hwheres "WHERE")
    · have hhavings := Conditions.comparison_infix st .having table false havings c hc
      exact infix_joined (by simp) (infix_headed hhavings "HAVING")

/-- **A comparison of a statement stands in it**, squeezed, at any depth. -/
theorem Statement.comparison_infix (st : Style) {s : Statement} {l : ConditionList}
    (hl : l ∈ s.lists) {c : Comparison} (hc : c ∈ l.comparisons) :
    (c.template st).squeeze <:+: s.template st := by
  rcases List.mem_append.mp hl with hown | hnested
  · have hclause : ∀ (table : String) (clause : WhereClause) (front : Template),
        l ∈ (if table.isEmpty then [] else [⟨.wheres, table, clause.conditions⟩]) →
          (c.template st).squeeze <:+:
            if table.isEmpty then [] else squeeze (front ++ clause.template st table) := by
      intro table clause front hmem
      split at hmem
      · cases hmem
      · rename_i htable
        rw [if_neg htable]
        cases List.mem_singleton.mp hmem
        have hconditions := Conditions.comparison_infix st .wheres table false _ c hc
        refine squeeze_infix_squeeze_of_visible Comparison.isVisible_of_mem_template ?_
        exact (infix_headed hconditions "WHERE").trans (List.suffix_append _ _).isInfix
    cases s with
    | select q => exact Select.comparison_infix st hown hc
    | insert _ => cases hown
    | update q => exact hclause q.table q.wheres _ hown
    | delete q => exact hclause q.table q.wheres _ hown
    | raw _ => cases hown
  · obtain ⟨q, hq, hmem⟩ := List.mem_flatMap.mp hnested
    exact (Select.comparison_infix st hmem hc).trans (Statement.infix_template st hq)

/-- **A comparison in the finished text**: its column, set off from its test, with placeholders of
    its table and its column in the order of its values. -/
theorem Statement.comparison_infix_sql (st : Style) {s : Statement} {l : ConditionList}
    (hl : l ∈ s.lists) {c : Comparison} (hc : c ∈ l.comparisons) :
    ∃ numbers : List Nat, numbers.length = c.operand.values.length ∧
      c.front st ++ (c.test (numbers.map c.name)).toList <:+: (s.build st).sql.toList := by
  -- the numbers are those that are free where the comparison stands
  obtain ⟨front, back, htemplate⟩ := Statement.comparison_infix st hl hc
  obtain ⟨numbers, hlength, htext⟩ := c.exists_numbers st (assemble .empty front).2
  refine ⟨numbers, hlength, ?_⟩
  have hsql : (s.build st).sql.toList = (assemble .empty (s.template st)).1 := String.toList_ofList
  have hcomparison : (assemble (assemble .empty front).2 (c.template st).squeeze).1 =
      c.front st ++ (c.test (numbers.map c.name)).toList := by
    rw [assemble_squeeze, htext]
    exact c.squeezeChars_sql st hlength
  rw [hsql, ← htemplate, assemble_append, assemble_append, hcomparison]
  exact List.infix_append _ _ _

/-! ## The shape of an operand -/

/-- The operators that compare with a list of values. -/
def Operator.isMembership : Operator → Bool
  | .among | .notAmong => true
  | _ => false

/-- **Whether an operator takes an operand**: a range takes two values, a membership a list, and any
    other operator one value or NULL. -/
def Operator.takes (op : Operator) : Operand → Bool
  | .pair _ _ => op.isRange
  | .list _ => op.isMembership
  | .single _ | .null => !(op.isRange || op.isMembership)

theorem Operator.isRange_of_isMembership {op : Operator} (h : op.isMembership = true) :
    op.isRange = false := by
  cases op <;> first | rfl | cases h

/-- What is taken by a range is a pair, and the other way round. -/
theorem Operator.isRange_eq_of_takes {op : Operator} {operand : Operand}
    (h : op.takes operand = true) : op.isRange = operand.isPair := by
  cases operand with
  | pair low high => exact h
  | list values => exact Operator.isRange_of_isMembership h
  | single v => exact (Bool.or_eq_false_iff.mp ((Bool.not_eq_true' _).mp h)).1
  | null => exact (Bool.or_eq_false_iff.mp ((Bool.not_eq_true' _).mp h)).1

/-- **A test that an operator can have**: a range has two placeholders joined by AND; a membership has a
    list of placeholders in parentheses, or the whole comparison is a constant; any other operator has
    one placeholder or NULL. -/
inductive Comparison.IsShaped (c : Comparison) : String → Prop where
  | range (h : c.op.isRange = true) (low high : Nat) :
      c.IsShaped (c.op.sql ++ " " ++ (c.name low ++ " AND " ++ c.name high))
  | membership (h : c.op.isMembership = true) (number : Nat) (numbers : List Nat) :
      c.IsShaped
        (c.op.sql ++ " " ++ ("(" ++ ", ".intercalate ((number :: numbers).map c.name) ++ ")"))
  | constant (h : c.op.isMembership = true) (hnone : c.operand = .list []) :
      c.IsShaped (amongNothing c.op)
  | value (h : (c.op.isRange || c.op.isMembership) = false) (number : Nat) :
      c.IsShaped (c.op.sql ++ " " ++ c.name number)
  | null (h : (c.op.isRange || c.op.isMembership) = false) : c.IsShaped (c.op.sql ++ " " ++ "NULL")

/-- **What takes its operand is shaped.** -/
theorem Comparison.isShaped_test {c : Comparison} (h : c.op.takes c.operand = true)
    {numbers : List Nat} (hlength : numbers.length = c.operand.values.length) :
    c.IsShaped (c.test (numbers.map c.name)) := by
  by_cases hnothing : c.operand = .list []
  · rw [test_of_eq hnothing]
    rw [hnothing] at h
    exact .constant h hnothing
  · rw [test_of_ne hnothing]
    cases hoperand : c.operand with
    | single v =>
      rw [hoperand] at h hlength
      obtain ⟨n, rfl⟩ := List.length_eq_one_iff.mp hlength
      exact .value (Bool.not_eq_true' _ |>.mp h) n
    | pair low high =>
      rw [hoperand] at h hlength
      obtain ⟨n, m, rfl⟩ := List.length_eq_two.mp hlength
      exact .range h n m
    | list values =>
      rw [hoperand] at h hlength
      cases numbers with
      | nil =>
        have hvalues : values = [] := List.length_eq_zero_iff.mp hlength.symm
        exact absurd (hoperand.trans (congrArg Operand.list hvalues)) hnothing
      | cons n numbers => exact .membership h n numbers
    | null =>
      rw [hoperand] at h
      exact .null (Bool.not_eq_true' _ |>.mp h)

/-- Placeholders with commas between them mean nothing to the parser. -/
theorem isRead_placeholders (d : Dialect) (table column : String) (n : Nat) (numbers : List Nat) :
    ∃ ts, IsRead d
        (", ".intercalate ((n :: numbers).map (Params.placeholderName table column))).toList ts ∧
      ∀ t ∈ ts, isPlain t = true := by
  induction numbers generalizing n with
  | nil =>
    refine ⟨_, isRead_placeholder d table column n, ?_⟩
    exact List.forall_mem_singleton.mpr (isPlain_placeholder table column n)
  | cons m numbers ih =>
    obtain ⟨ts, hread, hplain⟩ := ih m
    have hall := (isRead_placeholder d table column n).marked (c := ',') (by decide)
      (isRead_nil.spaced hread)
    refine ⟨.word (Params.placeholderName table column n).toList :: .mark ',' :: ts, ?_, ?_⟩
    · simpa [String.intercalate_cons_cons] using hall
    · intro t ht
      rcases List.mem_cons.mp ht with rfl | ht
      · exact isPlain_placeholder table column n
      · rcases List.mem_cons.mp ht with rfl | ht
        · rfl
        · exact hplain t ht

/-- **An operand** brings the AND that a range waits for, if it is a pair, and nothing else that means
    anything to the parser. -/
theorem Operand.keeps_sql (d : Dialect) (table column : String) {operand : Operand}
    {numbers : List Nat} (h : numbers.length = operand.values.length) :
    ∃ ts, IsRead d (operand.sql (numbers.map (Params.placeholderName table column))).toList ts ∧
      ∀ waiting, (operand.isPair = true → waiting = true) →
        Keeps waiting ts (waiting && !operand.isPair) := by
  have hname : ∀ n waiting,
      Keeps waiting [.word (Params.placeholderName table column n).toList] waiting := fun n _ =>
    keeps_plain (List.forall_mem_singleton.mpr (isPlain_placeholder table column n))
  -- without an AND, what is awaited before the operand is awaited behind it
  have hkept : ∀ {ts : List Token}, (∀ waiting, Keeps waiting ts waiting) →
      ∀ waiting, Keeps waiting ts (waiting && !false) := by
    intro ts hts waiting
    rw [Bool.not_false, Bool.and_true]
    exact hts waiting
  cases operand with
  | single v =>
    obtain ⟨n, rfl⟩ := List.length_eq_one_iff.mp h
    exact ⟨_, isRead_placeholder d table column n, fun waiting _ => hkept (hname n) waiting⟩
  | pair low high =>
    obtain ⟨n, m, rfl⟩ := List.length_eq_two.mp h
    have hand : IsRead d "AND".toList [word "AND"] := isRead_keyword d (by decide) (by decide)
    have hall := (isRead_placeholder d table column n).spaced
      (hand.spaced (isRead_placeholder d table column m))
    refine ⟨_, by simpa [Operand.sql] using hall, ?_⟩
    intro waiting hwaiting
    rw [hwaiting rfl]
    exact (hname n true).append (keeps_and.append (hname m false))
  | list values =>
    obtain ⟨ts, hread, hplain⟩ : ∃ ts, IsRead d
        (", ".intercalate (numbers.map (Params.placeholderName table column))).toList ts ∧
        ∀ t ∈ ts, isPlain t = true := by
      cases numbers with
      | nil => exact ⟨[], isRead_nil, nofun⟩
      | cons n numbers => exact isRead_placeholders d table column n numbers
    refine ⟨_, by simpa [Operand.sql] using hread.parens, fun waiting _ => hkept ?_ waiting⟩
    exact fun _ => keeps_parens (foldlM_paren_of_plain hplain 0)
  | null =>
    have hnull : IsRead d "NULL".toList [word "NULL"] := isRead_keyword d (by decide) (by decide)
    exact ⟨_, hnull, fun waiting _ => hkept (fun _ => keeps_plain (by decide)) waiting⟩

/-- **Whether a comparison takes in the AND after it.** Where no AND is awaited, the test of a
    comparison leaves none awaited if its operator takes its operand; if the operand is one value, an
    AND is awaited after a range, and after no other operator. -/
theorem Comparison.keeps_test (d : Dialect) (c : Comparison) {numbers : List Nat}
    (hlength : numbers.length = c.operand.values.length)
    (h : c.op.takes c.operand = true ∨ ∃ v, c.operand = .single v) :
    Keeps false (tokens d (c.test (numbers.map c.name)).toList)
      (c.op.isRange && !c.operand.isPair) := by
  by_cases hnothing : c.operand = .list []
  · have hrange : c.op.isRange = false := by
      rcases h with htakes | ⟨v, hv⟩
      · rw [Operator.isRange_eq_of_takes htakes, hnothing]
        rfl
      · rw [hv] at hnothing
        cases hnothing
    have hplain : (tokens d (amongNothing c.op).toList).all isPlain = true := by
      unfold amongNothing
      split <;> cases d <;> rfl
    rw [Comparison.test_of_eq hnothing, hrange]
    exact keeps_plain (List.all_eq_true.mp hplain)
  · obtain ⟨ts, hread, hkeeps⟩ := Operand.keeps_sql d c.table c.column.text hlength
    have hwaiting : c.operand.isPair = true → c.op.isRange = true := by
      intro hpair
      rcases h with htakes | ⟨v, hv⟩
      · rw [Operator.isRange_eq_of_takes htakes, hpair]
      · rw [hv] at hpair
        cases hpair
    have htest : IsRead d (c.test (numbers.map c.name)).toList (tokens d c.op.sql.toList ++ ts) := by
      have hspaced := (isRead_operator d c.op).spaced hread
      rw [Comparison.test_of_ne hnothing, String.toList_append, String.toList_append,
        List.append_assoc]
      exact hspaced
    rw [htest.tokens_eq]
    exact (keeps_operator d c.op).append (hkeeps c.op.isRange hwaiting)

end FluentSql
