import FluentSql.Proofs.Bindings
import FluentSql.Proofs.Numbering
/-!
# `FluentSql.Proofs.NameTokens` — which generated names the scanner finds

Names are generated in one place and found again in another. Generating puts name characters behind a
colon, digits among them; the scanner wants a letter or an underscore there and only then takes every
name character. The two meet on a name unless the text after its colon begins with a digit, and this
text begins with the name of the table.

* `Placeholder.replaceFrom_isToken` — a name with a letter or an underscore is asked for, once;
* `Placeholder.replaceFrom_isUnread` — a name with a digit is passed over like any other text;
* `Params.found_iff_not_startsWithDigit` — every table and column, between any two characters, for the
  scanner, the text with literals and the text with numbers.
-/

namespace FluentSql

open Template

/-! ## Two kinds of names -/

namespace Placeholder

/-- **A text that looks like a placeholder and is none**: a digit stands behind its colon. -/
def IsUnread (name : String) : Prop :=
  ∃ c word, name.toList = ':' :: c :: word ∧ c.isDigit = true ∧ ∀ d ∈ word, isNameChar d = true

/-- The characters that are written at once, with nothing open before and after. -/
def isIdle (c : Char) : Bool := !isQuote c && c != ':'

theorem fresh_of_isIdle {c : Char} (h : isIdle c = true) : fresh c = ([c], .plain) := by
  rw [isIdle, Bool.and_eq_true, Bool.not_eq_true', bne_iff_ne] at h
  unfold fresh
  rw [if_neg (by rw [h.1]; decide), if_neg (by simpa using h.2)]

theorem isIdle_of_isNameChar {c : Char} (h : isNameChar c = true) : isIdle c = true := by
  by_cases hquote : isQuote c = true
  · simp only [isQuote, Bool.or_eq_true, beq_iff_eq] at hquote
    rcases hquote with (rfl | rfl) | rfl <;> exact absurd h (by decide)
  · by_cases hcolon : c = ':'
    · rw [hcolon] at h
      exact absurd h (by decide)
    · simp [isIdle, hquote, hcolon]

theorem isNameChar_of_isDigit {c : Char} (h : c.isDigit = true) : isNameChar c = true := by
  simp [isNameChar, Char.isAlphanum, h]

/-- No digit begins a placeholder. -/
theorem not_isNameStart_of_isDigit {c : Char} (h : c.isDigit = true) : isNameStart c = false := by
  simp only [Char.isDigit, Bool.and_eq_true, decide_eq_true_eq, UInt32.le_iff_toNat_le, ge_iff_le] at h
  have hbounds : 48 ≤ c.val.toNat ∧ c.val.toNat ≤ 57 := h
  by_cases hstart : isNameStart c = true
  · rcases Bool.or_eq_true_iff.mp hstart with hletter | hunderscore
    · have hcases : c.isUpper = true ∨ c.isLower = true := Bool.or_eq_true_iff.mp hletter
      rcases hcases with hupper | hlower
      · have hbound : 65 ≤ c.val.toNat := (of_decide_eq_true hupper).1
        omega
      · have hbound : 97 ≤ c.val.toNat := of_decide_eq_true (Bool.and_eq_true_iff.mp hlower).1
        omega
    · rw [beq_iff_eq.mp hunderscore] at hbounds
      exact absurd hbounds (by decide)
  · exact Bool.eq_false_iff.mpr hstart

variable {m : Type → Type} [Monad m] [LawfulMonad m] (f : String → m (Option String))

/-- Idle characters are written as they are. -/
theorem replaceFrom_idle {cs : List Char} (hcs : ∀ c ∈ cs, isIdle c = true) (rest : List Char) :
    replaceFrom f .plain (cs ++ rest) = (cs ++ ·) <$> replaceFrom f .plain rest := by
  induction cs with
  | nil => exact (id_map _).symm
  | cons c cs ih =>
    have hc : step f .plain c = pure ([c], .plain) :=
      congrArg pure (fresh_of_isIdle (hcs c (by simp)))
    rw [List.cons_append, replaceFrom_cons f hc, ih fun d hd => hcs d (List.mem_cons_of_mem c hd),
      Functor.map_map]
    rfl

/-- **A name with a digit behind its colon is passed over**: nothing is asked for, and the rest is read
    as if it stood alone. -/
theorem replaceFrom_isUnread {name : String} (hname : IsUnread name) (rest : List Char) :
    replaceFrom f .plain (name.toList ++ rest) = (name.toList ++ ·) <$> replaceFrom f .plain rest := by
  obtain ⟨c, word, hlist, hdigit, hword⟩ := hname
  have hidle : isIdle c = true := isIdle_of_isNameChar (isNameChar_of_isDigit hdigit)
  have hcolon : step f .plain ':' = pure ([], .colon) := rfl
  have hpassed : step f .colon c = pure ([':', c], .plain) := by
    have hne : c ≠ ':' := by
      rintro rfl
      exact absurd hdigit (by decide)
    simp [step, hne, not_isNameStart_of_isDigit hdigit, fresh_of_isIdle hidle]
  have hrest := replaceFrom_idle f (fun d hd => isIdle_of_isNameChar (hword d hd)) rest
  calc replaceFrom f .plain (name.toList ++ rest)
      = replaceFrom f .colon (c :: (word ++ rest)) := by
        rw [hlist]
        exact (replaceFrom_cons f hcolon _).trans (id_map _)
    _ = ([':', c] ++ ·) <$> (word ++ ·) <$> replaceFrom f .plain rest := by
        rw [replaceFrom_cons f hpassed, hrest]
    _ = (name.toList ++ ·) <$> replaceFrom f .plain rest := by
        rw [Functor.map_map, hlist]
        rfl

/-- **A name with a letter or an underscore behind its colon is asked for**, as a whole and once, where
    no name character follows. -/
theorem replaceFrom_isToken {name : String} (hname : IsToken name) {rest : List Char}
    (hrest : ∀ c ∈ rest.head?, isNameChar c = false) :
    replaceFrom f .plain (name.toList ++ rest) =
      written f name >>= fun word => (word.toList ++ ·) <$> replaceFrom f .plain rest :=
  replaceFrom_name f (r := .plain) trivial hname hrest

/-- A last character that goes on with no name is written as it is. -/
theorem replaceFrom_last (c : Char) : replaceFrom f .plain [c] = pure [c] := by
  show (pure (fresh c) >>= fun x => replaceFrom f x.2 [] >>= fun rest => pure (x.1 ++ rest)) = _
  unfold fresh
  rw [pure_bind]
  split
  · show (pure [] >>= fun rest => pure ([c] ++ rest)) = _
    rw [pure_bind]
    rfl
  · split
    · rename_i hcolon
      rw [eq_of_beq hcolon]
      show (pure [':'] >>= fun rest => pure ([] ++ rest)) = _
      rw [pure_bind]
      rfl
    · show (pure [] >>= fun rest => pure ([c] ++ rest)) = _
      rw [pure_bind]
      rfl

end Placeholder

open Placeholder

/-! ## Generated names -/

namespace Params

/-- **A generated name on a table that begins with a digit** is not read. -/
theorem isUnread_bind (ps : Params) {table : String} (htable : startsWithDigit table = true)
    (column : String) (v : Value) : IsUnread (ps.bind table column v).1 := by
  have hlist : (ps.bind table column v).1.toList = _ :=
    toList_placeholderName table column (ps.freshSuffix table column)
  obtain ⟨c, cs, hcs, hdigit⟩ : ∃ c cs, table.toList = c :: cs ∧ c.isDigit = true := by
    rw [startsWithDigit] at htable
    cases ht : table.toList with
    | nil =>
      rw [ht] at htable
      cases htable
    | cons c cs =>
      rw [ht] at htable
      exact ⟨c, cs, rfl, htable⟩
  have hname : isNameChar c = true := Placeholder.isNameChar_of_isDigit hdigit
  simp only [hcs, List.cons_append, sanitize, List.map_cons, if_pos hname] at hlist
  refine ⟨c, _, hlist, hdigit, ?_⟩
  intro d hd
  rcases List.mem_append.mp hd with hs | hn
  · exact isNameChar_of_mem_sanitize hs
  · rcases List.mem_cons.mp hn with rfl | hn
    · decide
    · exact isNameChar_of_mem_toDigits hn

/-- The value that a text with literals shows for a new name. -/
theorem get?_bind_self (ps : Params) (table column : String) (v : Value) :
    (ps.bind table column v).2.get? (ps.bind table column v).1 = some v := by
  have hcolon : colonName (ps.bind table column v).1 = (ps.bind table column v).1 :=
    colonName_of_cons (toList_placeholderName table column (ps.freshSuffix table column))
  have hfound := get?_register ps (.generated ⟨table, column, v⟩) (ps.bind table column v).1
  rw [hcolon] at hfound
  exact hfound.trans (if_pos rfl)

/-- The value that a numbering server is sent for a new name. -/
theorem find?_ofParams_bind (ps : Params) (table column : String) (v : Value) :
    (Bind.ofParams (ps.bind table column v).2).find?
        (fun b => b.placeholder = (ps.bind table column v).1) =
      some ⟨(ps.bind table column v).1, v⟩ := by
  have hnew := bind_fst_not_mem ps table column v
  rw [Bind.ofParams, entries_bind, List.map_append, List.find?_append]
  have hold : (ps.entries.map fun e => (⟨e.1, e.2⟩ : Bind)).find?
      (fun b => b.placeholder = (ps.bind table column v).1) = none := by
    apply List.find?_eq_none.mpr
    intro b hb hname
    obtain ⟨e, he, rfl⟩ := List.mem_map.mp hb
    exact hnew (of_decide_eq_true hname ▸ List.mem_map_of_mem he)
  show (List.find? _ (ps.entries.map fun e => (⟨e.1, e.2⟩ : Bind))).or _ = _
  rw [hold]
  simp

/-- A text between two characters. -/
def between (before after : Char) (word : String) : String :=
  String.ofList (before :: word.toList ++ [after])

/-- **What the scanner does with a generated name** between two characters: it is found as a whole,
    and nothing else is, unless its table begins with a digit. -/
theorem replaceM_between {m : Type → Type} [Monad m] [LawfulMonad m]
    (f : String → m (Option String)) (ps : Params) (table column : String) (v : Value)
    {before after : Char} (hbefore : isIdle before = true)
    (hafter : Placeholder.isNameChar after = false) :
    replaceM f (between before after (ps.bind table column v).1) =
      if startsWithDigit table then pure (between before after (ps.bind table column v).1)
      else between before after <$> written f (ps.bind table column v).1 := by
  have hfirst : ∀ rest, replaceFrom f .plain (before :: rest) =
      (before :: ·) <$> replaceFrom f .plain rest := by
    intro rest
    have hidle : ∀ c ∈ [before], isIdle c = true := by simpa using hbefore
    exact replaceFrom_idle f hidle rest
  have hlast : ∀ c ∈ [after].head?, Placeholder.isNameChar c = false := by
    intro c hc
    cases hc
    exact hafter
  rw [replaceM, between, String.toList_ofList, List.cons_append, hfirst, ← map_eq_pure_bind,
    Functor.map_map]
  by_cases htable : startsWithDigit table = true
  · rw [if_pos htable, replaceFrom_isUnread f (isUnread_bind ps htable column v),
      replaceFrom_last, map_pure, map_pure]
  · have htoken : IsToken (ps.bind table column v).1 :=
      isToken_bind ps (Bool.eq_false_iff.mpr htable) column v
    rw [if_neg htable, replaceFrom_isToken f htoken hlast, map_bind, replaceFrom_last,
      map_eq_pure_bind]
    refine bind_congr fun word => ?_
    rw [map_pure, map_pure]
    rfl

/-- The one name that a numbering server meets gets the first number. -/
theorem run_written_visit (ps : Params) (table column : String) (v : Value) (before after : Char) :
    (between before after <$> written (Postgres.Numbering.visit (Bind.ofParams (ps.bind table column v).2))
        (ps.bind table column v).1).run {} =
      (between before after "$1", { bound := [((ps.bind table column v).1, v)] }) := by
  have hvisit : (Postgres.Numbering.visit (Bind.ofParams (ps.bind table column v).2)
      (ps.bind table column v).1).run {} =
        (some (Postgres.Numbering.mark 1), { bound := [((ps.bind table column v).1, v)] }) :=
    Postgres.Numbering.run_visit (by simp) (find?_ofParams_bind ps table column v)
  rw [StateT.run_map, written, StateT.run_bind, hvisit]
  rfl

/-- **Which generated names are found.** Let a value be bound and its name stand between two
    characters, a quote or a colon not being the first and a name character not being the second. If
    the table does not begin with a digit, the scanner asks for exactly this name, the text with
    literals shows the literal of the value in its place, and a numbering server gets `$1` there and
    the value. If the table begins with a digit, the scanner asks for nothing, both texts keep the
    name, and no value is sent. -/
theorem found_iff_not_startsWithDigit (ps : Params) (table column : String) (v : Value)
    (before after : Char) (hbefore : isIdle before = true)
    (hafter : Placeholder.isNameChar after = false) :
    let bound := ps.bind table column v
    let sql := between before after bound.1
    (∀ {m : Type → Type} [Monad m] [LawfulMonad m] (f : String → m (Option String)),
        replaceM f sql =
          if startsWithDigit table then pure sql
          else between before after <$> written f bound.1) ∧
      (⟨sql, bound.2⟩ : Built).rawSql =
        (if startsWithDigit table then sql else between before after v.literal) ∧
      Postgres.positional sql (Bind.ofParams bound.2) =
        .ok (if startsWithDigit table then (sql, []) else (between before after "$1", [v])) := by
  intro bound sql
  have hscan : ∀ {m : Type → Type} [Monad m] [LawfulMonad m] (f : String → m (Option String)),
      replaceM f sql =
        if startsWithDigit table then pure sql
        else between before after <$> written f bound.1 := by
    intro m _ _ f
    exact replaceM_between f ps table column v hbefore hafter
  refine ⟨hscan, ?_, ?_⟩
  · show replaceM (m := Id) (fun name => pure ((bound.2.get? name).map Value.literal)) sql = _
    rw [hscan]
    split
    · rfl
    · show between before after (((bound.2.get? bound.1).map Value.literal).getD bound.1) = _
      rw [get?_bind_self]
      rfl
  · unfold Postgres.positional
    rw [hscan]
    by_cases htable : startsWithDigit table = true
    · rw [if_pos htable, if_pos htable]
      rfl
    · rw [if_neg htable, if_neg htable, run_written_visit]
      rfl

/-- The same column on a table with a letter and on one with a digit. -/
theorem found_users_not_1users :
    (isIdle ' ' = true ∧ Placeholder.isNameChar ')' = false) ∧
      (⟨between ' ' ')' ":users_age_0", (empty.bind "users" "age" (.int 7)).2⟩ : Built).rawSql
        = " 7)" ∧
      (⟨between ' ' ')' ":1users_age_0", (empty.bind "1users" "age" (.int 7)).2⟩ : Built).rawSql
        = " :1users_age_0)" := by
  refine ⟨by decide, ?_, ?_⟩
  · exact (found_iff_not_startsWithDigit empty "users" "age" (.int 7) ' ' ')'
      (by decide) (by decide)).2.1.trans (by decide)
  · exact (found_iff_not_startsWithDigit empty "1users" "age" (.int 7) ' ' ')'
      (by decide) (by decide)).2.1.trans (by decide)

end Params

/-- A test on a table that begins with a digit. -/
def Statement.onDigitTable : Statement :=
  .select (Select.ofSteps [.target "1t", .filter (.compare .and (.name "a") .equal (.int 5))])

/-- **A generated name that is not found.** The one value is bound under the name that stands in the
    text, but the text with literals still shows the name, and a numbering server gets the name in the
    text and no value. -/
theorem Statement.onDigitTable_not_substituted :
    (onDigitTable.build { dialect := .postgres }).sql = "SELECT * FROM \"1t\" WHERE \"a\" = :1t_a_0" ∧
      (onDigitTable.build { dialect := .postgres }).params.entries = [(":1t_a_0", .int 5)] ∧
      (onDigitTable.build { dialect := .postgres }).rawSql =
        "SELECT * FROM \"1t\" WHERE \"a\" = :1t_a_0" ∧
      Postgres.positional (onDigitTable.build { dialect := .postgres }).sql
          (Bind.ofParams (onDigitTable.build { dialect := .postgres }).params) =
        .ok ("SELECT * FROM \"1t\" WHERE \"a\" = :1t_a_0", []) := by
  refine ⟨?_, ?_, ?_, ?_⟩
  · decide +kernel
  · decide +kernel
  · decide +kernel
  · rfl

end FluentSql
