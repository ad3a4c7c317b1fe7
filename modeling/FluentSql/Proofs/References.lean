import FluentSql.Proofs.Composition
import FluentSql.Proofs.DottedNames
import FluentSql.Proofs.QuotedClauses
/-!
# `FluentSql.Proofs.References` — qualified columns and the tables they mean

Two parts of a statement are written with qualified columns of their own: the default predicate of a
join, and the test that rows of another table refer to the row at hand. Each of these columns is meant
to be one of a table that is listed in FROM or in a join, of this statement or of one around it.
`Select.mentions` reads them off a statement, each with the table that is meant and with the tables
that are in scope where it stands.

A listed table goes by its alias, and by its name only without one. A joined table is mentioned by its
alias, the table of the statement by its name, whether it has an alias or not.

* `Select.mention_infix_template` — every mention stands in the text of the statement;
* `Listed.goesBy_iff` — which names a listed table goes by;
* `Select.mentions_inScope` — which mentions are in scope.
-/

namespace FluentSql

open FluentSql.Text Template

/-! ## Listed tables and mentions -/

/-- **A table listed** in FROM or in a join, with its alias. -/
structure Listed where
  table : String
  called : Option String := none
  deriving DecidableEq, Repr

/-- **What a listed table goes by** in the text; the empty alias is not written. -/
def Listed.sql (st : Style) (e : Listed) : String :=
  match e.called with
  | some called => if called.isEmpty then st.quote e.table else st.quoteIdent called
  | none => st.quote e.table

/-- **Whether a listed table goes by a name.** An alias hides the name of the table, and is one identifier
    even if it holds dots. -/
def Listed.goesBy (e : Listed) (name : String) : Bool :=
  match e.called with
  | some called =>
    if called.isEmpty then name == e.table else name == called && isPlainName called
  | none => name == e.table

/-- Why a table is mentioned. -/
inductive MentionRole where
  /-- It is the table of the statement. -/
  | current
  /-- It is being joined. -/
  | joined
  /-- It is the table whose rows refer to the row at hand. -/
  | related
  deriving DecidableEq, Repr

/-- **A qualified column**: why its table is mentioned, which table is meant, and which tables are in
    scope. -/
structure Mention where
  role : MentionRole
  meant : Listed
  column : String
  scope : List Listed
  deriving DecidableEq, Repr

namespace Mention

/-- **The qualifier**: a joined table goes by its alias, all others by their names. -/
def qualifier (u : Mention) : String :=
  match u.role with
  | .joined => u.meant.called.getD u.meant.table
  | _ => u.meant.table

/-- The text of a mention. -/
def sql (st : Style) (u : Mention) : String := st.quote u.qualifier ++ "." ++ st.quote u.column

/-- **Whether the qualifier is in scope**: some listed table goes by it. -/
def InScope (st : Style) (u : Mention) : Prop := ∃ e ∈ u.scope, e.sql st = st.quote u.qualifier

instance (st : Style) (u : Mention) : Decidable (u.InScope st) :=
  inferInstanceAs (Decidable (∃ e ∈ u.scope, e.sql st = st.quote u.qualifier))

end Mention

/-- A joined table. -/
def Join.listed (j : Join) : Listed := ⟨j.table, j.called⟩

/-- Whether a join is left with its default predicate. -/
def Join.isDefault (j : Join) : Bool := j.kind != .cross && j.predicate.isNone

/-- The mentions in joins. A join sees the tables listed before it, and its own. -/
def joinMentions (st : Style) (current : Listed) (scope : List Listed) : List Join → List Mention
  | [] => []
  | j :: joins =>
    (if j.isDefault then
      [⟨.current, current, "id", j.listed :: scope⟩,
        ⟨.joined, j.listed, st.foreignKey current.table, j.listed :: scope⟩]
    else []) ++ joinMentions st current (j.listed :: scope) joins

/-- The mentions in a test that rows of another table refer to the row at hand. -/
def relatedMentions (st : Style) (current : Listed) (scope : List Listed) (other : String)
    (column parent : Option String) : List Mention :=
  [⟨.related, ⟨other, none⟩, column.getD (st.foreignKey current.table), ⟨other, none⟩ :: scope⟩,
    ⟨.current, current, parent.getD "id", ⟨other, none⟩ :: scope⟩]

mutual

/-- The mentions in a test. -/
def Predicate.mentions (st : Style) (current : Listed) (scope : List Listed) :
    Predicate → List Mention
  | .compare _ _ _ => []
  | .raw _ _ => []
  | .related other column parent _ => relatedMentions st current scope other column parent
  | .subquery query _ => Select.mentions st scope query
  | .group conditions => Conditions.mentions st current scope conditions

/-- The mentions in conditions. -/
def Conditions.mentions (st : Style) (current : Listed) (scope : List Listed) :
    List Condition → List Mention
  | [] => []
  | ⟨_, predicate⟩ :: conditions =>
    Predicate.mentions st current scope predicate ++ Conditions.mentions st current scope conditions

/-- **The mentions in a SELECT statement** with tables of statements around it in scope. Conditions see
    the table of the statement and all joined tables. -/
def Select.mentions (st : Style) (outer : List Listed) : Select → List Mention
  | ⟨table, called, _, _, joins, ⟨conditions, _⟩, _, havings, _, _, unions, _, _, _⟩ =>
    if table.isEmpty then []
    else
      joinMentions st ⟨table, called⟩ (⟨table, called⟩ :: outer) joins.joins
        ++ Conditions.mentions st ⟨table, called⟩
            (⟨table, called⟩ :: joins.joins.map Join.listed ++ outer) conditions
        ++ Conditions.mentions st ⟨table, called⟩
            (⟨table, called⟩ :: joins.joins.map Join.listed ++ outer) havings
        ++ Select.mentionsOfBranches st outer unions

/-- The mentions in union branches, each of which lists tables of its own. -/
def Select.mentionsOfBranches (st : Style) (outer : List Listed) : List UnionBranch → List Mention
  | [] => []
  | ⟨_, query⟩ :: unions =>
    Select.mentions st outer query ++ Select.mentionsOfBranches st outer unions

end

/-! ## Mentions in the text -/

/-- A text between two others. -/
theorem infix_text (front s back : String) : text s <:+: text (front ++ s ++ back) := by
  rw [text_append, text_append]
  exact List.infix_append _ _ _

namespace Mention

variable {st : Style} {u : Mention} {s t : Template}

/-- A mention begins with something solid. -/
theorem text_sql_eq_cons (st : Style) (u : Mention) :
    ∃ a t, text (u.sql st) = a :: t ∧ a.look = .solid := by
  have hhead := st.dialect.charLook_of_mem_head?_quote u.qualifier
  have hlist : (u.sql st).toList = (st.quote u.qualifier).toList ++ '.' :: (st.quote u.column).toList := by
    rw [sql, String.toList_append, String.toList_append, List.append_assoc]
    rfl
  rw [text, hlist]
  cases hq : (st.quote u.qualifier).toList with
  | nil => exact ⟨_, _, rfl, by decide⟩
  | cons c cs =>
    refine ⟨_, _, rfl, hhead c ?_⟩
    show (st.quote u.qualifier).toList.head? = some c
    rw [hq]
    rfl

/-- **A mention in a template**, as it was written or squeezed. -/
def StandsIn (st : Style) (u : Mention) (t : Template) : Prop :=
  text (u.sql st) <:+: t ∨ (text (u.sql st)).squeeze <:+: t

theorem StandsIn.mono (h : u.StandsIn st s) (hst : s <:+: t) : u.StandsIn st t := by
  rcases h with hraw | hsqueezed
  · exact .inl (hraw.trans hst)
  · exact .inr (hsqueezed.trans hst)

/-- **Squeezing** keeps a mention, squeezed. -/
theorem StandsIn.squeeze (h : u.StandsIn st t) : (text (u.sql st)).squeeze <:+: t.squeeze := by
  obtain ⟨a, rest, htext, ha⟩ := text_sql_eq_cons st u
  rcases h with hraw | hsqueezed
  · rw [htext] at hraw ⊢
    exact squeeze_infix_squeeze ha hraw
  · have hsettled : IsSettled (text (u.sql st)).squeeze := by
      intro started pending
      rw [htext]
      exact squeeze_squeeze_of_solid rfl ha started pending rest
    exact hsettled.infix_squeeze hsqueezed

/-- What holds a mention shows. -/
theorem StandsIn.isEmpty (h : u.StandsIn st t) : t.isEmpty = false := by
  obtain ⟨a, rest, htext, ha⟩ := text_sql_eq_cons st u
  have hvisible : a.isVisible = true := by
    cases a with
    | given params => cases ha
    | _ => rfl
  have hmem : a ∈ t := by
    rcases h with hraw | hsqueezed
    · exact hraw.subset (by rw [htext]; exact List.mem_cons_self)
    · refine hsqueezed.subset ?_
      rw [htext, Template.squeeze, squeeze_cons_solid ha]
      exact List.mem_cons_self
  exact isEmpty_eq_false_of_mem hmem hvisible

end Mention

open Mention (StandsIn)

/-- The default predicate of a join: one mention equals another. -/
theorem Join.defaultPredicate_eq (st : Style) (current : Listed) (scope : List Listed) (j : Join) :
    Join.defaultPredicate st current.table (j.called.getD j.table) =
      Mention.sql st ⟨.current, current, "id", scope⟩ ++ " = "
        ++ Mention.sql st ⟨.joined, j.listed, st.foreignKey current.table, scope⟩ := by
  have hid : current.table ++ ".id" = current.table ++ "." ++ "id" := by
    rw [String.append_assoc]
    rfl
  unfold Join.defaultPredicate Style.quote
  rw [hid, Dialect.quote_append, Dialect.quote_append]
  rfl

/-- Two mentions of a text stand in it. -/
theorem Mention.infix_of_mem_pair (st : Style) (first second : Mention) (front between back : String) :
    ∀ u ∈ [first, second],
      text (u.sql st) <:+: text (front ++ first.sql st ++ between ++ second.sql st ++ back) := by
  intro u hu
  rcases List.mem_cons.mp hu with rfl | hlast
  · have h := infix_text front (u.sql st) (between ++ second.sql st ++ back)
    simpa only [String.append_assoc] using h
  · rw [List.mem_singleton.mp hlast]
    exact infix_text (front ++ first.sql st ++ between) (second.sql st) back

/-- A join that is left with its default predicate: both columns stand in its text. -/
theorem Join.defaultMention_infix (st : Style) (current : Listed) (scope : List Listed) {j : Join}
    (h : j.isDefault = true) :
    ∀ u ∈ [(⟨.current, current, "id", scope⟩ : Mention),
        ⟨.joined, j.listed, st.foreignKey current.table, scope⟩],
      text (u.sql st) <:+: text (j.sql st current.table) := by
  obtain ⟨hkind, hnone⟩ := Bool.and_eq_true_iff.mp h
  have hon : j.onSql st current.table =
      " ON " ++ Join.defaultPredicate st current.table (j.called.getD j.table) := by
    obtain ⟨kind, target, called, predicate⟩ := j
    cases predicate with
    | some p => cases hnone
    | none => cases kind <;> first | rfl | cases hkind
  have hsql : j.sql st current.table = j.targetSql st ++ " ON "
      ++ Mention.sql st ⟨.current, current, "id", scope⟩ ++ " = "
      ++ Mention.sql st ⟨.joined, j.listed, st.foreignKey current.table, scope⟩ ++ "" := by
    rw [Join.sql_eq, hon, Join.defaultPredicate_eq st current scope j]
    simp only [String.append_assoc, String.append_empty]
  rw [hsql]
  exact Mention.infix_of_mem_pair st _ _ _ _ _

/-- **The mentions in joins** stand in the text of the joins. -/
theorem joinMention_standsIn (st : Style) (current : Listed) :
    ∀ (joins : List Join) (scope : List Listed), ∀ u ∈ joinMentions st current scope joins,
      u.StandsIn st (text (" ".intercalate (joins.map (Join.sql st current.table)))) := by
  intro joins
  induction joins with
  | nil =>
    intro scope u hu
    cases hu
  | cons j joins ih =>
    intro scope u hu
    rw [text_intercalate, List.map_map]
    rcases List.mem_append.mp hu with hfirst | hmore
    · split at hfirst
      · rename_i hdefault
        have hjoin := Join.defaultMention_infix st current (j.listed :: scope) hdefault u hfirst
        exact .inl (infix_joined List.mem_cons_self hjoin)
      · cases hfirst
    · have hrest := ih (j.listed :: scope) u hmore
      rw [text_intercalate, List.map_map] at hrest
      refine hrest.mono ?_
      cases joins with
      | nil => exact List.nil_infix
      | cons k joins => exact (List.suffix_append _ _).isInfix

/-- **The text of a test on related rows**: a subquery that compares its two mentions. -/
theorem relatedSql_eq_mentions (st : Style) (current : Listed) (scope : List Listed)
    (other : String) (column parent : Option String) (wanted : Bool) :
    ∃ own key, relatedMentions st current scope other column parent = [own, key] ∧
      relatedSql st current.table other column parent wanted =
        existsKeyword wanted ++ " (SELECT " ++ st.quote own.column ++ " FROM " ++ st.quote other
          ++ " WHERE " ++ own.sql st ++ " = " ++ key.sql st ++ ")" := by
  refine ⟨_, _, rfl, ?_⟩
  simp only [relatedSql, Mention.sql, Mention.qualifier, String.append_assoc]

/-- **The mentions in a test on related rows** stand in its text. -/
theorem relatedMention_standsIn (st : Style) (current : Listed) (scope : List Listed)
    (other : String) (column parent : Option String) (wanted : Bool) :
    ∀ u ∈ relatedMentions st current scope other column parent,
      u.StandsIn st (text (relatedSql st current.table other column parent wanted)) := by
  intro u hu
  left
  obtain ⟨own, key, hpair, hsql⟩ := relatedSql_eq_mentions st current scope other column parent wanted
  rw [hpair] at hu
  rw [hsql]
  exact Mention.infix_of_mem_pair st _ _ _ _ _ u hu

mutual

/-- A mention stands in the test that it is made in. -/
theorem Predicate.mention_standsIn (st : Style) (kind : ClauseKind) (current : Listed)
    (scope : List Listed) : ∀ predicate : Predicate,
      ∀ u ∈ predicate.mentions st current scope,
        u.StandsIn st (predicate.template st kind current.table)
  | .compare _ _ _, u, hu => by cases hu
  | .raw _ _, u, hu => by cases hu
  | .related other column parent wanted, u, hu => by
    simp only [Predicate.template]
    exact relatedMention_standsIn st current scope other column parent wanted u hu
  | .subquery query wanted, u, hu => by
    simp only [Predicate.template]
    exact .inr (infix_enclosed (Select.mention_infix_template st scope query u hu) _)
  | .group conditions, u, hu => by
    simp only [Predicate.template]
    exact (Conditions.mention_standsIn st kind current scope false conditions u hu).mono
      (infix_enclosed List.infix_rfl _)

/-- A mention stands in the conditions that it is made in. -/
theorem Conditions.mention_standsIn (st : Style) (kind : ClauseKind) (current : Listed)
    (scope : List Listed) (started : Bool) : ∀ conditions : List Condition,
      ∀ u ∈ Conditions.mentions st current scope conditions,
        u.StandsIn st (Conditions.templateFrom st kind current.table started conditions)
  | [], u, hu => by cases hu
  | ⟨joiner, predicate⟩ :: conditions, u, hu => by
    have hrest := fun started =>
      Conditions.mention_standsIn st kind current scope started conditions u
    simp only [Conditions.templateFrom]
    rcases List.mem_append.mp hu with hp | hc
    · have hbody := Predicate.mention_standsIn st kind current scope predicate u hp
      split
      · exact hbody.mono (List.prefix_append _ _).isInfix
      · exact hbody.mono (List.infix_append _ _ _)
    · split
      · exact (hrest started hc).mono (List.suffix_append _ _).isInfix
      · exact (hrest true hc).mono (List.suffix_append _ _).isInfix

/-- **A mention stands in the statement** that it is made in, squeezed. -/
theorem Select.mention_infix_template (st : Style) (outer : List Listed) : ∀ q : Select,
    ∀ u ∈ q.mentions st outer, (text (u.sql st)).squeeze <:+: q.template st
  | ⟨table, called, columns, distinct, joins, ⟨conditions, inConditions⟩, groups, havings, orders,
      aggregates, unions, limit, offset, inTable⟩, u, hu => by
    let current : Listed := ⟨table, called⟩
    let scope : List Listed := current :: joins.joins.map Join.listed ++ outer
    simp only [Select.mentions] at hu
    simp only [Select.template]
    by_cases htable : table.isEmpty = true
    · rw [if_pos htable] at hu
      cases hu
    · rw [if_neg htable] at hu
      rw [if_neg htable]
      refine StandsIn.squeeze ?_
      rcases List.mem_append.mp hu with hjwh | hu
      · rcases List.mem_append.mp hjwh with hjw | hh
        · rcases List.mem_append.mp hjw with hj | hw
          · have hjoins : u.StandsIn st (text (joins.sql st table)) :=
              joinMention_standsIn st current joins.joins (current :: outer) u hj
            exact hjoins.mono (infix_joined (by simp) List.infix_rfl)
          · have hwheres : u.StandsIn st (Conditions.templateFrom st .wheres table false conditions) :=
              Conditions.mention_standsIn st .wheres current scope false conditions u hw
            exact hwheres.mono (infix_joined (by simp) (infix_headed List.infix_rfl "WHERE"))
        · have hhavings : u.StandsIn st (Conditions.templateFrom st .having table false havings) :=
            Conditions.mention_standsIn st .having current scope false havings u hh
          exact hhavings.mono (infix_joined (by simp) (infix_headed List.infix_rfl "HAVING"))
      · obtain ⟨t, ht, hstands⟩ := Select.branchMention_standsIn st outer unions u hu
        exact hstands.mono (infix_joined (by simp [ht]) List.infix_rfl)

/-- A mention stands in one of the union branches that it is made in. -/
theorem Select.branchMention_standsIn (st : Style) (outer : List Listed) :
    ∀ unions : List UnionBranch, ∀ u ∈ Select.mentionsOfBranches st outer unions,
      ∃ t ∈ Select.branchTemplates st unions, u.StandsIn st t
  | [], u, hu => by cases hu
  | ⟨all, query⟩ :: unions, u, hu => by
    simp only [Select.branchTemplates]
    rcases List.mem_append.mp hu with hq | hrest
    · have hstands : u.StandsIn st (query.template st) :=
        .inr (Select.mention_infix_template st outer query u hq)
      rw [if_neg (by rw [hstands.isEmpty]; decide)]
      exact ⟨_, List.mem_cons_self, hstands.mono (infix_headed List.infix_rfl _)⟩
    · obtain ⟨t, ht, hstands⟩ := Select.branchMention_standsIn st outer unions u hrest
      split
      · exact ⟨t, ht, hstands⟩
      · exact ⟨t, List.mem_cons_of_mem _ ht, hstands⟩

end

/-! ## Mentions in scope -/

/-- **What a listed table goes by** does not depend on the style. -/
theorem Listed.goesBy_iff (st : Style) (e : Listed) (name : String) :
    e.goesBy name = true ↔ e.sql st = st.quote name := by
  have htable : (name == e.table) = true ↔ st.quote e.table = st.quote name := by
    rw [beq_iff_eq]
    constructor
    · rintro rfl
      rfl
    · intro h
      exact (st.dialect.quote_injective h).symm
  unfold Listed.goesBy Listed.sql
  cases e.called with
  | none => exact htable
  | some called =>
    dsimp only
    by_cases hempty : called.isEmpty = true
    · rw [if_pos hempty, if_pos hempty]
      exact htable
    · have hne : called ≠ "" := fun h => hempty (String.isEmpty_iff.mpr h)
      rw [if_neg hempty, if_neg hempty, Bool.and_eq_true, beq_iff_eq]
      have hquoted := st.dialect.quoteIdent_eq_quote_iff hne name
      constructor
      · rintro ⟨rfl, hplain⟩
        exact hquoted.mpr ⟨rfl, hplain⟩
      · intro h
        obtain ⟨rfl, hplain⟩ := hquoted.mp h
        exact ⟨rfl, hplain⟩

theorem Mention.inScope_iff (st : Style) (u : Mention) :
    u.InScope st ↔ ∃ e ∈ u.scope, e.goesBy u.qualifier = true := by
  unfold Mention.InScope
  constructor
  · rintro ⟨e, he, hsql⟩
    exact ⟨e, he, (e.goesBy_iff st u.qualifier).mpr hsql⟩
  · rintro ⟨e, he, hgoes⟩
    exact ⟨e, he, (e.goesBy_iff st u.qualifier).mp hgoes⟩

/-- A table without an alias goes by what it is mentioned by. -/
theorem Mention.goesBy_qualifier_of_none {u : Mention} (h : u.meant.called = none) :
    u.meant.goesBy u.qualifier = true := by
  have hqualifier : u.qualifier = u.meant.table := by
    unfold Mention.qualifier
    cases u.role with
    | joined => rw [h]; rfl
    | _ => rfl
  unfold Listed.goesBy
  rw [h, hqualifier]
  exact beq_self_eq_true _

/-- **A table with an alias** goes by what it is mentioned by if the alias is a plain name, and is what
    the table is mentioned by. -/
theorem Mention.goesBy_qualifier_iff {u : Mention} {called : String} (h : u.meant.called = some called)
    (hne : called ≠ "") :
    u.meant.goesBy u.qualifier = true ↔
      isPlainName called = true ∧ (u.role = .joined ∨ called = u.meant.table) := by
  have hempty : ¬called.isEmpty = true := fun h => hne (String.isEmpty_iff.mp h)
  unfold Listed.goesBy Mention.qualifier
  rw [h]
  dsimp only
  rw [if_neg hempty, Bool.and_eq_true, beq_iff_eq]
  cases hrole : u.role with
  | joined => simp
  | _ =>
    simp only [reduceCtorEq, false_or]
    exact ⟨fun h => ⟨h.2, h.1.symm⟩, fun h => ⟨h.2.symm, h.1⟩⟩

/-- A joined table is listed where it is mentioned, and so is the table of the statement. -/
theorem meant_mem_of_mem_joinMentions (st : Style) (current : Listed) (joins : List Join) :
    ∀ scope : List Listed, current ∈ scope →
      ∀ u ∈ joinMentions st current scope joins, u.meant ∈ u.scope := by
  induction joins with
  | nil =>
    intro scope _ u hu
    cases hu
  | cons j joins ih =>
    intro scope hscope u hu
    rcases List.mem_append.mp hu with hfirst | hmore
    · split at hfirst
      · rcases List.mem_cons.mp hfirst with rfl | hlast
        · exact List.mem_cons_of_mem _ hscope
        · rw [List.mem_singleton.mp hlast]
          exact List.mem_cons_self
      · cases hfirst
    · exact ih (j.listed :: scope) (List.mem_cons_of_mem _ hscope) u hmore

theorem meant_mem_of_mem_relatedMentions (st : Style) {current : Listed} {scope : List Listed}
    (hscope : current ∈ scope) (other : String) (column parent : Option String) :
    ∀ u ∈ relatedMentions st current scope other column parent, u.meant ∈ u.scope := by
  intro u hu
  rcases List.mem_cons.mp hu with rfl | hlast
  · exact List.mem_cons_self
  · rw [List.mem_singleton.mp hlast]
    exact List.mem_cons_of_mem _ hscope

mutual

theorem Predicate.meant_mem_scope (st : Style) {current : Listed} {scope : List Listed}
    (hscope : current ∈ scope) : ∀ predicate : Predicate,
      ∀ u ∈ predicate.mentions st current scope, u.meant ∈ u.scope
  | .compare _ _ _, u, hu => by cases hu
  | .raw _ _, u, hu => by cases hu
  | .related other column parent _, u, hu =>
    meant_mem_of_mem_relatedMentions st hscope other column parent u hu
  | .subquery query _, u, hu => Select.meant_mem_scope st scope query u hu
  | .group conditions, u, hu => Conditions.meant_mem_scope st hscope conditions u hu

theorem Conditions.meant_mem_scope (st : Style) {current : Listed} {scope : List Listed}
    (hscope : current ∈ scope) : ∀ conditions : List Condition,
      ∀ u ∈ Conditions.mentions st current scope conditions, u.meant ∈ u.scope
  | [], u, hu => by cases hu
  | ⟨_, predicate⟩ :: conditions, u, hu => by
    rcases List.mem_append.mp hu with hp | hc
    · exact Predicate.meant_mem_scope st hscope predicate u hp
    · exact Conditions.meant_mem_scope st hscope conditions u hc

/-- **The table that is meant is listed** where it is mentioned. -/
theorem Select.meant_mem_scope (st : Style) (outer : List Listed) : ∀ q : Select,
    ∀ u ∈ q.mentions st outer, u.meant ∈ u.scope
  | ⟨table, called, columns, distinct, joins, ⟨conditions, inConditions⟩, groups, havings, orders,
      aggregates, unions, limit, offset, inTable⟩, u, hu => by
    simp only [Select.mentions] at hu
    by_cases htable : table.isEmpty = true
    · rw [if_pos htable] at hu
      cases hu
    · rw [if_neg htable] at hu
      rcases List.mem_append.mp hu with hjwh | hu
      · rcases List.mem_append.mp hjwh with hjw | hh
        · rcases List.mem_append.mp hjw with hj | hw
          · exact meant_mem_of_mem_joinMentions st _ _ _ List.mem_cons_self u hj
          · exact Conditions.meant_mem_scope st List.mem_cons_self conditions u hw
        · exact Conditions.meant_mem_scope st List.mem_cons_self havings u hh
      · exact Select.meant_mem_scope_of_branches st outer unions u hu

theorem Select.meant_mem_scope_of_branches (st : Style) (outer : List Listed) :
    ∀ unions : List UnionBranch,
      ∀ u ∈ Select.mentionsOfBranches st outer unions, u.meant ∈ u.scope
  | [], u, hu => by cases hu
  | ⟨_, query⟩ :: unions, u, hu => by
    rcases List.mem_append.mp hu with hq | hrest
    · exact Select.meant_mem_scope st outer query u hq
    · exact Select.meant_mem_scope_of_branches st outer unions u hrest

end

/-- Every mention of a statement stands in the text of the statement. -/
theorem Select.mention_infix_sql (st : Style) (q : Select) {u : Mention} (hu : u ∈ q.mentions st []) :
    squeezeChars (u.sql st).toList <:+: ((Statement.select q).build st).sql.toList := by
  obtain ⟨front, back, htemplate⟩ := Select.mention_infix_template st [] q u hu
  have hsql : ((Statement.select q).build st).sql.toList = (assemble .empty (q.template st)).1 :=
    String.toList_ofList
  have hmention : ∀ ps, (assemble ps (text (u.sql st)).squeeze).1 = squeezeChars (u.sql st).toList := by
    intro ps
    rw [assemble_squeeze, assemble_text]
  rw [hsql, ← htemplate, assemble_append, assemble_append, hmention]
  exact List.infix_append _ _ _

/-- **Which mentions are in scope.** Every mention of a SELECT statement, at whatever depth of groups,
    subqueries and branches, stands in its text. If the table that is meant has no alias, the qualifier
    is in scope. If it has one, the qualifier is in scope only in two cases: the alias is a plain name,
    and the table is mentioned because it is being joined or has the alias for its name; or some other
    listed table goes by the qualifier. In particular the table of the statement is mentioned by its
    name, which its alias hides. -/
theorem Select.mentions_inScope (st : Style) (q : Select) : ∀ u ∈ q.mentions st [],
    squeezeChars (u.sql st).toList <:+: ((Statement.select q).build st).sql.toList ∧
      (u.meant.called = none → u.InScope st) ∧
      ∀ called, u.meant.called = some called → called ≠ "" →
        (u.InScope st ↔
          (isPlainName called = true ∧ (u.role = .joined ∨ called = u.meant.table)) ∨
            ∃ e ∈ u.scope, e ≠ u.meant ∧ e.goesBy u.qualifier = true) := by
  intro u hu
  have hmeant : u.meant ∈ u.scope := Select.meant_mem_scope st [] q u hu
  refine ⟨Select.mention_infix_sql st q hu, ?_, ?_⟩
  · intro hnone
    exact (u.inScope_iff st).mpr ⟨u.meant, hmeant, Mention.goesBy_qualifier_of_none hnone⟩
  · intro called hcalled hne
    rw [Mention.inScope_iff, ← Mention.goesBy_qualifier_iff hcalled hne]
    constructor
    · rintro ⟨e, he, hname⟩
      by_cases heq : e = u.meant
      · exact .inl (heq ▸ hname)
      · exact .inr ⟨e, he, heq, hname⟩
    · rintro (hname | ⟨e, he, -, hname⟩)
      · exact ⟨u.meant, hmeant, hname⟩
      · exact ⟨e, he, hname⟩

/-- Users under an alias, with their posts. -/
def Select.aliasedUsers : Select :=
  Select.ofSteps [.targetAs "users" "u", .join (.join .inner "posts" none)]

/-- The same with one more joined table, under an alias, and a test on related rows in a group. -/
def Select.aliasedUsersWithTasks : Select :=
  (aliasedUsers.step (.join (.join .left "teams" (some "t")))).step
    (.filter (.group .and [.related .and "tasks" none none true]))

/-- The mention of the users in the test on their tasks. -/
def Mention.usersOfTasks : Mention :=
  ⟨.current, ⟨"users", some "u"⟩, "id",
    [⟨"tasks", none⟩, ⟨"users", some "u"⟩, ⟨"posts", none⟩, ⟨"teams", some "t"⟩]⟩

theorem Select.usersOfTasks_mentioned :
    Mention.usersOfTasks ∈ aliasedUsersWithTasks.mentions { dialect := .sqlite } [] ∧
      squeezeChars "\x60users\x60.\x60id\x60".toList <:+:
        ((Statement.select aliasedUsersWithTasks).build { dialect := .sqlite }).sql.toList ∧
      ¬Mention.usersOfTasks.InScope { dialect := .sqlite } := by
  have hmem : Mention.usersOfTasks ∈ aliasedUsersWithTasks.mentions { dialect := .sqlite } [] := by
    refine List.mem_of_getElem? (i := 5) ?_
    rfl
  obtain ⟨hstands, -, hscope⟩ :=
    mentions_inScope { dialect := .sqlite } aliasedUsersWithTasks Mention.usersOfTasks hmem
  refine ⟨hmem, hstands, ?_⟩
  rw [hscope "u" rfl (by decide)]
  decide

/-- **A qualifier that is not in scope**: the table of the statement is mentioned by its name, in each
    default predicate and in the test on related rows, and goes by its alias. -/
theorem Select.aliasedUsers_out_of_scope :
    ((Statement.select aliasedUsers).build { dialect := .sqlite }).sql =
        "SELECT * FROM \x60users\x60 \x60u\x60"
          ++ " INNER JOIN \x60posts\x60 ON \x60users\x60.\x60id\x60 = \x60posts\x60.\x60user_id\x60" ∧
      (aliasedUsersWithTasks.mentions { dialect := .sqlite } []).map
          (fun u => (u.qualifier, u.meant.called, decide (u.InScope { dialect := .sqlite }))) =
        [("users", some "u", false), ("posts", none, true), ("users", some "u", false),
          ("t", some "t", true), ("tasks", none, true), ("users", some "u", false)] := by
  constructor
  · decide +kernel
  · decide +kernel

end FluentSql
