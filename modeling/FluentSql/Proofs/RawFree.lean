import FluentSql.Proofs.Operands
import FluentSql.Proofs.Scanning
/-!
# `FluentSql.Proofs.RawFree` — statements without raw SQL

Without raw columns and raw fragments, a statement consists of keywords, quoted identifiers and slots
(`Statement.isRawFree`). Keywords hold no quotes and no colons, identifiers end where they were meant
to end, and between an identifier or a slot and what follows there is always a separator. So the
template is read from its beginning to its end (`Statement.leads_template`).
-/

namespace FluentSql

open Template

open Region (IsPlain IsOuter)

/-! ## Raw SQL -/

/-- Whether a predicate of a join compares named columns. -/
def JoinPredicate.isRawFree (p : JoinPredicate) : Bool := !p.near.isRaw && !p.far.isRaw

/-- Whether a JOIN clause holds no raw SQL. -/
def JoinClause.isRawFree (clause : JoinClause) : Bool :=
  clause.joins.all fun j => j.predicate.all JoinPredicate.isRawFree

mutual

/-- Whether a test holds no raw SQL. -/
def Predicate.isRawFree : Predicate → Bool
  | .compare column _ _ => !column.isRaw
  | .raw _ _ => false
  | .related _ _ _ _ => true
  | .subquery query _ => Select.isRawFree query
  | .group conditions => Conditions.areRawFree conditions

/-- Whether conditions hold no raw SQL. -/
def Conditions.areRawFree : List Condition → Bool
  | [] => true
  | ⟨_, predicate⟩ :: conditions =>
    Predicate.isRawFree predicate && Conditions.areRawFree conditions

/-- **Whether a SELECT statement holds no raw SQL**: no raw column in any clause, and no raw
    fragment. -/
def Select.isRawFree : Select → Bool
  | ⟨_, _, columns, _, joins, ⟨conditions, _⟩, groups, havings, orders, aggregates, unions, _, _, _⟩ =>
    (columns.all fun c => !c.column.isRaw) && joins.isRawFree && Conditions.areRawFree conditions
      && (groups.columns.all fun c => !c.isRaw) && Conditions.areRawFree havings
      && (orders.entries.all fun (c, _) => !c.isRaw)
      && (aggregates.entries.all fun (_, c) => !c.isRaw) && Select.areRawFreeBranches unions

/-- Whether union branches hold no raw SQL. -/
def Select.areRawFreeBranches : List UnionBranch → Bool
  | [] => true
  | ⟨_, query⟩ :: unions => Select.isRawFree query && Select.areRawFreeBranches unions

end

/-- **Whether a statement holds no raw SQL.** A statement written by hand is nothing else. -/
def Statement.isRawFree : Statement → Bool
  | .select q => q.isRawFree
  | .insert _ => true
  | .update q => q.joins.isRawFree && Conditions.areRawFree q.wheres.conditions
  | .delete q => q.joins.isRawFree && Conditions.areRawFree q.wheres.conditions
  | .raw _ => false

/-! ## Clauses -/

theorem isInert_operator (op : Operator) : isInert op.sql = true := by
  cases op <;> decide

theorem leads_quoteColumn (st : Style) {column : Column} (h : column.isRaw = false) :
    Leads IsPlain (text (st.quoteColumn column)) IsOuter := by
  cases column with
  | name s => exact leads_quote st s
  | raw sql => cases h

theorem leads_conditionColumn (st : Style) (kind : ClauseKind) {column : Column}
    (h : column.isRaw = false) :
    Leads IsPlain (text (conditionColumn st kind column)) IsOuter := by
  cases column with
  | raw sql => cases h
  | name s =>
    cases kind with
    | wheres => exact leads_quote st s
    | having => exact leads_quoteIdent st s

/-- An operator between blanks, after a column. -/
theorem leads_operator (op : Operator) :
    Leads IsOuter (text " " ++ text op.sql ++ text " ") IsPlain :=
  ((leads_separator (by decide)).append (leads_inert (isInert_operator op))).append
    (leads_inert (by decide))

theorem leads_compareTemplate (st : Style) (kind : ClauseKind) (table : String) {column : Column}
    (h : column.isRaw = false) (op : Operator) (operand : Operand) :
    Leads IsPlain (compareTemplate st kind table column op operand) IsOuter := by
  have hcolumn := leads_conditionColumn st kind h
  have hslot : ∀ v, Leads IsPlain [.slot table column.text v] IsOuter :=
    leads_slot table column.text
  have hcompared := hcolumn.append (leads_operator op)
  cases operand with
  | single v =>
    simp only [compareTemplate, text_append, List.append_assoc] at hcompared ⊢
    simpa only [List.append_assoc] using hcompared.append (hslot v)
  | pair low high =>
    have hand : Leads IsOuter (text " AND ") IsPlain := leads_separator (by decide)
    have hboth := ((hcompared.append (hslot low)).append hand).append (hslot high)
    simpa only [compareTemplate, text_append, List.append_assoc] using hboth
  | list values =>
    cases values with
    | nil => exact (leads_inert (by cases op <;> decide)).outer
    | cons v values =>
      have hvalues : Leads IsPlain (joined ", "
          ((v :: values).map fun value => [.slot table column.text value])) IsOuter := by
        refine leads_joined (by decide) fun t ht => ?_
        obtain ⟨w, -, rfl⟩ := List.mem_map.mp ht
        exact hslot w
      have hopening : Leads IsPlain (text "(") IsPlain := leads_inert (by decide)
      have hclosing : Leads IsOuter (text ")") IsPlain := leads_separator (by decide)
      have hall := ((hcompared.append hopening).append hvalues).append hclosing
      have hparen : (" (" : String) = " " ++ "(" := rfl
      simp only [compareTemplate, hparen, text_append, List.append_assoc] at hall ⊢
      exact hall.outer
  | null =>
    have hnull : Leads IsPlain (text "NULL") IsPlain := leads_inert (by decide)
    have hblank : (" NULL" : String) = " " ++ "NULL" := rfl
    simp only [compareTemplate, hblank, text_append, List.append_assoc] at hcompared ⊢
    simpa only [List.append_assoc] using (hcompared.append hnull).outer

theorem leads_relatedSql (st : Style) (current table : String) (column parent : Option String)
    (wanted : Bool) : Leads IsPlain (text (relatedSql st current table column parent wanted)) IsOuter := by
  have hkeyword : Leads IsPlain (text (existsKeyword wanted)) IsPlain := by
    cases wanted <;> exact leads_inert (by decide)
  have hquote : ∀ ident, Leads IsPlain (text (st.quote ident)) IsOuter := leads_quote st
  have hdot : Leads IsOuter (text ".") IsPlain := leads_separator (by decide)
  have hselect : Leads IsPlain (text " (SELECT ") IsPlain := leads_inert (by decide)
  have hfrom : Leads IsOuter (text " FROM ") IsPlain := leads_separator (by decide)
  have hwhere : Leads IsOuter (text " WHERE ") IsPlain := leads_separator (by decide)
  have hequal : Leads IsOuter (text " = ") IsPlain := leads_separator (by decide)
  have hclosing : Leads IsOuter (text ")") IsPlain := leads_separator (by decide)
  simp only [relatedSql, text_append, List.append_assoc]
  refine hkeyword.append (hselect.append ((hquote _).append (hfrom.append ((hquote _).append ?_))))
  refine hwhere.append ((hquote _).append (hdot.append ((hquote _).append ?_)))
  exact hequal.append ((hquote _).append (hdot.append ((hquote _).append hclosing.outer)))

/-- An alias behind what it stands for. -/
theorem leads_alias (st : Style) {sql sep : String} (hsql : Leads IsPlain (text sql) IsOuter)
    (hsep : isSeparator sep = true) (called : String) :
    Leads IsPlain (text (sql ++ sep ++ st.quoteIdent called)) IsOuter := by
  rw [text_append, text_append]
  exact (hsql.append (leads_separator hsep)).append (leads_quoteIdent st called)

theorem leads_selectColumn (st : Style) {c : SelectColumn} (h : c.column.isRaw = false) :
    Leads IsPlain (text (c.sql st)) IsOuter := by
  have hcolumn := leads_quoteColumn st h
  unfold SelectColumn.sql
  split
  · split
    · exact hcolumn
    · exact leads_alias st hcolumn (by decide) _
  · exact hcolumn

theorem leads_aggregate (st : Style) (fn : AggregateFn) (called : String) {column : Column}
    (h : column.isRaw = false) :
    Leads IsPlain (text (AggregateClause.itemSql st fn called column)) IsOuter := by
  have hname : Leads IsPlain (text fn.sql) IsPlain := by
    cases fn <;> exact leads_inert (by decide)
  have hopening : Leads IsPlain (text "(") IsPlain := leads_inert (by decide)
  have hclosing : Leads IsOuter (text ")") IsPlain := leads_separator (by decide)
  have hcall : Leads IsPlain (text (fn.sql ++ "(" ++ st.quoteColumn column ++ ")")) IsOuter := by
    rw [text_append, text_append, text_append]
    exact (((hname.append hopening).append (leads_quoteColumn st h)).append hclosing).outer
  unfold AggregateClause.itemSql
  dsimp only
  split
  · exact hcall
  · exact leads_alias st hcall (by decide) called

/-- The aggregates in the order in which they are listed. -/
def AggregateClause.listed (clause : AggregateClause) : List (AggregateFn × String × Column) :=
  AggregateFn.all.flatMap fun fn => (entriesOf clause fn).map fun entry => (fn, entry)

theorem AggregateClause.items_eq (st : Style) (clause : AggregateClause) :
    items st clause = (listed clause).map fun e => itemSql st e.1 e.2.1 e.2.2 := by
  simp only [items, listed, List.map_flatMap, List.map_map]
  rfl

/-- What is listed was given. -/
theorem AggregateClause.mem_entries_of_mem_listed {clause : AggregateClause}
    {e : AggregateFn × String × Column} (h : e ∈ listed clause) :
    ((e.1, e.2.1), e.2.2) ∈ clause.entries := by
  obtain ⟨fn, -, he⟩ := List.mem_flatMap.mp h
  obtain ⟨⟨called, column⟩, hmem, rfl⟩ := List.mem_map.mp he
  obtain ⟨⟨⟨g, name⟩, c⟩, hentry, heq⟩ := List.mem_filterMap.mp hmem
  simp only at heq
  split at heq
  · rename_i hfn
    cases heq
    exact hfn ▸ hentry
  · cases heq

/-- What holds of the columns and of the aggregates holds of all that is selected. -/
theorem forall_mem_selectItems {P : String → Prop} (st : Style) {columns : List SelectColumn}
    {aggregates : AggregateClause} (hcolumns : ∀ c ∈ columns, P (c.sql st))
    (haggregates : P (AggregateClause.sql st aggregates)) :
    ∀ s ∈ (if (AggregateClause.sql st aggregates).isEmpty then columns.map (SelectColumn.sql st)
      else columns.map (SelectColumn.sql st) ++ [AggregateClause.sql st aggregates]), P s := by
  intro s hs
  split at hs
  · obtain ⟨c, hc, rfl⟩ := List.mem_map.mp hs
    exact hcolumns c hc
  · rcases List.mem_append.mp hs with hcolumn | haggregate
    · obtain ⟨c, hc, rfl⟩ := List.mem_map.mp hcolumn
      exact hcolumns c hc
    · rw [List.mem_singleton.mp haggregate]
      exact haggregates

theorem leads_aggregates (st : Style) {clause : AggregateClause}
    (h : (clause.entries.all fun (_, c) => !c.isRaw) = true) :
    Leads IsPlain (text (AggregateClause.sql st clause)) IsOuter := by
  rw [AggregateClause.sql, AggregateClause.items_eq]
  refine leads_intercalate (by decide) fun s hs => ?_
  obtain ⟨e, he, rfl⟩ := List.mem_map.mp hs
  have hentry := AggregateClause.mem_entries_of_mem_listed he
  exact leads_aggregate st e.1 e.2.1 (by simpa using List.all_eq_true.mp h _ hentry)

/-- **The select list and the table.** -/
theorem leads_selectListSql (st : Style) (table : String) (called : Option String)
    {columns : List SelectColumn} (hcolumns : (columns.all fun c => !c.column.isRaw) = true)
    (distinct : Bool) {aggregates : AggregateClause}
    (haggregates : (aggregates.entries.all fun (_, c) => !c.isRaw) = true) :
    Leads IsPlain (text (selectListSql st table called columns distinct aggregates)) IsOuter := by
  have hselect : Leads IsPlain (text "SELECT ") IsPlain := leads_inert (by decide)
  have hdistinct : Leads IsPlain (text (if distinct then "DISTINCT " else "")) IsPlain := by
    cases distinct <;> exact leads_inert (by decide)
  have hfrom : Leads IsOuter (text " FROM ") IsPlain := leads_separator (by decide)
  have hcolumn : ∀ c ∈ columns, Leads IsPlain (text (c.sql st)) IsOuter := fun c hc =>
    leads_selectColumn st (by simpa using List.all_eq_true.mp hcolumns c hc)
  have hitems := forall_mem_selectItems (P := fun s => Leads IsPlain (text s) IsOuter) st hcolumn
    (leads_aggregates st haggregates)
  have hlist : ∀ items : List String, (∀ s ∈ items, Leads IsPlain (text s) IsOuter) →
      Leads IsPlain (text (if items.isEmpty then "*" else ", ".intercalate items)) IsOuter := by
    intro items h
    split
    · exact (leads_inert (by decide)).outer
    · exact leads_intercalate (by decide) h
  have hsql := (((hselect.append hdistinct).append (hlist _ hitems)).append hfrom).append
    (leads_quote st table)
  simp only [← text_append] at hsql
  unfold selectListSql
  dsimp only
  split
  · exact leads_alias st hsql (by decide) _
  · exact hsql

/-- A join predicate after a joined table. -/
theorem leads_on (st : Style) {target : String} (ht : Leads IsPlain (text target) IsOuter)
    {p : JoinPredicate} (h : p.isRawFree = true) :
    Leads IsPlain (text (target ++ " ON " ++ st.quoteColumn p.near ++ " " ++ p.op.sql ++ " "
      ++ st.quoteColumn p.far)) IsOuter := by
  have hraw : p.near.isRaw = false ∧ p.far.isRaw = false := by
    simpa [JoinPredicate.isRawFree] using h
  have hon : Leads IsOuter (text " ON ") IsPlain := leads_separator (by decide)
  have hcompared := (((ht.append hon).append (leads_quoteColumn st hraw.1)).append
    (leads_operator p.op)).append (leads_quoteColumn st hraw.2)
  simpa only [text_append, List.append_assoc] using hcompared

theorem leads_onDefault (st : Style) {target : String} (ht : Leads IsPlain (text target) IsOuter)
    (table name : String) :
    Leads IsPlain (text (target ++ " ON " ++ Join.defaultPredicate st table name)) IsOuter := by
  have hon : Leads IsOuter (text " ON ") IsPlain := leads_separator (by decide)
  have hequal : Leads IsOuter (text " = ") IsPlain := leads_separator (by decide)
  rw [Join.defaultPredicate, text_append, text_append, text_append, text_append]
  exact (ht.append hon).append (((leads_quote st _).append hequal).append (leads_quote st _))

theorem leads_join (st : Style) (table : String) {j : Join}
    (h : j.predicate.all JoinPredicate.isRawFree = true) :
    Leads IsPlain (text (j.sql st table)) IsOuter := by
  have hkind : Leads IsPlain (text j.kind.sql) IsPlain := by
    cases j.kind <;> exact leads_inert (by decide)
  have hblank : Leads IsPlain (text " ") IsPlain := leads_inert (by decide)
  have htable : Leads IsPlain (text (j.kind.sql ++ " " ++ st.quote j.table)) IsOuter := by
    rw [text_append, text_append]
    exact (hkind.append hblank).append (leads_quote st j.table)
  unfold Join.sql
  dsimp only
  cases j.called with
  | none =>
    split
    · exact htable
    · rename_i near op far hpredicate _
      rw [hpredicate] at h
      exact leads_on st htable (p := ⟨near, op, far⟩) h
    · exact leads_onDefault st htable table _
  | some called =>
    have hsep : isSeparator " " = true := by
      decide
    have haliased := leads_alias st htable hsep called
    split
    · exact haliased
    · rename_i near op far hpredicate _
      rw [hpredicate] at h
      exact leads_on st haliased (p := ⟨near, op, far⟩) h
    · exact leads_onDefault st haliased table _

theorem leads_joins (st : Style) (table : String) {clause : JoinClause}
    (h : clause.isRawFree = true) : Leads IsPlain (text (clause.sql st table)) IsOuter := by
  refine leads_intercalate (by decide) fun s hs => ?_
  obtain ⟨j, hj, rfl⟩ := List.mem_map.mp hs
  exact leads_join st table (List.all_eq_true.mp h j hj)

theorem leads_groups (st : Style) {clause : GroupClause}
    (h : (clause.columns.all fun c => !c.isRaw) = true) :
    Leads IsPlain (text (clause.sql st)) IsOuter := by
  unfold GroupClause.sql
  split
  · exact (Leads.nil _).outer
  · rw [text_append]
    refine (leads_inert (by decide)).append (leads_intercalate (by decide) fun s hs => ?_)
    obtain ⟨c, hc, rfl⟩ := List.mem_map.mp hs
    exact leads_quoteColumn st (by simpa using List.all_eq_true.mp h c hc)

theorem leads_orders (st : Style) {clause : OrderClause}
    (h : (clause.entries.all fun (c, _) => !c.isRaw) = true) :
    Leads IsPlain (text (clause.sql st)) IsOuter := by
  unfold OrderClause.sql
  split
  · exact (Leads.nil _).outer
  · rw [text_append]
    refine (leads_inert (by decide)).append (leads_intercalate (by decide) fun s hs => ?_)
    obtain ⟨⟨c, d⟩, hc, rfl⟩ := List.mem_map.mp hs
    have hraw : c.isRaw = false := by simpa using List.all_eq_true.mp h _ hc
    have hblank : Leads IsOuter (text " ") IsPlain := leads_separator (by decide)
    have hdirection : Leads IsPlain (text d.sql) IsPlain := by
      cases d <;> exact leads_inert (by decide)
    dsimp only
    rw [text_append, text_append]
    exact (((leads_quoteColumn st hraw).append hblank).append hdirection).outer

theorem leads_rowCountTemplate {keyword : String} (hk : isInert (keyword ++ " ") = true)
    (table column : String) (n : Option UInt64) :
    ∀ t ∈ (n.map (rowCountTemplate keyword table column)).toList, Leads IsPlain t IsOuter := by
  intro t ht
  cases n with
  | none => exact absurd ht (by simp)
  | some n =>
    rw [List.mem_singleton.mp ht]
    exact (leads_inert hk).append (leads_slot table column _)

/-! ## Statements -/

mutual

/-- A test without raw SQL is read to its end. -/
theorem Predicate.leads_template (st : Style) (kind : ClauseKind) (table : String) :
    ∀ predicate : Predicate, predicate.isRawFree = true →
      Leads IsPlain (predicate.template st kind table) IsOuter
  | .compare column op operand, h => by
    simp only [Predicate.template]
    exact leads_compareTemplate st kind table (by simpa [Predicate.isRawFree] using h) op operand
  | .raw sql params, h => by cases h
  | .related other column parent wanted, _ => by
    simp only [Predicate.template]
    exact leads_relatedSql st table other column parent wanted
  | .subquery query wanted, h => by
    simp only [Predicate.template]
    exact (Select.leads_template st query h).enclosed (by cases wanted <;> decide)
  | .group conditions, h => by
    simp only [Predicate.template]
    have hconditions : Leads IsPlain (Conditions.templateFrom st kind table false conditions)
        IsOuter := Conditions.leads_templateFrom st kind table false conditions h
    exact hconditions.enclosed (by decide)

/-- Conditions without raw SQL are read to their end; after something that is written they begin
    with a separator. -/
theorem Conditions.leads_templateFrom (st : Style) (kind : ClauseKind) (table : String)
    (started : Bool) : ∀ conditions : List Condition, Conditions.areRawFree conditions = true →
      Leads (if started then IsOuter else IsPlain)
        (Conditions.templateFrom st kind table started conditions) IsOuter
  | [], _ => by
    cases started with
    | true => exact Leads.nil _
    | false => exact (Leads.nil _).outer
  | ⟨joiner, predicate⟩ :: conditions, h => by
    obtain ⟨hp, hc⟩ := Bool.and_eq_true_iff.mp h
    have hbody := Predicate.leads_template st kind table predicate hp
    have hrest := fun started => Conditions.leads_templateFrom st kind table started conditions hc
    have hjoiner : Leads IsOuter (text (joinerText joiner)) IsPlain := by
      rcases joiner with _ | (_ | _) <;> exact leads_separator (by decide)
    simp only [Conditions.templateFrom]
    by_cases hempty : (Predicate.template st kind table predicate).isEmpty = true
    · rw [if_pos hempty, hbody.eq_nil hempty]
      exact hrest started
    · rw [if_neg hempty]
      cases started with
      | true => exact (hjoiner.append hbody).append (hrest true)
      | false => exact hbody.append (hrest true)

/-- **A SELECT statement** without raw SQL is read to its end. -/
theorem Select.leads_template (st : Style) : ∀ q : Select, q.isRawFree = true →
    Leads IsPlain (q.template st) IsOuter
  | ⟨table, called, columns, distinct, joins, ⟨conditions, inConditions⟩, groups, havings, orders,
      aggregates, unions, limit, offset, inTable⟩, h => by
    simp only [Select.isRawFree, Bool.and_eq_true] at h
    obtain ⟨⟨⟨⟨⟨⟨⟨hcolumns, hjoins⟩, hw⟩, hgroups⟩, hh⟩, horders⟩, haggregates⟩, hu⟩ := h
    have hwheres : Leads IsPlain (Conditions.templateFrom st .wheres table false conditions)
        IsOuter := Conditions.leads_templateFrom st .wheres table false conditions hw
    have hhavings : Leads IsPlain (Conditions.templateFrom st .having table false havings)
        IsOuter := Conditions.leads_templateFrom st .having table false havings hh
    have hbranches := Select.leads_branchTemplates st unions hu
    simp only [Select.template]
    split
    · exact (Leads.nil _).outer
    · refine Leads.squeeze (leads_joined (by decide) fun t ht => ?_)
      simp only [List.mem_append, List.mem_cons, List.not_mem_nil, or_false] at ht
      rcases ht with (((rfl | rfl | rfl | rfl | rfl | rfl) | hb) | hl) | ho
      · exact leads_selectListSql st table called hcolumns distinct haggregates
      · exact leads_joins st table hjoins
      · exact hwheres.headed (by decide)
      · exact leads_groups st hgroups
      · exact hhavings.headed (by decide)
      · exact leads_orders st horders
      · exact hbranches t hb
      · exact leads_rowCountTemplate (by decide) table "limit" limit t hl
      · exact leads_rowCountTemplate (by decide) table "offset" offset t ho

/-- Union branches without raw SQL are read to their ends. -/
theorem Select.leads_branchTemplates (st : Style) : ∀ unions : List UnionBranch,
    Select.areRawFreeBranches unions = true →
      ∀ t ∈ Select.branchTemplates st unions, Leads IsPlain t IsOuter
  | [], _ => fun t ht => absurd ht (by simp [Select.branchTemplates])
  | ⟨all, query⟩ :: unions, h => by
    obtain ⟨hq, hu⟩ := Bool.and_eq_true_iff.mp h
    have hbody := Select.leads_template st query hq
    have hrest := Select.leads_branchTemplates st unions hu
    exact Select.forall_mem_branchTemplates (hbody.headed (by cases all <;> decide)) hrest

end

theorem WhereClause.leads_template (st : Style) (table : String) {clause : WhereClause}
    (h : Conditions.areRawFree clause.conditions = true) :
    Leads IsPlain (clause.template st table) IsOuter := by
  have hconditions : Leads IsPlain
      (Conditions.templateFrom st .wheres table false clause.conditions) IsOuter :=
    Conditions.leads_templateFrom st .wheres table false clause.conditions h
  exact hconditions.headed (by decide)

/-- A row of slots in parentheses. -/
theorem Insert.leads_rowTemplate (table : String) (columns : List String) (row : Payload) :
    Leads IsPlain (Insert.rowTemplate table columns row) IsOuter := by
  have hopening : Leads IsPlain (text "(") IsPlain := leads_inert (by decide)
  have hclosing : Leads IsOuter (text ")") IsPlain := leads_separator (by decide)
  refine ((hopening.append (leads_joined (by decide) fun t ht => ?_)).append hclosing).outer
  obtain ⟨column, -, rfl⟩ := List.mem_map.mp ht
  exact leads_slot table column _

theorem Insert.leads_template (st : Style) (q : Insert) :
    Leads IsPlain (q.template st) IsOuter := by
  have hinto : Leads IsPlain (text ("INSERT INTO " ++ st.quote q.table)) IsOuter := by
    rw [text_append]
    exact (leads_inert (by decide)).append (leads_quote st q.table)
  simp only [Insert.template]
  generalize (q.rows.head?.map OrderedMap.keys).getD [] = columns
  split
  · exact (Leads.nil _).outer
  · split
    · split
      · rw [text_append]
        exact (hinto.append (leads_separator (by decide))).outer
      · rw [text_append]
        exact (hinto.append (leads_separator (by decide))).outer
    · have hopening : Leads IsOuter (text " (") IsPlain := leads_separator (by decide)
      have hcolumns : Leads IsPlain (text (", ".intercalate (columns.map st.quote))) IsOuter := by
        refine leads_intercalate (by decide) fun s hs => ?_
        obtain ⟨column, -, rfl⟩ := List.mem_map.mp hs
        exact leads_quote st column
      have hvalues : Leads IsOuter (text ") VALUES ") IsPlain := leads_separator (by decide)
      have hrows : Leads IsPlain (joined ", " (q.rows.map (Insert.rowTemplate q.table columns)))
          IsOuter := by
        refine leads_joined (by decide) fun t ht => ?_
        obtain ⟨row, -, rfl⟩ := List.mem_map.mp ht
        exact Insert.leads_rowTemplate q.table columns row
      have hhead := ((hinto.append hopening).append hcolumns).append hvalues
      simp only [← text_append] at hhead
      exact (hhead.append hrows).squeeze

theorem Update.leads_template (st : Style) {q : Update} (hjoins : q.joins.isRawFree = true)
    (hwheres : Conditions.areRawFree q.wheres.conditions = true) :
    Leads IsPlain (q.template st) IsOuter := by
  have hupdate : Leads IsPlain (text "UPDATE ") IsPlain := leads_inert (by decide)
  have hblank : Leads IsOuter (text " ") IsPlain := leads_separator (by decide)
  have hset : Leads IsOuter (text " SET ") IsPlain := leads_separator (by decide)
  have hassignments : Leads IsPlain (joined ", " (q.data.entries.map fun e =>
      Update.assignmentTemplate st q.table e.1 e.2)) IsOuter := by
    refine leads_joined (by decide) fun t ht => ?_
    obtain ⟨e, -, rfl⟩ := List.mem_map.mp ht
    have hequal : Leads IsOuter (text " = ") IsPlain := leads_separator (by decide)
    rw [Update.assignmentTemplate, text_append]
    exact ((leads_quote st e.1).append hequal).append (leads_slot q.table e.1 e.2)
  have hhead := (((hupdate.append (leads_quote st q.table)).append hblank).append
    (leads_joins st q.table hjoins)).append hset
  simp only [← text_append] at hhead
  simp only [Update.template]
  split
  · exact (Leads.nil _).outer
  · exact (((hhead.append hassignments).append hblank).append
      (WhereClause.leads_template st q.table hwheres)).squeeze

theorem Delete.leads_template (st : Style) {q : Delete} (hjoins : q.joins.isRawFree = true)
    (hwheres : Conditions.areRawFree q.wheres.conditions = true) :
    Leads IsPlain (q.template st) IsOuter := by
  have hdelete : Leads IsPlain (text "DELETE ") IsPlain := leads_inert (by decide)
  have hnamed : Leads IsPlain (text (if (q.joins.sql st q.table).isEmpty then ""
      else st.quote q.table)) IsOuter := by
    split
    · exact (Leads.nil _).outer
    · exact leads_quote st q.table
  have hfrom : Leads IsOuter (text " FROM ") IsPlain := leads_separator (by decide)
  have hblank : Leads IsOuter (text " ") IsPlain := leads_separator (by decide)
  have hhead := (((((hdelete.append hnamed).append hfrom).append (leads_quote st q.table)).append
    hblank).append (leads_joins st q.table hjoins)).append hblank
  simp only [← text_append] at hhead
  simp only [Delete.template]
  split
  · exact (Leads.nil _).outer
  · exact (hhead.append (WhereClause.leads_template st q.table hwheres)).squeeze

/-- **A statement without raw SQL** is read from its beginning to its end. -/
theorem Statement.leads_template (st : Style) {s : Statement} (h : s.isRawFree = true) :
    Leads IsPlain (s.template st) IsOuter := by
  cases s with
  | select q => exact Select.leads_template st q h
  | insert q => exact Insert.leads_template st q
  | update q =>
    obtain ⟨hjoins, hwheres⟩ := Bool.and_eq_true_iff.mp h
    exact Update.leads_template st hjoins hwheres
  | delete q =>
    obtain ⟨hjoins, hwheres⟩ := Bool.and_eq_true_iff.mp h
    exact Delete.leads_template st hjoins hwheres
  | raw q => cases h

end FluentSql
