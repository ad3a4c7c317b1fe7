import FluentSql.Proofs.Quotations
import FluentSql.Proofs.RawFree
/-!
# `FluentSql.Proofs.QuotedClauses` — what the clauses of a statement quote

A clause quotes the segments of its names and its aliases, and its raw columns bring quotations of
their own. The quotations are read off the clause as data, in the order in which they are written, and
its text shows exactly these, whatever is in the quotes.

* `quotes_quote` — a dotted identifier shows its segments;
* `quotes_compareTemplate`, `quotes_selectListSql`, `quotes_joins` and their siblings — clause by
  clause, if raw columns close their quotes.
-/

namespace FluentSql

open FluentSql.Text Template

open Quotation.Open (IsPlain IsOuter)

/-! ## The quotations of names -/

/-- The quotation of some characters as one identifier; no characters are not quoted. -/
def Dialect.charsQuotations (d : Dialect) (cs : List Char) : List Quotation :=
  if cs = [] then [] else [⟨⟨d.quoteChar, isQuote_quoteChar d⟩, cs⟩]

namespace Style

/-- The quotation of one identifier. -/
def identQuotations (st : Style) (ident : String) : List Quotation :=
  st.dialect.charsQuotations ident.toList

/-- The quotation of an alias, if there is one. -/
def aliasQuotations (st : Style) : Option String → List Quotation
  | some called => st.identQuotations called
  | none => []

/-- **The quotations of a dotted identifier**, segment by segment; `*` is not quoted. -/
def nameQuotations (st : Style) (ident : String) : List Quotation :=
  (splitAt '.' ident.toList).flatMap fun segment =>
    if segment = ['*'] then [] else st.dialect.charsQuotations segment

/-- **The quotations of a column**; raw SQL brings its own. -/
def columnQuotations (st : Style) : Column → List Quotation
  | .name s => st.nameQuotations s
  | .raw sql => FluentSql.quotations sql.toList

end Style

/-- Whether raw SQL closes its quotes. -/
def Column.isClosed : Column → Bool
  | .name _ => true
  | .raw sql => closesQuotes sql.toList

/-! ## The quotations of clauses -/

/-- A column of a condition. -/
def conditionQuotations (st : Style) : ClauseKind → Column → List Quotation
  | .having, .name s => st.identQuotations s
  | _, column => st.columnQuotations column

/-- A column compared; among no values it is not written. -/
def compareQuotations (st : Style) (kind : ClauseKind) (column : Column) : Operand → List Quotation
  | .list [] => []
  | _ => conditionQuotations st kind column

/-- Rows of another table that refer to the row at hand. -/
def relatedQuotations (st : Style) (current table : String) (column parent : Option String) :
    List Quotation :=
  let column := st.nameQuotations (column.getD (st.foreignKey current))
  column ++ st.nameQuotations table ++ st.nameQuotations table ++ column
    ++ st.nameQuotations current ++ st.nameQuotations (parent.getD "id")

/-- A column of the select list. -/
def SelectColumn.quotations (st : Style) (c : SelectColumn) : List Quotation :=
  match c.called with
  | some called =>
    if called = c.column.text then st.columnQuotations c.column
    else st.columnQuotations c.column ++ st.identQuotations called
  | none => st.columnQuotations c.column

/-- An aggregate. -/
def AggregateClause.itemQuotations (st : Style) (called : String) (column : Column) :
    List Quotation :=
  if called = column.text then st.columnQuotations column
  else st.columnQuotations column ++ st.identQuotations called

/-- All aggregates. -/
def AggregateClause.quotations (st : Style) (clause : AggregateClause) : List Quotation :=
  (listed clause).flatMap fun (_, called, column) => itemQuotations st called column

/-- The select list and the table. -/
def selectListQuotations (st : Style) (table : String) (called : Option String)
    (columns : List SelectColumn) (aggregates : AggregateClause) : List Quotation :=
  columns.flatMap (SelectColumn.quotations st) ++ AggregateClause.quotations st aggregates
    ++ st.nameQuotations table ++ st.aliasQuotations called

/-- The predicate of a join. -/
def Join.predicateQuotations (st : Style) (table : String) (j : Join) : List Quotation :=
  match j.kind, j.predicate with
  | .cross, _ => []
  | _, some ⟨near, _, far⟩ => st.columnQuotations near ++ st.columnQuotations far
  | _, none =>
    st.nameQuotations (table ++ ".id")
      ++ st.nameQuotations (j.called.getD j.table ++ "." ++ st.foreignKey table)

/-- A join. -/
def Join.quotations (st : Style) (table : String) (j : Join) : List Quotation :=
  st.nameQuotations j.table ++ st.aliasQuotations j.called ++ j.predicateQuotations st table

/-- All joins. -/
def JoinClause.quotations (st : Style) (table : String) (clause : JoinClause) : List Quotation :=
  clause.joins.flatMap (Join.quotations st table)

/-- Whether the raw columns of joins close their quotes. -/
def JoinClause.isClosed (clause : JoinClause) : Bool :=
  clause.joins.all fun j => j.predicate.all fun p => p.near.isClosed && p.far.isClosed

/-! ## Names -/

section Clauses

variable {f : Quotation → Quotation}

theorem quotes_quoteChars (d : Dialect) (cs : List Char) :
    Quotes f IsPlain ((d.quoteChars cs).map .char) (d.charsQuotations cs) IsOuter := by
  cases cs with
  | nil => exact Quotes.nil.outer
  | cons c cs =>
    obtain ⟨hafter, hpassed⟩ := after_wrap ⟨d.quoteChar, isQuote_quoteChar d⟩ (c :: cs)
    intro ps o ho
    have hchars : (assemble ps ((d.quoteChars (c :: cs)).map .char)).1 =
        wrap d.quoteChar (c :: cs) := by
      have htext := assemble_text ps (String.ofList (wrap d.quoteChar (c :: cs)))
      rw [text, String.toList_ofList] at htext
      exact congrArg Prod.fst htext
    rw [hchars, ho, hafter, hpassed]
    exact ⟨trivial, rfl⟩

theorem quotes_quoteIdent (st : Style) (ident : String) :
    Quotes f IsPlain (text (st.quoteIdent ident)) (st.identQuotations ident) IsOuter := by
  rw [text, Style.quoteIdent, Dialect.quoteIdent, String.toList_ofList]
  exact quotes_quoteChars st.dialect ident.toList

/-- Segments between dots. -/
theorem quotes_joinWith {segments : List (List Char)} {part : List Char → List Char}
    {shown : List Char → List Quotation}
    (h : ∀ cs, Quotes f IsPlain ((part cs).map .char) (shown cs) IsOuter) :
    Quotes f IsPlain ((joinWith '.' (segments.map part)).map .char) (segments.flatMap shown)
      IsOuter := by
  have hdot : Quotes f IsOuter (text ".") [] IsPlain := quotes_separator (by decide)
  induction segments with
  | nil => exact Quotes.nil.outer
  | cons cs segments ih =>
    rw [List.map_cons, List.flatMap_cons]
    cases segments with
    | nil =>
      rw [List.flatMap_nil, List.append_nil]
      exact h cs
    | cons ds segments =>
      have hmore : (ds :: segments).map part ≠ [] := List.cons_ne_nil _ _
      rw [joinWith_cons_of_ne_nil '.' (part cs) hmore, List.map_append]
      exact (h cs).append (hdot.before ih)

/-- **A dotted identifier** shows its segments, whatever they hold. -/
theorem quotes_quote (st : Style) (ident : String) :
    Quotes f IsPlain (text (st.quote ident)) (st.nameQuotations ident) IsOuter := by
  rw [text, Style.quote, Dialect.quote, String.toList_ofList]
  refine quotes_joinWith fun segment => ?_
  unfold Dialect.quoteSegment
  by_cases hstar : segment = ['*']
  · rw [if_pos hstar, if_pos hstar, hstar]
    exact (quotes_inert (s := "*") (by decide)).outer
  · rw [if_neg hstar, if_neg hstar]
    exact quotes_quoteChars st.dialect segment

theorem quotes_quoteColumn (st : Style) {column : Column} (h : column.isClosed = true) :
    Quotes f IsPlain (text (st.quoteColumn column)) (st.columnQuotations column) IsOuter := by
  cases column with
  | name s => exact quotes_quote st s
  | raw sql => exact quotes_text h

/-- An alias behind what it stands for. -/
theorem quotes_alias (st : Style) {sql sep : String} {ls : List Quotation}
    (hsql : Quotes f IsPlain (text sql) ls IsOuter) (hsep : isSeparator sep = true)
    (called : String) :
    Quotes f IsPlain (text (sql ++ sep ++ st.quoteIdent called)) (ls ++ st.identQuotations called)
      IsOuter := by
  rw [text_append, text_append]
  exact (hsql.behind (quotes_separator hsep)).append (quotes_quoteIdent st called)

/-! ## Clauses -/

theorem quotes_conditionColumn (st : Style) (kind : ClauseKind) {column : Column}
    (h : column.isClosed = true) :
    Quotes f IsPlain (text (conditionColumn st kind column)) (conditionQuotations st kind column)
      IsOuter := by
  cases column with
  | raw sql => cases kind <;> exact quotes_text h
  | name s =>
    cases kind with
    | wheres => exact quotes_quote st s
    | having => exact quotes_quoteIdent st s

/-- An operator between blanks, after a column. -/
theorem quotes_operator (op : Operator) :
    Quotes f IsOuter (text " " ++ text op.sql ++ text " ") [] IsPlain :=
  ((quotes_separator (by decide)).before (quotes_inert (isInert_operator op))).before
    (quotes_inert (by decide))

theorem quotes_compareTemplate (st : Style) (kind : ClauseKind) (table : String) {column : Column}
    (h : column.isClosed = true) (op : Operator) (operand : Operand) :
    Quotes f IsPlain (compareTemplate st kind table column op operand)
      (compareQuotations st kind column operand) IsOuter := by
  have hcompared := (quotes_conditionColumn (f := f) st kind h).behind (quotes_operator op)
  have hslot : ∀ v, Quotes f IsPlain [.slot table column.text v] [] IsPlain :=
    fun v => (quotes_slot table column.text v).plain
  cases operand with
  | single v =>
    have hall := (hcompared.behind (hslot v)).outer
    simpa only [compareTemplate, compareQuotations, text_append, List.append_assoc] using hall
  | pair low high =>
    have hand : Quotes f IsPlain (text " AND ") [] IsPlain := quotes_inert (by decide)
    have hall := (((hcompared.behind (hslot low)).behind hand).behind (hslot high)).outer
    simpa only [compareTemplate, compareQuotations, text_append, List.append_assoc] using hall
  | list values =>
    cases values with
    | nil => exact (quotes_inert (by cases op <;> decide)).outer
    | cons v values =>
      have hopening : Quotes f IsPlain (text "(") [] IsPlain := quotes_inert (by decide)
      have hclosing : Quotes f IsOuter (text ")") [] IsPlain := quotes_separator (by decide)
      have hvalues : Quotes f IsPlain (joined ", "
          ((v :: values).map fun value => [.slot table column.text value])) [] IsOuter := by
        have hnone : (v :: values).flatMap (fun _ => ([] : List Quotation)) = [] :=
          List.flatMap_eq_nil_iff.mpr fun _ _ => rfl
        rw [← hnone]
        exact quotes_joined (by decide) fun w _ => (hslot w).outer
      have hall := (((hcompared.behind hopening).behind hvalues).behind hclosing).outer
      have hparen : (" (" : String) = " " ++ "(" := rfl
      simpa only [compareTemplate, compareQuotations, hparen, text_append, List.append_assoc] using hall
  | null =>
    have hnull : Quotes f IsPlain (text "NULL") [] IsPlain := quotes_inert (by decide)
    have hall := (hcompared.behind hnull).outer
    have hblank : (" NULL" : String) = " " ++ "NULL" := rfl
    simpa only [compareTemplate, compareQuotations, hblank, text_append, List.append_assoc] using hall

theorem quotes_relatedSql (st : Style) (current table : String) (column parent : Option String)
    (wanted : Bool) :
    Quotes f IsPlain (text (relatedSql st current table column parent wanted))
      (relatedQuotations st current table column parent) IsOuter := by
  have hkeyword : Quotes f IsPlain (text (existsKeyword wanted)) [] IsPlain := by
    cases wanted <;> exact quotes_inert (by decide)
  have hquote : ∀ ident, Quotes f IsPlain (text (st.quote ident)) (st.nameQuotations ident) IsOuter :=
    quotes_quote st
  have hdot : Quotes f IsOuter (text ".") [] IsPlain := quotes_separator (by decide)
  have hselect : Quotes f IsPlain (text " (SELECT ") [] IsPlain := quotes_inert (by decide)
  have hfrom : Quotes f IsOuter (text " FROM ") [] IsPlain := quotes_separator (by decide)
  have hwhere : Quotes f IsOuter (text " WHERE ") [] IsPlain := quotes_separator (by decide)
  have hequal : Quotes f IsOuter (text " = ") [] IsPlain := quotes_separator (by decide)
  have hclosing : Quotes f IsOuter (text ")") [] IsPlain := quotes_separator (by decide)
  simp only [relatedSql, relatedQuotations, text_append, List.append_assoc]
  refine hkeyword.before (hselect.before ((hquote _).append (hfrom.before ((hquote _).append ?_))))
  refine hwhere.before ((hquote _).append (hdot.before ((hquote _).append (hequal.before ?_))))
  exact (hquote _).append (hdot.before ((hquote _).behind hclosing.outer))

theorem quotes_selectColumn (st : Style) {c : SelectColumn} (h : c.column.isClosed = true) :
    Quotes f IsPlain (text (c.sql st)) (c.quotations st) IsOuter := by
  have hcolumn := quotes_quoteColumn (f := f) st h
  obtain ⟨column, called⟩ := c
  unfold SelectColumn.sql SelectColumn.quotations
  cases called with
  | none => exact hcolumn
  | some called =>
    dsimp only
    by_cases hown : called = column.text
    · rw [if_pos hown, if_pos hown]
      exact hcolumn
    · rw [if_neg hown, if_neg hown]
      exact quotes_alias st hcolumn (by decide) called

theorem quotes_aggregate (st : Style) (fn : AggregateFn) (called : String) {column : Column}
    (h : column.isClosed = true) :
    Quotes f IsPlain (text (AggregateClause.itemSql st fn called column))
      (AggregateClause.itemQuotations st called column) IsOuter := by
  have hname : Quotes f IsPlain (text fn.sql) [] IsPlain := by
    cases fn <;> exact quotes_inert (by decide)
  have hopening : Quotes f IsPlain (text "(") [] IsPlain := quotes_inert (by decide)
  have hclosing : Quotes f IsOuter (text ")") [] IsPlain := quotes_separator (by decide)
  have hcall : Quotes f IsPlain (text (fn.sql ++ "(" ++ st.quoteColumn column ++ ")"))
      (st.columnQuotations column) IsOuter := by
    rw [text_append, text_append, text_append]
    exact (((hname.before hopening).before (quotes_quoteColumn st h)).behind hclosing).outer
  unfold AggregateClause.itemSql AggregateClause.itemQuotations
  dsimp only
  split
  · exact hcall
  · exact quotes_alias st hcall (by decide) called

theorem quotes_aggregates (st : Style) {clause : AggregateClause}
    (h : (clause.entries.all fun (_, c) => c.isClosed) = true) :
    Quotes f IsPlain (text (AggregateClause.sql st clause)) (AggregateClause.quotations st clause)
      IsOuter := by
  rw [AggregateClause.sql, AggregateClause.items_eq]
  refine quotes_intercalate (by decide) fun e he => ?_
  have hclosed := List.all_eq_true.mp h _ (AggregateClause.mem_entries_of_mem_listed he)
  exact quotes_aggregate st e.1 e.2.1 hclosed

/-- What is selected: the columns, then the aggregates. -/
theorem quotes_selectItems (st : Style) {columns : List SelectColumn}
    (hcolumns : (columns.all fun c => c.column.isClosed) = true) {aggregates : AggregateClause}
    (haggregates : (aggregates.entries.all fun (_, c) => c.isClosed) = true) :
    let items := if (AggregateClause.sql st aggregates).isEmpty then
        columns.map (SelectColumn.sql st)
      else columns.map (SelectColumn.sql st) ++ [AggregateClause.sql st aggregates]
    Quotes f IsPlain (text (", ".intercalate items))
      (columns.flatMap (SelectColumn.quotations st) ++ AggregateClause.quotations st aggregates)
      IsOuter := by
  intro items
  have hcolumn : ∀ c ∈ columns,
      Quotes f IsPlain (text (c.sql st)) (c.quotations st) IsOuter :=
    fun c hc => quotes_selectColumn st (List.all_eq_true.mp hcolumns c hc)
  have haggregate := quotes_aggregates (f := f) st haggregates
  by_cases hempty : (AggregateClause.sql st aggregates).isEmpty = true
  · have hnone : (AggregateClause.quotations st aggregates).map f = [] :=
      haggregate.map_of_isEmpty ((isEmpty_text _).trans hempty)
    have hlist : items = columns.map (SelectColumn.sql st) := if_pos hempty
    rw [hlist]
    refine (quotes_intercalate (by decide) hcolumn).of_map_eq ?_
    rw [List.map_append, hnone, List.append_nil]
  · let parts : List (String × List Quotation) :=
      columns.map (fun c => (c.sql st, c.quotations st))
        ++ [(AggregateClause.sql st aggregates, AggregateClause.quotations st aggregates)]
    have hparts : ∀ e ∈ parts, Quotes f IsPlain (text e.1) e.2 IsOuter := by
      intro e he
      rcases List.mem_append.mp he with hmem | ha
      · obtain ⟨c, hc, rfl⟩ := List.mem_map.mp hmem
        exact hcolumn c hc
      · rw [List.mem_singleton.mp ha]
        exact haggregate
    have hlist : items = parts.map Prod.fst := by
      show (if _ then _ else _) = _
      rw [if_neg hempty, List.map_append, List.map_map]
      rfl
    have hshown : columns.flatMap (SelectColumn.quotations st)
        ++ AggregateClause.quotations st aggregates = parts.flatMap Prod.snd := by
      rw [List.flatMap_append, List.flatMap_map, List.flatMap_singleton]
    rw [hlist, hshown]
    exact quotes_intercalate (by decide) hparts

/-- **The select list and the table.** -/
theorem quotes_selectListSql (st : Style) (table : String) (called : Option String)
    {columns : List SelectColumn} (hcolumns : (columns.all fun c => c.column.isClosed) = true)
    (distinct : Bool) {aggregates : AggregateClause}
    (haggregates : (aggregates.entries.all fun (_, c) => c.isClosed) = true) :
    Quotes f IsPlain (text (selectListSql st table called columns distinct aggregates))
      (selectListQuotations st table called columns aggregates) IsOuter := by
  have hselect : Quotes f IsPlain (text "SELECT ") [] IsPlain := quotes_inert (by decide)
  have hdistinct : Quotes f IsPlain (text (if distinct then "DISTINCT " else "")) [] IsPlain := by
    cases distinct <;> exact quotes_inert (by decide)
  have hfrom : Quotes f IsOuter (text " FROM ") [] IsPlain := quotes_separator (by decide)
  have hlist : ∀ (items : List String) (ls : List Quotation),
      Quotes f IsPlain (text (", ".intercalate items)) ls IsOuter →
        Quotes f IsPlain (text (if items.isEmpty then "*" else ", ".intercalate items)) ls
          IsOuter := by
    intro items ls h
    by_cases hempty : items.isEmpty = true
    · rw [if_pos hempty]
      rw [List.isEmpty_iff.mp hempty] at h
      exact (quotes_inert (by decide)).outer.of_map_eq (h.map_of_isEmpty rfl).symm
    · rw [if_neg hempty]
      exact h
  have hitems := hlist _ _ (quotes_selectItems (f := f) st hcolumns haggregates)
  have hsql := (((hselect.before hdistinct).before hitems).behind hfrom).append
    (quotes_quote st table)
  simp only [← text_append] at hsql
  unfold selectListSql selectListQuotations
  cases called with
  | none =>
    rw [Style.aliasQuotations, List.append_nil]
    exact hsql
  | some called => exact quotes_alias st hsql (by decide) called

/-- What a join names: its table and its alias. -/
def Join.targetSql (st : Style) (j : Join) : String :=
  match j.called with
  | some called => j.kind.sql ++ " " ++ st.quote j.table ++ " " ++ st.quoteIdent called
  | none => j.kind.sql ++ " " ++ st.quote j.table

/-- What a join asks for; a cross join asks for nothing. -/
def Join.onSql (st : Style) (table : String) (j : Join) : String :=
  match j.kind, j.predicate with
  | .cross, _ => ""
  | _, some ⟨near, op, far⟩ =>
    " ON " ++ st.quoteColumn near ++ " " ++ op.sql ++ " " ++ st.quoteColumn far
  | _, none => " ON " ++ Join.defaultPredicate st table (j.called.getD j.table)

theorem Join.sql_eq (st : Style) (table : String) (j : Join) :
    j.sql st table = j.targetSql st ++ j.onSql st table := by
  obtain ⟨kind, target, called, predicate⟩ := j
  unfold Join.sql Join.targetSql Join.onSql
  cases called <;> cases kind <;> cases predicate <;>
    simp only [String.append_assoc, String.append_empty]

/-- A join is never written as nothing. -/
theorem Join.sql_ne_empty (st : Style) (table : String) (j : Join) : j.sql st table ≠ "" := by
  intro hempty
  have hkind : j.kind.sql ≠ "" := by
    cases j.kind <;> decide
  rw [Join.sql_eq, Join.targetSql] at hempty
  cases hcalled : j.called <;> simp [hcalled, hkind] at hempty

/-- **The text of joins** is empty if there are none. -/
theorem JoinClause.isEmpty_sql (st : Style) (table : String) (clause : JoinClause) :
    (clause.sql st table).isEmpty = clause.isEmpty := by
  unfold JoinClause.sql JoinClause.isEmpty
  cases clause.joins with
  | nil => rfl
  | cons j joins =>
    have hj : j.sql st table ≠ "" := Join.sql_ne_empty st table j
    cases joins with
    | nil => simpa using hj
    | cons k joins => simp [String.intercalate_cons_cons, hj]

theorem quotes_targetSql (st : Style) (j : Join) :
    Quotes f IsPlain (text (j.targetSql st))
      (st.nameQuotations j.table ++ st.aliasQuotations j.called) IsOuter := by
  have hkind : Quotes f IsPlain (text j.kind.sql) [] IsPlain := by
    cases j.kind <;> exact quotes_inert (by decide)
  have hblank : Quotes f IsPlain (text " ") [] IsPlain := quotes_inert (by decide)
  have htable : Quotes f IsPlain (text (j.kind.sql ++ " " ++ st.quote j.table))
      (st.nameQuotations j.table) IsOuter := by
    rw [text_append, text_append]
    exact (hkind.before hblank).before (quotes_quote st j.table)
  unfold Join.targetSql
  cases j.called with
  | none =>
    rw [Style.aliasQuotations, List.append_nil]
    exact htable
  | some called => exact quotes_alias st htable (by decide) called

theorem quotes_onSql (st : Style) (table : String) {j : Join}
    (h : (j.predicate.all fun p => p.near.isClosed && p.far.isClosed) = true) :
    Quotes f IsOuter (text (j.onSql st table)) (j.predicateQuotations st table) IsOuter := by
  have hon : Quotes f IsOuter (text " ON ") [] IsPlain := quotes_separator (by decide)
  have hequal : Quotes f IsOuter (text " = ") [] IsPlain := quotes_separator (by decide)
  unfold Join.onSql Join.predicateQuotations
  split
  · exact Quotes.nil
  · rename_i near op far hpredicate _
    rw [hpredicate] at h
    obtain ⟨hnear, hfar⟩ := Bool.and_eq_true_iff.mp h
    have hall := hon.before (((quotes_quoteColumn st hnear).behind (quotes_operator op)).append
      (quotes_quoteColumn st hfar))
    simpa only [text_append, List.append_assoc] using hall
  · have hall := hon.before (((quotes_quote st (table ++ ".id")).behind hequal).append
      (quotes_quote st (j.called.getD j.table ++ "." ++ st.foreignKey table)))
    simpa only [Join.defaultPredicate, text_append, List.append_assoc] using hall

/-- **A join.** -/
theorem quotes_join (st : Style) (table : String) {j : Join}
    (h : (j.predicate.all fun p => p.near.isClosed && p.far.isClosed) = true) :
    Quotes f IsPlain (text (j.sql st table)) (j.quotations st table) IsOuter := by
  rw [Join.sql_eq, text_append, Join.quotations]
  exact (quotes_targetSql st j).append (quotes_onSql st table h)

theorem quotes_joins (st : Style) (table : String) {clause : JoinClause}
    (h : clause.isClosed = true) :
    Quotes f IsPlain (text (clause.sql st table)) (clause.quotations st table) IsOuter := by
  refine quotes_intercalate (by decide) fun j hj => ?_
  exact quotes_join st table (List.all_eq_true.mp h j hj)

theorem quotes_groups (st : Style) {clause : GroupClause}
    (h : clause.columns.all Column.isClosed = true) :
    Quotes f IsPlain (text (clause.sql st)) (clause.columns.flatMap st.columnQuotations)
      IsOuter := by
  have hcolumns : Quotes f IsPlain (text (", ".intercalate (clause.columns.map st.quoteColumn)))
      (clause.columns.flatMap st.columnQuotations) IsOuter :=
    quotes_intercalate (by decide) fun c hc => quotes_quoteColumn st (List.all_eq_true.mp h c hc)
  unfold GroupClause.sql
  split
  · rename_i hnone
    rw [hnone]
    exact Quotes.nil.outer
  · rw [text_append]
    exact (quotes_inert (by decide)).before hcolumns

theorem quotes_orders (st : Style) {clause : OrderClause}
    (h : (clause.entries.all fun (c, _) => c.isClosed) = true) :
    Quotes f IsPlain (text (clause.sql st))
      (clause.entries.flatMap fun e => st.columnQuotations e.1) IsOuter := by
  have hentries : Quotes f IsPlain
      (text (", ".intercalate (clause.entries.map fun (c, d) => st.quoteColumn c ++ " " ++ d.sql)))
      (clause.entries.flatMap fun e => st.columnQuotations e.1) IsOuter := by
    refine quotes_intercalate (by decide) fun e he => ?_
    have hblank : Quotes f IsOuter (text " ") [] IsPlain := quotes_separator (by decide)
    have hdirection : Quotes f IsPlain (text e.2.sql) [] IsPlain := by
      cases e.2 <;> exact quotes_inert (by decide)
    rw [text_append, text_append]
    exact (((quotes_quoteColumn st (List.all_eq_true.mp h e he)).behind hblank).behind
      hdirection).outer
  unfold OrderClause.sql
  split
  · rename_i hnone
    rw [hnone]
    exact Quotes.nil.outer
  · rw [text_append]
    exact (quotes_inert (by decide)).before hentries

/-- A number of rows at the end of the parts of a statement. -/
theorem quotes_rowCount {keyword : String} (hk : isInert (keyword ++ " ") = true)
    (table column : String) (n : Option UInt64) {parts : List Template} {ls : List Quotation}
    (h : Quotes f IsPlain (joined " " parts) ls IsOuter) :
    Quotes f IsPlain
      (joined " " ((n.map (rowCountTemplate keyword table column)).toList ++ parts)) ls IsOuter := by
  cases n with
  | none => exact h
  | some n =>
    have hcount : Quotes f IsPlain (rowCountTemplate keyword table column n) [] IsOuter :=
      ((quotes_inert hk).before (quotes_slot table column _).plain).outer
    exact quotes_joined_cons (by decide) hcount h

end Clauses

end FluentSql
