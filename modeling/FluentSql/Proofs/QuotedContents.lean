import FluentSql.Proofs.Operands
import FluentSql.Proofs.QuotedClauses
/-!
# `FluentSql.Proofs.QuotedContents` — what a statement quotes, and what is left of it

A statement quotes its names and its aliases, and its raw fragments bring quotations of their own.
`Statement.quotations` reads all of them off the clauses, in the order in which they are written, with
the contents that they were given.

Finished text is squeezed as a whole, and its subqueries and branches were squeezed before. Squeezing
does not know of quotes, so what arrives is not the contents but the contents tidied.

* `Statement.quotes_template` — the quotations of a rendered statement, clause by clause;
* `Statement.quotations_build` — those of its text: all of them, in order, each of them tidied; so they
  are what was given exactly if no quotation holds other blanks than single spaces.
-/

namespace FluentSql

open FluentSql.Text Template

open Quotation.Open (IsPlain IsOuter)

/-! ## The quotations of statements -/

mutual

/-- The quotations of a test. -/
def Predicate.quotations (st : Style) (kind : ClauseKind) (table : String) :
    Predicate → List Quotation
  | .compare column _ operand => compareQuotations st kind column operand
  | .raw sql _ => FluentSql.quotations sql.toList
  | .related other column parent _ => relatedQuotations st table other column parent
  | .subquery query _ => Select.quotations st query
  | .group conditions => Conditions.quotations st kind table conditions

/-- The quotations of conditions. -/
def Conditions.quotations (st : Style) (kind : ClauseKind) (table : String) :
    List Condition → List Quotation
  | [] => []
  | ⟨_, predicate⟩ :: conditions =>
    Predicate.quotations st kind table predicate ++ Conditions.quotations st kind table conditions

/-- **The quotations of a SELECT statement**, from left to right; without a table it is not written. -/
def Select.quotations (st : Style) : Select → List Quotation
  | ⟨table, called, columns, _, joins, ⟨conditions, _⟩, groups, havings, orders, aggregates, unions,
      _, _, _⟩ =>
    if table.isEmpty then []
    else
      selectListQuotations st table called columns aggregates
        ++ JoinClause.quotations st table joins
        ++ Conditions.quotations st .wheres table conditions
        ++ groups.columns.flatMap st.columnQuotations
        ++ Conditions.quotations st .having table havings
        ++ orders.entries.flatMap (fun e => st.columnQuotations e.1)
        ++ Select.quotationsOfBranches st unions

/-- The quotations of union branches. -/
def Select.quotationsOfBranches (st : Style) : List UnionBranch → List Quotation
  | [] => []
  | ⟨_, query⟩ :: unions => Select.quotations st query ++ Select.quotationsOfBranches st unions

end

mutual

/-- Whether the raw SQL in a test closes its quotes. -/
def Predicate.isClosed : Predicate → Bool
  | .compare column _ _ => column.isClosed
  | .raw sql _ => closesQuotes sql.toList
  | .related _ _ _ _ => true
  | .subquery query _ => Select.isClosed query
  | .group conditions => Conditions.areClosed conditions

/-- Whether the raw SQL in conditions closes its quotes. -/
def Conditions.areClosed : List Condition → Bool
  | [] => true
  | ⟨_, predicate⟩ :: conditions =>
    Predicate.isClosed predicate && Conditions.areClosed conditions

/-- **Whether the raw SQL in a SELECT statement closes its quotes**, each fragment and each column for
    itself. -/
def Select.isClosed : Select → Bool
  | ⟨_, _, columns, _, joins, ⟨conditions, _⟩, groups, havings, orders, aggregates, unions, _, _, _⟩ =>
    (columns.all fun c => c.column.isClosed) && joins.isClosed && Conditions.areClosed conditions
      && groups.columns.all Column.isClosed && Conditions.areClosed havings
      && (orders.entries.all fun (c, _) => c.isClosed)
      && (aggregates.entries.all fun (_, c) => c.isClosed) && Select.areClosedBranches unions

/-- Whether the raw SQL in union branches closes its quotes. -/
def Select.areClosedBranches : List UnionBranch → Bool
  | [] => true
  | ⟨_, query⟩ :: unions => Select.isClosed query && Select.areClosedBranches unions

end

namespace Statement

/-- **What a statement quotes**, from left to right, with the contents that were given. A DELETE
    statement with joins names its table twice. -/
def quotations (st : Style) : Statement → List Quotation
  | .select q => q.quotations st
  | .insert q =>
    if q.table.isEmpty then []
    else st.nameQuotations q.table ++ q.columns.flatMap st.nameQuotations
  | .update q =>
    if q.table.isEmpty then []
    else
      st.nameQuotations q.table ++ q.joins.quotations st q.table
        ++ q.data.entries.flatMap (fun e => st.nameQuotations e.1)
        ++ Conditions.quotations st .wheres q.table q.wheres.conditions
  | .delete q =>
    if q.table.isEmpty then []
    else
      (if q.joins.isEmpty then [] else st.nameQuotations q.table) ++ st.nameQuotations q.table
        ++ q.joins.quotations st q.table
        ++ Conditions.quotations st .wheres q.table q.wheres.conditions
  | .raw q => FluentSql.quotations q.sql.toList

/-- **Whether the raw SQL in a statement closes its quotes.** -/
def isClosed : Statement → Bool
  | .select q => q.isClosed
  | .insert _ => true
  | .update q => q.joins.isClosed && Conditions.areClosed q.wheres.conditions
  | .delete q => q.joins.isClosed && Conditions.areClosed q.wheres.conditions
  | .raw q => closesQuotes q.sql.toList

/-- **Whether the text of a statement is squeezed.** An INSERT statement without columns and a
    statement written by hand are left as they are. -/
def isSqueezed : Statement → Bool
  | .insert q => !q.columns.isEmpty
  | .raw _ => false
  | _ => true

end Statement

/-! ## Statements -/

open Quotation (tidied)

mutual

/-- **The quotations of a test.** -/
theorem Predicate.quotes_template (st : Style) (kind : ClauseKind) (table : String) :
    ∀ predicate : Predicate, predicate.isClosed = true →
      Quotes tidied IsPlain (predicate.template st kind table) (predicate.quotations st kind table)
        IsOuter
  | .compare column op operand, h => by
    simp only [Predicate.template, Predicate.quotations]
    exact quotes_compareTemplate st kind table h op operand
  | .raw sql params, h => by
    simp only [Predicate.template, Predicate.quotations]
    exact (quotes_text h).given params
  | .related other column parent wanted, _ => by
    simp only [Predicate.template, Predicate.quotations]
    exact quotes_relatedSql st table other column parent wanted
  | .subquery query wanted, h => by
    simp only [Predicate.template, Predicate.quotations]
    exact (Select.quotes_template st query h).enclosed (by cases wanted <;> decide)
  | .group conditions, h => by
    simp only [Predicate.template, Predicate.quotations]
    have hconditions : Quotes tidied IsPlain (Conditions.templateFrom st kind table false conditions)
        (Conditions.quotations st kind table conditions) IsOuter :=
      Conditions.quotes_templateFrom st kind table false conditions h
    exact hconditions.enclosed (by decide)

/-- **The quotations of conditions**; after something that is written they begin with a separator. -/
theorem Conditions.quotes_templateFrom (st : Style) (kind : ClauseKind) (table : String)
    (started : Bool) : ∀ conditions : List Condition, Conditions.areClosed conditions = true →
      Quotes tidied (if started then IsOuter else IsPlain)
        (Conditions.templateFrom st kind table started conditions)
        (Conditions.quotations st kind table conditions) IsOuter
  | [], _ => by
    cases started with
    | true => exact Quotes.nil
    | false => exact Quotes.nil.outer
  | ⟨joiner, predicate⟩ :: conditions, h => by
    obtain ⟨hp, hc⟩ := Bool.and_eq_true_iff.mp h
    have hbody := Predicate.quotes_template st kind table predicate hp
    have hrest := fun started => Conditions.quotes_templateFrom st kind table started conditions hc
    have hjoiner : Quotes tidied IsOuter (text (joinerText joiner)) [] IsPlain := by
      rcases joiner with _ | (_ | _) <;> exact quotes_separator (by decide)
    simp only [Conditions.templateFrom, Conditions.quotations]
    by_cases hempty : (Predicate.template st kind table predicate).isEmpty = true
    · rw [if_pos hempty]
      exact (hbody.of_isEmpty hempty).append (hrest started)
    · rw [if_neg hempty]
      cases started with
      | true => exact (hjoiner.before hbody).append (hrest true)
      | false => exact hbody.append (hrest true)

/-- **The quotations of a SELECT statement.** -/
theorem Select.quotes_template (st : Style) : ∀ q : Select, q.isClosed = true →
    Quotes tidied IsPlain (q.template st) (q.quotations st) IsOuter
  | ⟨table, called, columns, distinct, joins, ⟨conditions, inConditions⟩, groups, havings, orders,
      aggregates, unions, limit, offset, inTable⟩, h => by
    simp only [Select.isClosed, Bool.and_eq_true] at h
    obtain ⟨⟨⟨⟨⟨⟨⟨hcolumns, hjoins⟩, hw⟩, hgroups⟩, hh⟩, horders⟩, haggregates⟩, hu⟩ := h
    have hwheres : Quotes tidied IsPlain (Conditions.templateFrom st .wheres table false conditions)
        (Conditions.quotations st .wheres table conditions) IsOuter :=
      Conditions.quotes_templateFrom st .wheres table false conditions hw
    have hhavings : Quotes tidied IsPlain (Conditions.templateFrom st .having table false havings)
        (Conditions.quotations st .having table havings) IsOuter :=
      Conditions.quotes_templateFrom st .having table false havings hh
    have hsep : isSeparator " " = true := by decide
    have hwhere : isInert ("WHERE" ++ " ") = true := by decide
    have hhaving : isInert ("HAVING" ++ " ") = true := by decide
    have hcounts : Quotes tidied IsPlain
        (joined " " ((limit.map (rowCountTemplate "LIMIT" table "limit")).toList
          ++ (offset.map (rowCountTemplate "OFFSET" table "offset")).toList)) [] IsOuter := by
      have hlimit : isInert ("LIMIT" ++ " ") = true := by decide
      have hkeyword : isInert ("OFFSET" ++ " ") = true := by decide
      refine quotes_rowCount hlimit table "limit" limit ?_
      have hoffset : Quotes tidied IsPlain (joined " "
          ((offset.map (rowCountTemplate "OFFSET" table "offset")).toList ++ [])) [] IsOuter :=
        quotes_rowCount hkeyword table "offset" offset Quotes.nil.outer
      rwa [List.append_nil] at hoffset
    have hbranches := Select.quotes_branchTemplates st unions hu _ _ hcounts
    simp only [Select.template, Select.quotations]
    by_cases htable : table.isEmpty = true
    · rw [if_pos htable, if_pos htable]
      exact Quotes.nil.outer
    · rw [if_neg htable, if_neg htable]
      -- part by part, from the last one to the first one
      have horders' := quotes_joined_cons hsep (quotes_orders st horders) hbranches
      have hhavings' := quotes_joined_cons hsep (hhavings.headed hhaving) horders'
      have hgroups' := quotes_joined_cons hsep (quotes_groups st hgroups) hhavings'
      have hwheres' := quotes_joined_cons hsep (hwheres.headed hwhere) hgroups'
      have hjoins' := quotes_joined_cons hsep (quotes_joins st table hjoins) hwheres'
      have hall := quotes_joined_cons hsep
        (quotes_selectListSql st table called hcolumns distinct haggregates) hjoins'
      simp only [List.append_assoc, List.append_nil, List.cons_append, List.nil_append] at hall ⊢
      exact hall.squeeze

/-- **The quotations of union branches**, before other parts. -/
theorem Select.quotes_branchTemplates (st : Style) : ∀ unions : List UnionBranch,
    Select.areClosedBranches unions = true → ∀ (parts : List Template) (ls : List Quotation),
      Quotes tidied IsPlain (joined " " parts) ls IsOuter →
        Quotes tidied IsPlain (joined " " (Select.branchTemplates st unions ++ parts))
          (Select.quotationsOfBranches st unions ++ ls) IsOuter
  | [], _ => fun _ _ hparts => hparts
  | ⟨all, query⟩ :: unions, h => by
    obtain ⟨hq, hu⟩ := Bool.and_eq_true_iff.mp h
    intro parts ls hparts
    have hbody := Select.quotes_template st query hq
    have hrest := Select.quotes_branchTemplates st unions hu parts ls hparts
    simp only [Select.branchTemplates, Select.quotationsOfBranches, List.append_assoc]
    by_cases hempty : (Select.template st query).isEmpty = true
    · rw [if_pos hempty]
      have hnone : (query.quotations st).map tidied = [] := hbody.map_of_isEmpty hempty
      refine hrest.of_map_eq ?_
      rw [List.map_append, List.map_append, List.map_append, hnone, List.nil_append]
    · rw [if_neg hempty]
      exact quotes_joined_cons (by decide) (hbody.headed (by cases all <;> decide)) hrest

end

theorem WhereClause.quotes_template (st : Style) (table : String) {clause : WhereClause}
    (h : Conditions.areClosed clause.conditions = true) :
    Quotes tidied IsPlain (clause.template st table)
      (Conditions.quotations st .wheres table clause.conditions) IsOuter := by
  have hconditions : Quotes tidied IsPlain
      (Conditions.templateFrom st .wheres table false clause.conditions)
      (Conditions.quotations st .wheres table clause.conditions) IsOuter :=
    Conditions.quotes_templateFrom st .wheres table false clause.conditions h
  exact hconditions.headed (by decide)

/-- An INSERT statement without columns names its table, and nothing in it is squeezed. -/
theorem Insert.quotes_template_of_columns_eq_nil {f : Quotation → Quotation} (st : Style)
    {q : Insert} (h : q.columns = []) :
    Quotes f IsPlain (q.template st) (Statement.quotations st (.insert q)) IsOuter := by
  have hinto : Quotes f IsPlain (text ("INSERT INTO " ++ st.quote q.table))
      (st.nameQuotations q.table) IsOuter := by
    rw [text_append]
    exact (quotes_inert (by decide)).before (quotes_quote st q.table)
  have hcolumns : (q.rows.head?.map OrderedMap.keys).getD [] = [] := h
  simp only [Insert.template, Statement.quotations, h, hcolumns, List.flatMap_nil, List.append_nil]
  split
  · exact Quotes.nil.outer
  · split
    · rw [text_append]
      exact (hinto.behind (quotes_separator (by decide))).outer
    · rw [text_append]
      exact (hinto.behind (quotes_separator (by decide))).outer

/-- A row of slots in parentheses. -/
theorem Insert.quotes_rowTemplate {f : Quotation → Quotation} (table : String)
    (columns : List String) (row : Payload) :
    Quotes f IsPlain (Insert.rowTemplate table columns row) [] IsOuter := by
  have hopening : Quotes f IsPlain (text "(") [] IsPlain := quotes_inert (by decide)
  have hclosing : Quotes f IsOuter (text ")") [] IsPlain := quotes_separator (by decide)
  have hslots : Quotes f IsPlain (joined ", " (columns.map fun column =>
      [.slot table column ((row.get? column).getD .null)])) (columns.flatMap fun _ => []) IsOuter :=
    quotes_joined (by decide) fun column _ => (quotes_slot table column _).plain.outer
  rw [List.flatMap_eq_nil_iff.mpr fun _ _ => rfl] at hslots
  exact ((hopening.before hslots).behind hclosing).outer

/-- **The quotations of an INSERT statement.** -/
theorem Insert.quotes_template (st : Style) (q : Insert) :
    Quotes tidied IsPlain (q.template st) (Statement.quotations st (.insert q)) IsOuter := by
  by_cases hcolumns : q.columns = []
  · exact Insert.quotes_template_of_columns_eq_nil st hcolumns
  · have hinto : Quotes tidied IsPlain (text ("INSERT INTO " ++ st.quote q.table ++ " ("))
        (st.nameQuotations q.table) IsPlain := by
      rw [text_append, text_append]
      exact ((quotes_inert (by decide)).before (quotes_quote st q.table)).behind
        (quotes_separator (by decide))
    have hnames : Quotes tidied IsPlain (text (", ".intercalate (q.columns.map st.quote)))
        (q.columns.flatMap st.nameQuotations) IsOuter :=
      quotes_intercalate (by decide) fun column _ => quotes_quote st column
    have hvalues : Quotes tidied IsOuter (text ") VALUES ") [] IsPlain :=
      quotes_separator (by decide)
    have hrows : Quotes tidied IsPlain (joined ", " (q.rows.map (Insert.rowTemplate q.table q.columns)))
        (q.rows.flatMap fun _ => []) IsOuter :=
      quotes_joined (by decide) fun row _ => Insert.quotes_rowTemplate q.table q.columns row
    rw [List.flatMap_eq_nil_iff.mpr fun _ _ => rfl] at hrows
    have hall := ((hinto.append hnames).behind hvalues).behind hrows
    simp only [← text_append] at hall
    simp only [Insert.template, Statement.quotations]
    by_cases htable : q.table.isEmpty = true
    · rw [if_pos htable, if_pos htable]
      exact Quotes.nil.outer
    · rw [if_neg htable, if_neg htable]
      split
      · rename_i hnone
        exact absurd hnone hcolumns
      · exact hall.squeeze

/-- **The quotations of an UPDATE statement.** -/
theorem Update.quotes_template (st : Style) {q : Update} (hjoins : q.joins.isClosed = true)
    (hwheres : Conditions.areClosed q.wheres.conditions = true) :
    Quotes tidied IsPlain (q.template st) (Statement.quotations st (.update q)) IsOuter := by
  have hupdate : Quotes tidied IsPlain (text "UPDATE ") [] IsPlain := quotes_inert (by decide)
  have hblank : Quotes tidied IsOuter (text " ") [] IsPlain := quotes_separator (by decide)
  have hset : Quotes tidied IsOuter (text " SET ") [] IsPlain := quotes_separator (by decide)
  have hassignments : Quotes tidied IsPlain (joined ", " (q.data.entries.map fun e =>
      Update.assignmentTemplate st q.table e.1 e.2))
      (q.data.entries.flatMap fun e => st.nameQuotations e.1) IsOuter := by
    refine quotes_joined (by decide) fun e _ => ?_
    have hequal : Quotes tidied IsOuter (text " = ") [] IsPlain := quotes_separator (by decide)
    rw [Update.assignmentTemplate, text_append]
    exact (((quotes_quote st e.1).behind hequal).behind (quotes_slot q.table e.1 e.2).plain).outer
  have hhead := (((hupdate.before (quotes_quote st q.table)).behind hblank).append
    (quotes_joins st q.table hjoins)).behind hset
  have hall := ((hhead.append hassignments).behind hblank).append
    (WhereClause.quotes_template st q.table hwheres)
  simp only [← text_append] at hall
  simp only [Update.template, Statement.quotations]
  by_cases htable : q.table.isEmpty = true
  · rw [if_pos htable, if_pos htable]
    exact Quotes.nil.outer
  · rw [if_neg htable, if_neg htable]
    exact hall.squeeze

/-- **The quotations of a DELETE statement.** -/
theorem Delete.quotes_template (st : Style) {q : Delete} (hjoins : q.joins.isClosed = true)
    (hwheres : Conditions.areClosed q.wheres.conditions = true) :
    Quotes tidied IsPlain (q.template st) (Statement.quotations st (.delete q)) IsOuter := by
  have hdelete : Quotes tidied IsPlain (text "DELETE ") [] IsPlain := quotes_inert (by decide)
  have hnamed : Quotes tidied IsPlain (text (if (q.joins.sql st q.table).isEmpty then ""
      else st.quote q.table)) (if q.joins.isEmpty then [] else st.nameQuotations q.table)
      IsOuter := by
    rw [JoinClause.isEmpty_sql]
    split
    · exact Quotes.nil.outer
    · exact quotes_quote st q.table
  have hfrom : Quotes tidied IsOuter (text " FROM ") [] IsPlain := quotes_separator (by decide)
  have hblank : Quotes tidied IsOuter (text " ") [] IsPlain := quotes_separator (by decide)
  have hhead := (((((hdelete.before hnamed).behind hfrom).append (quotes_quote st q.table)).behind
    hblank).append (quotes_joins st q.table hjoins)).behind hblank
  have hall := hhead.append (WhereClause.quotes_template st q.table hwheres)
  simp only [← text_append] at hall
  simp only [Delete.template, Statement.quotations]
  by_cases htable : q.table.isEmpty = true
  · rw [if_pos htable, if_pos htable]
    exact Quotes.nil.outer
  · rw [if_neg htable, if_neg htable]
    exact hall.squeeze

/-- **The quotations of a statement**, up to tidying. -/
theorem Statement.quotes_template (st : Style) {s : Statement} (h : s.isClosed = true) :
    Quotes tidied IsPlain (s.template st) (s.quotations st) IsOuter := by
  cases s with
  | select q => exact Select.quotes_template st q h
  | insert q => exact Insert.quotes_template st q
  | update q =>
    obtain ⟨hjoins, hwheres⟩ := Bool.and_eq_true_iff.mp h
    exact Update.quotes_template st hjoins hwheres
  | delete q =>
    obtain ⟨hjoins, hwheres⟩ := Bool.and_eq_true_iff.mp h
    exact Delete.quotes_template st hjoins hwheres
  | raw q => exact (quotes_text h).given q.params

/-- The quotations of a template that is left as it is. -/
theorem Statement.quotes_template_of_not_isSqueezed {f : Quotation → Quotation} (st : Style)
    {s : Statement} (h : s.isClosed = true) (hs : s.isSqueezed = false) :
    Quotes f IsPlain (s.template st) (s.quotations st) IsOuter := by
  cases s with
  | insert q =>
    refine Insert.quotes_template_of_columns_eq_nil st ?_
    simpa [Statement.isSqueezed] using hs
  | raw q => exact (quotes_text h).given q.params
  | select q => cases hs
  | update q => cases hs
  | delete q => cases hs

/-- The template of a squeezed statement was squeezed. -/
theorem Statement.exists_squeeze (st : Style) {s : Statement} (h : s.isSqueezed = true) :
    ∃ t : Template, s.template st = t.squeeze := by
  cases s with
  | select q =>
    obtain ⟨table, called, columns, distinct, joins, ⟨conditions, inConditions⟩, groups, havings,
      orders, aggregates, unions, limit, offset, inTable⟩ := q
    simp only [Statement.template, Select.template]
    split
    · exact ⟨[], rfl⟩
    · exact ⟨_, rfl⟩
  | insert q =>
    have hcolumns : (q.rows.head?.map OrderedMap.keys).getD [] ≠ [] := by
      simpa [Statement.isSqueezed, Insert.columns] using h
    simp only [Statement.template, Insert.template]
    split
    · exact ⟨[], rfl⟩
    · exact ⟨_, rfl⟩
  | update q =>
    simp only [Statement.template, Update.template]
    split
    · exact ⟨[], rfl⟩
    · exact ⟨_, rfl⟩
  | delete q =>
    simp only [Statement.template, Delete.template]
    split
    · exact ⟨[], rfl⟩
    · exact ⟨_, rfl⟩
  | raw q => cases h

/-- The text of a statement closes its quotes if every raw fragment does. -/
theorem Statement.closesQuotes_build (st : Style) {s : Statement} (h : s.isClosed = true) :
    closesQuotes (s.build st).sql.toList = true := by
  have houter := (Statement.quotes_template st h .empty .nothing rfl).1
  have hsql : (s.build st).sql.toList = (assemble .empty (s.template st)).1 := String.toList_ofList
  rw [hsql]
  unfold closesQuotes
  split
  · rename_i hopen
    rw [hopen] at houter
    exact houter.elim
  · rfl

/-- **The quotations of the text of a statement** are those of its clauses, tidied if it is squeezed. -/
theorem Statement.quotations_sql (st : Style) {s : Statement} (h : s.isClosed = true) :
    FluentSql.quotations (s.build st).sql.toList =
      if s.isSqueezed then (s.quotations st).map tidied else s.quotations st := by
  have hsql : (s.build st).sql.toList = (assemble .empty (s.template st)).1 := String.toList_ofList
  rw [hsql]
  by_cases hs : s.isSqueezed = true
  · -- squeezed text is tidy already, so what holds up to tidying holds
    obtain ⟨t, ht⟩ := Statement.exists_squeeze st hs
    have htidy : FluentSql.quotations (assemble .empty (s.template st)).1 =
        (FluentSql.quotations (assemble .empty (s.template st)).1).map tidied := by
      rw [ht, assemble_squeeze, quotations_squeezeChars, Quotation.map_tidied_tidied]
    rw [if_pos hs, htidy]
    exact (Statement.quotes_template st h .empty .nothing rfl).2
  · have hid := (Statement.quotes_template_of_not_isSqueezed (f := id) st h
      (Bool.eq_false_iff.mpr hs) .empty .nothing rfl).2
    rw [List.map_id, List.map_id] at hid
    rw [if_neg hs]
    exact hid

/-- **What is left of the quotations of a statement.** If every raw fragment closes its quotes, the
    text of the statement closes its quotes too, and its quotations are those of the names, aliases and
    raw fragments, in the order in which they are written: each of them tidied, if the text is
    squeezed, and else each as it was given. So all contents arrive unchanged exactly if the text is
    not squeezed or every blank in them is a single space. -/
theorem Statement.quotations_build (st : Style) (s : Statement) (h : s.isClosed = true) :
    closesQuotes (s.build st).sql.toList = true ∧
      FluentSql.quotations (s.build st).sql.toList =
        (if s.isSqueezed then (s.quotations st).map tidied else s.quotations st) ∧
      (FluentSql.quotations (s.build st).sql.toList = s.quotations st ↔
        (s.isSqueezed = true → ∀ r ∈ s.quotations st, Quotation.AreSingleSpaces r.contents)) := by
  refine ⟨Statement.closesQuotes_build st h, Statement.quotations_sql st h, ?_⟩
  rw [Statement.quotations_sql st h]
  by_cases hs : s.isSqueezed = true
  · have hfixed : (s.quotations st).map tidied = s.quotations st ↔
        ∀ r ∈ s.quotations st, tidied r = id r := by
      rw [← List.map_inj_left, List.map_id]
    rw [if_pos hs, hfixed]
    constructor
    · intro heach _ r hr
      exact (Quotation.tidied_eq_self_iff r).mp (heach r hr)
    · intro hsingle r hr
      exact (Quotation.tidied_eq_self_iff r).mpr (hsingle hs r hr)
  · rw [if_neg hs]
    exact ⟨fun _ hsqueezed => absurd hsqueezed hs, fun _ => rfl⟩

/-- Literals and identifiers with blanks that are single spaces, and with quotes, in a subquery too. -/
def Statement.oddQuotations : Statement :=
  .select (Select.ofSteps [
    .target "odd table",
    .columns [⟨.raw "COALESCE(a, 'it''s \"a b\"')", some "first \x60x\x60"⟩],
    .filter (.raw .and "b   <>  ' '" []),
    .filter (.subquery [.target "main.other", .filter (.raw .and "c = ''" [])] true)])

theorem Statement.oddQuotations_kept :
    oddQuotations.isClosed = true ∧
      FluentSql.quotations (oddQuotations.build { dialect := .sqlite }).sql.toList =
        oddQuotations.quotations { dialect := .sqlite } ∧
      (oddQuotations.quotations { dialect := .sqlite }).map (fun r => String.ofList r.contents) =
        ["it's \"a b\"", "first \x60x\x60", "odd table", " ", "main", "other", ""] := by
  have hclosed : oddQuotations.isClosed = true := by decide
  have htext := (Statement.quotations_build { dialect := .sqlite } oddQuotations hclosed).2.1
  refine ⟨hclosed, ?_, ?_⟩
  · rw [htext]
    decide
  · decide

/-- A test with two blanks in a literal. -/
def Statement.twoBlanks : Statement :=
  .select (Select.ofSteps [.target "users", .filter (.raw .and "name = 'a  b'" [])])

/-- **A literal that is changed**: it is compared with two blanks and arrives with one. And two tables
    with different names are read from by the same text. -/
theorem Statement.twoBlanks_changed :
    (twoBlanks.build { dialect := .sqlite }).sql = "SELECT * FROM \x60users\x60 WHERE name = 'a b'" ∧
      (twoBlanks.quotations { dialect := .sqlite }).map Quotation.contents =
        ["users".toList, "a  b".toList] ∧
      (FluentSql.quotations (twoBlanks.build { dialect := .sqlite }).sql.toList).map
          Quotation.contents = ["users".toList, "a b".toList] ∧
      ((Statement.select (Select.ofSteps [.target "a  b"])).build { dialect := .sqlite }).sql =
        ((Statement.select (Select.ofSteps [.target "a b"])).build { dialect := .sqlite }).sql := by
  decide +kernel

end FluentSql
