import FluentSql.Proofs.Pipeline
import FluentSql.Proofs.RowTuples
/-!
# `FluentSql.Proofs.InsertedRows` — which rows an insertion sends

An insertion that is run is handed over in one call. The rows in that call are the tuples of its text,
each name standing for the value that is bound to it. They are the rows of the insertion, one for one,
read in the columns of the first row.

* `Insert.SendsRows` — the rows in a call;
* `Insert.execute_sends_rows` — what is handed over when an insertion is run, and when nothing is.
-/

namespace FluentSql

open FluentSql.Text Template

variable {σ α : Type}

/-- **A statement fit to be run** is handed over as its text and its binds. -/
theorem Statement.handedOver_of_fit {st : Style} {s : Statement} (hfit : s.misuse? = none)
    (hsql : (s.build st).sql.isEmpty = false) (entry : String → List Bind → RecordedCall) :
    s.handedOver st entry = [entry (s.build st).sql (Bind.ofParams (s.build st).params)] := by
  have hcheck : s.check st = .ok (s.build st) :=
    Statement.check_eq_ok_iff.mpr ⟨hfit, hsql, rfl⟩
  rw [handedOver, hcheck]

namespace Insert

/-- **The rows in a call**: a tuple for each row, in which the value of the row under a column is bound
    to the name at the place of the column, null if the row lacks the column; and no other value. -/
structure SendsRows (q : Insert) (tuples : List (List String)) (binds : List Bind) : Prop where
  rows : tuples.length = q.rows.length
  sent : ∀ (r : Nat) (row : Payload), q.rows[r]? = some row →
    ∀ (j : Nat) (column : String), q.columns[j]? = some column →
      ∃ names name, tuples[r]? = some names ∧ names[j]? = some name ∧
        ⟨name, (row.get? column).getD .null⟩ ∈ binds
  distinct : (binds.map Bind.placeholder).Nodup
  values : binds.map Bind.value = q.rows.flatMap (cells q.columns)

/-- **Rows that are bound are sent**: the binds are the new parameters, in their order. -/
theorem sendsRows (q : Insert) :
    q.SendsRows (q.tuples .empty) (Bind.ofParams (assemble .empty q.rowsTemplate).2) := by
  have h := q.bindsRows .empty
  have hentries : (assemble .empty q.rowsTemplate).2.entries =
      (q.tuples .empty).flatten.zip (q.rows.flatMap (cells q.columns)) := h.entries
  have hlengths : (q.tuples .empty).flatten.length = (q.rows.flatMap (cells q.columns)).length := by
    rw [length_flatten_tuples, length_flatMap_cells]
  constructor
  case rows => exact h.rows
  case sent =>
    intro r row hrow j column hcolumn
    obtain ⟨names, name, hnames, hname, hget⟩ := h.bound r row hrow j column hcolumn
    have hmem : name ∈ (q.tuples .empty).flatten :=
      List.mem_flatten_of_mem (List.mem_of_getElem? hnames) (List.mem_of_getElem? hname)
    rw [flatten_tuples] at hmem
    rw [Params.get?, colonName_of_mem_slotNames hmem] at hget
    refine ⟨names, name, hnames, hname, ?_⟩
    exact List.mem_map_of_mem (f := fun (e : String × Value) => (⟨e.1, e.2⟩ : Bind))
      (OrderedMap.mem_of_lookup hget)
  case distinct =>
    have hplaceholders : (Bind.ofParams (assemble .empty q.rowsTemplate).2).map Bind.placeholder =
        (q.tuples .empty).flatten := by
      rw [Bind.ofParams, List.map_map, hentries]
      exact List.map_fst_zip (Nat.le_of_eq hlengths)
    rw [hplaceholders]
    exact h.distinct
  case values =>
    rw [Bind.ofParams, List.map_map, hentries]
    exact List.map_snd_zip (Nat.le_of_eq hlengths.symm)

/-- **The text of an insertion without columns**: the database supplies the row. -/
def defaultRowSql (st : Style) (table : String) : String :=
  match st.dialect with
  | .mysql => "INSERT INTO " ++ st.quote table ++ " () VALUES ()"
  | _ => "INSERT INTO " ++ st.quote table ++ " DEFAULT VALUES"

/-- An insertion without columns binds nothing. -/
theorem assemble_template_of_no_columns (st : Style) (ps : Params) {q : Insert}
    (htable : q.table ≠ "") (hcolumns : q.columns = []) :
    assemble ps (q.template st) = ((defaultRowSql st q.table).toList, ps) := by
  have hempty : ¬ q.table.isEmpty = true := fun h => htable (String.isEmpty_iff.mp h)
  have hnone : (q.rows.head?.map OrderedMap.keys).getD [] = [] := hcolumns
  unfold template defaultRowSql
  rw [if_neg hempty, hnone]
  cases st.dialect <;> exact assemble_text ps _

theorem toList_defaultRowSql_ne_nil (st : Style) (table : String) :
    (defaultRowSql st table).toList ≠ [] := by
  unfold defaultRowSql
  cases st.dialect <;> simp [String.toList_append]

/-- **An insertion** shows nothing exactly if it has no table. -/
theorem isEmpty_template (st : Style) (q : Insert) : (q.template st).isEmpty = q.table.isEmpty := by
  by_cases htable : q.table = ""
  · unfold template
    rw [if_pos (String.isEmpty_iff.mpr htable), String.isEmpty_iff.mpr htable]
    rfl
  · rw [isEmpty_eq_isEmpty_assemble .empty,
      Bool.eq_false_iff.mpr fun h => htable (String.isEmpty_iff.mp h)]
    by_cases hcolumns : q.columns = []
    · rw [assemble_template_of_no_columns st .empty htable hcolumns]
      exact List.isEmpty_eq_false_iff.mpr (toList_defaultRowSql_ne_nil st q.table)
    · rw [assemble_template_of_columns st .empty htable hcolumns]
      simp

theorem build_eq (st : Style) (q : Insert) :
    (Statement.insert q).build st =
      ⟨String.ofList (assemble .empty (q.template st)).1, (assemble .empty (q.template st)).2⟩ := rfl

section Running

variable {e : Executor σ} {c : Connection (σ × List RecordedCall)}

/-- An accepted insertion with a text is handed over in one call. -/
theorem record_execute_of_fit (hc : c.executor = some e.recording) {q : Insert}
    (hfit : q.misuse? = none) {sql : List Char} {after : Params}
    (htext : assemble .empty (q.template c.style) = (sql, after)) (hsql : sql ≠ [])
    (session : Session (σ × List RecordedCall)) :
    (c.execute (.insert q)).record session =
      session.record ++ [.execute (String.ofList sql) (Bind.ofParams after)] := by
  have hbuilt : (Statement.insert q).build c.style = ⟨String.ofList sql, after⟩ := by
    rw [build_eq, htext]
  have hwritten : ((Statement.insert q).build c.style).sql.isEmpty = false := by
    rw [Statement.isEmpty_sql, Statement.template, isEmpty_eq_isEmpty_assemble .empty, htext]
    exact List.isEmpty_eq_false_iff.mpr hsql
  have hstatement : (Statement.insert q).misuse? = none := hfit
  rw [Connection.record_execute hc, Statement.handedOver_of_fit hstatement hwritten, hbuilt]

/-- **Without columns** one row of defaults is sent. -/
theorem record_execute_of_no_columns (hc : c.executor = some e.recording) {q : Insert}
    (htable : q.table ≠ "") (hfit : q.misuse? = none) (hcolumns : q.columns = [])
    (session : Session (σ × List RecordedCall)) :
    (c.execute (.insert q)).record session = session.record ++
      [.execute (defaultRowSql c.style q.table) []] := by
  have htext := assemble_template_of_no_columns c.style .empty htable hcolumns
  rw [record_execute_of_fit hc hfit htext (toList_defaultRowSql_ne_nil c.style q.table),
    String.ofList_toList]
  rfl

/-- **What is sent when an insertion is run.**

    An accepted insertion of rows with columns is handed over in one call, and the rows in the call are
    its rows, read in the columns of the first row: a value of a row is sent exactly if its column is one
    of these. A single row without columns is handed over as a row of defaults. Rows with columns beside
    rows without, and columns without a name, are refused; and without a table nothing is sent. -/
theorem execute_sends_rows (hc : c.executor = some e.recording) (q : Insert)
    (session : Session (σ × List RecordedCall)) :
    (q.table ≠ "" → q.misuse? = none → q.columns ≠ [] →
      ∃ tuples binds,
        (c.execute (.insert q)).record session = session.record ++
          [.execute (String.ofList (squeezeChars (q.heading c.style).toList) ++ " "
            ++ tuplesSql tuples) binds] ∧
        q.SendsRows tuples binds) ∧
    (∀ row : Payload, q.table ≠ "" → q.misuse? = none → q.rows = [row] → row.keys = [] →
      (c.execute (.insert q)).record session = session.record ++
        [.execute (defaultRowSql c.style q.table) []]) ∧
    (q.isMixed = true ∨ (∃ row ∈ q.rows, ∃ column ∈ row.keys, isBlankText column = true) →
      ∃ misuse, (Statement.insert q).validate = .error (.misuse misuse) ∧
        (c.execute (.insert q)).outcome session = (.error (.misuse misuse), session)) ∧
    (q.table = "" → q.misuse? = none →
      (c.execute (.insert q)).outcome session = (.error .emptyStatement, session)) := by
  refine ⟨?_, ?_, ?_, ?_⟩
  · intro htable hfit hcolumns
    have htext := assemble_template_of_columns c.style .empty htable hcolumns
    have hsql : String.ofList (squeezeChars (q.heading c.style).toList
        ++ ' ' :: (tuplesSql (q.tuples .empty)).toList) =
          String.ofList (squeezeChars (q.heading c.style).toList) ++ " "
            ++ tuplesSql (q.tuples .empty) := by
      apply String.toList_inj.mp
      simp [String.toList_append]
    refine ⟨q.tuples .empty, _, ?_, q.sendsRows⟩
    rw [record_execute_of_fit hc hfit htext (by simp), hsql]
  · intro row htable hfit hrows hkeys
    have hcolumns : q.columns = [] := by
      rw [columns, hrows]
      exact hkeys
    exact record_execute_of_no_columns hc htable hfit hcolumns session
  · intro hrefused
    have hmisuse : q.misuse? ≠ none := by
      intro hnone
      obtain ⟨-, hmixed, hnamed⟩ := misuse?_eq_none_iff.mp hnone
      rcases hrefused with hmixed' | ⟨row, hrow, column, hcolumn, hblank⟩
      · rw [hmixed] at hmixed'
        cases hmixed'
      · rw [hnamed row hrow column hcolumn] at hblank
        cases hblank
    obtain ⟨misuse, hmisuse⟩ := Option.ne_none_iff_exists'.mp hmisuse
    have hstatement : (Statement.insert q).misuse? = some misuse := hmisuse
    refine ⟨misuse, ?_, ?_⟩
    · rw [Statement.validate, hstatement]
    · exact Connection.outcome_perform_of_error (Connection.check_of_misuse hstatement) _ session
  · intro htable hfit
    have htemplate : q.template c.style = [] := by
      unfold template
      exact if_pos (String.isEmpty_iff.mpr htable)
    have hsql : ((Statement.insert q).build c.style).sql = "" := by
      rw [build_eq, htemplate]
      rfl
    have hstatement : (Statement.insert q).misuse? = none := hfit
    exact Connection.outcome_perform_of_error (Connection.check_of_blank hstatement hsql) _ session

end Running

/-- Two rows, the second one without an age. -/
def twoNames : Insert :=
  { table := "t"
    rows := [.ofList [("name", .text "ann"), ("age", .int 30)], .ofList [("name", .text "bob")]] }

/-- A row without columns. -/
def bareRow : Insert := { table := "t", rows := [.ofList []] }

/-- A row with a column beside one without. -/
def mixedRows : Insert := { table := "t", rows := [.ofList [("a", .int 1)], .ofList []] }

/-- Two rows for no table. -/
def homelessRows : Insert := { rows := [.ofList [("a", .int 1)], .ofList [("a", .int 2)]] }

theorem twoNames_sent :
    (twoNames.table ≠ "" ∧ twoNames.misuse? = none ∧ twoNames.columns = ["name", "age"] ∧
      ∃ tuples binds,
        (Connection.scripted.execute (.insert twoNames)).record Session.scripted =
          [.execute (String.ofList (squeezeChars (twoNames.heading Connection.scripted.style).toList)
            ++ " " ++ tuplesSql tuples) binds] ∧
        twoNames.SendsRows tuples binds) ∧
    (Connection.scripted.execute (.insert bareRow)).record Session.scripted =
      [.execute "INSERT INTO \x60t\x60 () VALUES ()" []] ∧
    ((Connection.scripted.execute (.insert mixedRows)).outcome Session.scripted).1 =
      .error (.misuse .mixedRows) ∧
    ((Connection.scripted.execute (.insert homelessRows)).outcome Session.scripted).1 =
      .error .emptyStatement := by
  have hc : Connection.scripted.executor = some (Script.executor "mysql").recording := rfl
  refine ⟨⟨by decide, rfl, rfl, ?_⟩, ?_, ?_, ?_⟩
  · exact (execute_sends_rows hc twoNames Session.scripted).1 (by decide) rfl (by decide)
  · exact (execute_sends_rows hc bareRow Session.scripted).2.1 (.ofList []) (by decide) rfl rfl rfl
  · obtain ⟨misuse, hvalidate, houtcome⟩ :=
      (execute_sends_rows hc mixedRows Session.scripted).2.2.1 (.inl (by decide))
    cases hvalidate
    rw [houtcome]
  · rw [(execute_sends_rows hc homelessRows Session.scripted).2.2.2 rfl rfl]

/-- Two rows of which only the second one has an address. -/
def lateAddress : Insert :=
  { table := "t"
    rows := [.ofList [("name", .text "ann")],
      .ofList [("name", .text "bob"), ("email", .text "b@x")]] }

/-- The address is accepted and not sent. -/
theorem lateAddress_not_sent :
    lateAddress.table ≠ "" ∧ (Statement.insert lateAddress).validate = .ok () ∧
      lateAddress.rows[1]?.bind (·.get? "email") = some (.text "b@x") ∧
      (Connection.scripted.execute (.insert lateAddress)).record Session.scripted =
        [.execute "INSERT INTO \x60t\x60 (\x60name\x60) VALUES (:t_name_0), (:t_name_1)"
          [⟨":t_name_0", .text "ann"⟩, ⟨":t_name_1", .text "bob"⟩]] := by
  refine ⟨by decide, rfl, rfl, ?_⟩
  decide +kernel

/-- **Several rows without columns** are accepted as one is, and all of them come to one row of
    defaults. -/
theorem execute_rows_without_columns {e : Executor σ} {c : Connection (σ × List RecordedCall)}
    (hc : c.executor = some e.recording) {q : Insert} (htable : q.table ≠ "")
    (hmisuse : q.misuse = none) (hrows : ∀ row ∈ q.rows, row.keys = [])
    (session : Session (σ × List RecordedCall)) :
    (Statement.insert q).validate = .ok () ∧
      (c.execute (.insert q)).record session = session.record ++
        [.execute (defaultRowSql c.style q.table) []] := by
  have hempty : ∀ row ∈ q.rows, row.isEmpty = true := by
    intro row hrow
    rw [OrderedMap.isEmpty, List.isEmpty_iff]
    exact List.map_eq_nil_iff.mp (hrows row hrow)
  have hmixed : q.isMixed = false := by
    rw [isMixed, Bool.and_eq_false_iff]
    refine .inr (List.any_eq_false.mpr fun row hrow => ?_)
    rw [hempty row hrow]
    decide
  have hfit : q.misuse? = none := by
    refine misuse?_eq_none_iff.mpr ⟨hmisuse, hmixed, fun row hrow column hcolumn => ?_⟩
    rw [hrows row hrow] at hcolumn
    cases hcolumn
  have hcolumns : q.columns = [] := by
    unfold columns
    cases h : q.rows with
    | nil => rfl
    | cons row rows => exact hrows row (h ▸ List.mem_cons_self)
  refine ⟨?_, record_execute_of_no_columns hc htable hfit hcolumns session⟩
  have hstatement : (Statement.insert q).misuse? = none := hfit
  rw [Statement.validate, hstatement]

end Insert

end FluentSql
