import FluentSql.Proofs.Bindings
import FluentSql.Proofs.Operands
import FluentSql.Proofs.OrderedMaps
import FluentSql.Proofs.SingleSpaces
/-!
# `FluentSql.Proofs.RowTuples` — the rows of an insertion as tuples of placeholders

An insertion with columns lists them once, in the order of its first row, and writes one tuple of
placeholders for each row. `Insert.tuples` are the names in these tuples. They come out of one pass
over the rows, in which every row begins with the parameters that the rows before it leave.

* `assemble_fst_joined`, `flatten_namesEach` — templates assembled one after the other;
* `Insert.BindsRows` — what the placeholders of an insertion are;
* `Insert.compiles_to_tuples` — every insertion with columns compiles to them and binds its rows,
  whatever parameters there are already.
-/

namespace FluentSql

open FluentSql.Text Template

open Quotation (AreSingleSpaces areSingleSpaces_nil areSingleSpaces_cons)

/-! ## Templates one after the other -/

namespace Template

/-- **The names of two parts**: the second one goes on with the parameters that the first one leaves. -/
theorem slotNames_append (ps : Params) (s t : Template) :
    slotNames ps (s ++ t) = slotNames ps s ++ slotNames (assemble ps s).2 t := by
  induction s generalizing ps with
  | nil => rfl
  | cons a s ih =>
    rw [List.cons_append, assemble_cons]
    cases a with
    | char c => exact ih ps
    | slot table column v => exact congrArg (_ :: ·) (ih (ps.bind table column v).2)
    | given params => exact ih (ps.merge params)

theorem slotNames_text (ps : Params) (s : String) : slotNames ps (text s) = [] := by
  apply List.eq_nil_of_length_eq_zero
  rw [length_slotNames, slots_text]
  rfl

/-- The texts of some templates, assembled one after the other. -/
def writtenEach (ps : Params) : List Template → List String
  | [] => []
  | t :: ts => String.ofList (assemble ps t).1 :: writtenEach (assemble ps t).2 ts

/-- The names of the slots of each. -/
def namesEach (ps : Params) : List Template → List (List String)
  | [] => []
  | t :: ts => slotNames ps t :: namesEach (assemble ps t).2 ts

/-- **Joined templates** are written one after the other. -/
theorem assemble_fst_joined (ps : Params) (sep : String) (ts : List Template) :
    (assemble ps (joined sep ts)).1 = (sep.intercalate (writtenEach ps ts)).toList := by
  induction ts generalizing ps with
  | nil => rfl
  | cons t ts ih =>
    cases ts with
    | nil => simp [joined, writtenEach]
    | cons u us =>
      have hrest := ih (assemble ps t).2
      simp only [writtenEach] at hrest
      simp only [joined, writtenEach, assemble_append, assemble_text, hrest,
        String.intercalate_cons_cons, String.toList_append, String.toList_ofList]

/-- **The names of joined templates** are the names of each. -/
theorem flatten_namesEach (ps : Params) (sep : String) (ts : List Template) :
    (namesEach ps ts).flatten = slotNames ps (joined sep ts) := by
  induction ts generalizing ps with
  | nil => rfl
  | cons t ts ih =>
    cases ts with
    | nil => simp [joined, namesEach]
    | cons u us =>
      have hjoined : joined sep (t :: u :: us) = t ++ text sep ++ joined sep (u :: us) := rfl
      rw [hjoined, slotNames_append, slotNames_append, slotNames_text, List.append_nil,
        assemble_append, assemble_text, ← ih]
      rfl

theorem length_namesEach (ps : Params) (ts : List Template) :
    (namesEach ps ts).length = ts.length := by
  induction ts generalizing ps with
  | nil => rfl
  | cons t ts ih => exact congrArg (· + 1) (ih (assemble ps t).2)

/-- Each template has as many names as slots. -/
theorem map_length_namesEach (ps : Params) (ts : List Template) :
    (namesEach ps ts).map List.length = ts.map fun t => (slots t).length := by
  induction ts generalizing ps with
  | nil => rfl
  | cons t ts ih =>
    rw [namesEach, List.map_cons, List.map_cons, length_slotNames, ih]

/-- The text of a slot is its name. -/
theorem writtenEach_slots (ps : Params) (slots : List Slot) :
    writtenEach ps (slots.map fun s => [.slot s.table s.column s.value]) =
      (namesEach ps (slots.map fun s => [.slot s.table s.column s.value])).flatten := by
  induction slots generalizing ps with
  | nil => rfl
  | cons s slots ih =>
    rw [List.map_cons, writtenEach, namesEach, List.flatten_cons, ih]
    simp [assemble_cons, slotNames]

/-- The names of slots are generated ones. -/
theorem exists_placeholderName_of_mem_slotNames {ps : Params} {t : Template} {name : String}
    (h : name ∈ slotNames ps t) : ∃ table column n, name = Params.placeholderName table column n := by
  induction t generalizing ps with
  | nil => cases h
  | cons a t ih =>
    cases a with
    | char c => exact ih h
    | slot table column v =>
      rcases List.mem_cons.mp h with rfl | h
      · exact ⟨table, column, ps.freshSuffix table column, rfl⟩
      · exact ih h
    | given params => exact ih h

/-- A generated name is one word. -/
theorem isWord_of_mem_slotNames {ps : Params} {t : Template} {name : String}
    (h : name ∈ slotNames ps t) :
    (name.toList.all fun c => !isBlank c) = true ∧ name.toList ≠ [] := by
  obtain ⟨table, column, n, rfl⟩ := exists_placeholderName_of_mem_slotNames h
  refine ⟨List.all_eq_true.mpr fun c hc => ?_, toList_placeholderName_ne_nil table column n⟩
  have hsolid : charLook c = .solid := charLook_of_mem_placeholderName hc
  unfold charLook at hsolid
  cases hblank : isBlank c with
  | true =>
    rw [hblank] at hsolid
    cases hsolid
  | false => rfl

theorem colonName_of_mem_slotNames {ps : Params} {t : Template} {name : String}
    (h : name ∈ slotNames ps t) : Params.colonName name = name := by
  obtain ⟨table, column, n, rfl⟩ := exists_placeholderName_of_mem_slotNames h
  exact Params.colonName_of_cons (Params.toList_placeholderName table column n)

end Template

/-! ## Rows of names and rows of values -/

/-- Pairs of two rows are pairs of the whole, where the rows are as long as each other. -/
theorem mem_zip_flatten {α β : Type} {as : List (List α)} {bs : List (List β)}
    (h : as.map List.length = bs.map List.length) {r : Nat} {a : List α} {b : List β}
    (ha : as[r]? = some a) (hb : bs[r]? = some b) {pair : α × β} (hpair : pair ∈ a.zip b) :
    pair ∈ as.flatten.zip bs.flatten := by
  induction as generalizing bs r with
  | nil => cases ha
  | cons first as ih =>
    cases bs with
    | nil => cases hb
    | cons first' bs =>
      obtain ⟨hfirst, hrest⟩ := List.cons.inj h
      rw [List.flatten_cons, List.flatten_cons, List.zip_append hfirst, List.mem_append]
      cases r with
      | zero =>
        cases ha
        cases hb
        exact .inl hpair
      | succ r => exact .inr (ih hrest ha hb)

/-! ## Tuples -/

/-- **A tuple** of placeholders. -/
def tupleSql (names : List String) : String := "(" ++ ", ".intercalate names ++ ")"

/-- **Tuples** with commas between them. -/
def tuplesSql (tuples : List (List String)) : String := ", ".intercalate (tuples.map tupleSql)

theorem isTight_tupleSql (names : List String) : IsTight (tupleSql names).toList := by
  have hopen : IsTight "(".toList := isTight_of_all (by decide) (by decide)
  have hclose : IsTight ")".toList := isTight_of_all (by decide) (by decide)
  rw [tupleSql, String.toList_append, String.toList_append]
  exact hopen.between _ hclose

/-- **Tuples of words are settled.** -/
theorem isSettled_tuplesSql {tuples : List (List String)} (hne : tuples ≠ [])
    (hwords : ∀ name ∈ tuples.flatten,
      (name.toList.all fun c => !isBlank c) = true ∧ name.toList ≠ []) :
    IsSettled charLook ' ' (tuplesSql tuples).toList := by
  have htight : ∀ s ∈ tuples.map tupleSql, IsTight s.toList := by
    intro s hs
    obtain ⟨names, -, rfl⟩ := List.mem_map.mp hs
    exact isTight_tupleSql names
  have hnonempty : tuples.map tupleSql ≠ [] := fun h => hne (List.map_eq_nil_iff.mp h)
  refine (isTight_intercalate htight hnonempty).isSettled ?_
  apply (areSingleSpaces_intercalate htight).mpr
  intro s hs
  obtain ⟨names, hnames, rfl⟩ := List.mem_map.mp hs
  have hword : ∀ name ∈ names, (name.toList.all fun c => !isBlank c) = true ∧ name.toList ≠ [] :=
    fun name hname => hwords name (List.mem_flatten_of_mem hnames hname)
  -- the parentheses are solid, so the blanks of a tuple are those between its names
  rw [tupleSql, String.toList_append, String.toList_append,
    areSingleSpaces_append (.inr (by simp; decide)), areSingleSpaces_append (.inl (by simp; decide))]
  refine ⟨⟨areSingleSpaces_of_all (by decide), ?_⟩, areSingleSpaces_of_all (by decide)⟩
  apply (areSingleSpaces_intercalate fun name hname =>
    isTight_of_all (hword name hname).1 (hword name hname).2).mpr
  intro name hname
  exact areSingleSpaces_of_all (hword name hname).1

namespace Insert

/-! ## The rows of an insertion -/

/-- The values of a row under some columns, null under a column that it lacks. -/
def cells (columns : List String) (row : Payload) : List Value :=
  columns.map fun column => (row.get? column).getD .null

theorem values_rowOperands (table : String) (columns : List String) (row : Payload) :
    (rowOperands table columns row).map Slot.value = cells columns row := by
  rw [rowOperands, cells, List.map_map]
  rfl

/-- **The names of the placeholders** of an insertion, tuple by tuple. -/
def tuples (q : Insert) (ps : Params) : List (List String) :=
  namesEach ps (q.rows.map (rowTemplate q.table q.columns))

/-- **What stands before the tuples**: the table, and the columns of the first row. -/
def heading (st : Style) (q : Insert) : String :=
  "INSERT INTO " ++ st.quote q.table ++ " (" ++ ", ".intercalate (q.columns.map st.quote)
    ++ ") VALUES"

/-- The template of a row is a tuple of its operands. -/
theorem rowTemplate_eq (table : String) (columns : List String) (row : Payload) :
    rowTemplate table columns row =
      text "(" ++ joined ", " ((rowOperands table columns row).map
        fun s => [.slot s.table s.column s.value]) ++ text ")" := by
  rw [rowTemplate, rowOperands, List.map_map]
  rfl

/-- **A row** is written as the tuple of its names. -/
theorem assemble_fst_rowTemplate (ps : Params) (table : String) (columns : List String)
    (row : Payload) :
    (assemble ps (rowTemplate table columns row)).1 =
      (tupleSql (slotNames ps (rowTemplate table columns row))).toList := by
  have hnames : slotNames ps (rowTemplate table columns row) =
      writtenEach ps ((rowOperands table columns row).map
        fun s => [.slot s.table s.column s.value]) := by
    rw [rowTemplate_eq, slotNames_append, slotNames_append, slotNames_text, slotNames_text,
      assemble_text, List.nil_append, List.append_nil, writtenEach_slots, flatten_namesEach]
  rw [hnames, rowTemplate_eq, assemble_append, assemble_append, assemble_text, assemble_text,
    assemble_fst_joined, tupleSql, String.toList_append, String.toList_append]

/-- **The rows** are written as the tuples of their names. -/
theorem writtenEach_rows (ps : Params) (table : String) (columns : List String)
    (rows : List Payload) :
    writtenEach ps (rows.map (rowTemplate table columns)) =
      (namesEach ps (rows.map (rowTemplate table columns))).map tupleSql := by
  induction rows generalizing ps with
  | nil => rfl
  | cons row rows ih =>
    rw [List.map_cons, writtenEach, namesEach, List.map_cons, ih, assemble_fst_rowTemplate,
      String.ofList_toList]

/-- **What the placeholders of an insertion are**: one tuple for each row and one name for each column,
    all of them new and no two alike, bound to the values of the rows in the order of the columns. -/
structure BindsRows (q : Insert) (before after : Params) (tuples : List (List String)) : Prop where
  rows : tuples.length = q.rows.length
  columns : ∀ names ∈ tuples, names.length = q.columns.length
  distinct : tuples.flatten.Nodup
  fresh : ∀ name ∈ tuples.flatten, name ∉ before.names
  /-- The parameters before stay; those of the rows follow, row after row. -/
  entries : after.entries =
    before.entries ++ tuples.flatten.zip (q.rows.flatMap (cells q.columns))
  size : after.size = before.size + q.rows.length * q.columns.length
  /-- The name in a tuple, at the place of a column, stands for the value of that row there. -/
  bound : ∀ (r : Nat) (row : Payload), q.rows[r]? = some row →
    ∀ (j : Nat) (column : String), q.columns[j]? = some column →
      ∃ names name, tuples[r]? = some names ∧ names[j]? = some name ∧
        after.get? name = some ((row.get? column).getD .null)

/-- An insertion with columns is its heading and its tuples, squeezed together. -/
theorem template_of_columns (st : Style) {q : Insert} (htable : q.table ≠ "")
    (hcolumns : q.columns ≠ []) :
    q.template st = squeeze (text (q.heading st ++ " ")
      ++ joined ", " (q.rows.map (rowTemplate q.table q.columns))) := by
  have hempty : ¬ q.table.isEmpty = true := fun h => htable (String.isEmpty_iff.mp h)
  unfold template
  rw [if_neg hempty]
  split
  · rename_i hnone
    exact absurd hnone hcolumns
  · have hheading : q.heading st ++ " " = "INSERT INTO " ++ st.quote q.table ++ " ("
        ++ ", ".intercalate (q.columns.map st.quote) ++ ") VALUES " := by
      rw [heading, String.append_assoc]
      rfl
    rw [hheading]
    rfl

theorem isTight_heading (st : Style) (q : Insert) : IsTight (q.heading st).toList := by
  have hinsert : IsTight "INSERT".toList := isTight_of_all (by decide) (by decide)
  have hvalues : IsTight "VALUES".toList := isTight_of_all (by decide) (by decide)
  have h := hinsert.between (" INTO " ++ st.quote q.table ++ " ("
    ++ ", ".intercalate (q.columns.map st.quote) ++ ") ").toList hvalues
  simpa [heading, String.toList_append] using h

/-- **The blanks of the heading** are those of the names in it. -/
theorem areSingleSpaces_heading (st : Style) {q : Insert} (htable : q.table ≠ "")
    (hcolumns : ∀ column ∈ q.columns, column ≠ "") :
    AreSingleSpaces (q.heading st).toList ↔
      ∀ name ∈ q.table :: q.columns, AreSingleSpaces name.toList := by
  have htight : IsTight (st.quote q.table).toList := st.dialect.isTight_quote htable
  have hitems : ∀ s ∈ q.columns.map st.quote, IsTight s.toList := by
    intro s hs
    obtain ⟨column, hcolumn, rfl⟩ := List.mem_map.mp hs
    exact st.dialect.isTight_quote (hcolumns column hcolumn)
  have hopening : AreSingleSpaces "INSERT INTO ".toList := areSingleSpaces_of_collapse (by decide)
  have hlist : AreSingleSpaces " (".toList := areSingleSpaces_of_collapse (by decide)
  have hclosing : AreSingleSpaces ") VALUES".toList := areSingleSpaces_of_collapse (by decide)
  have hnames : (∀ s ∈ q.columns.map st.quote, AreSingleSpaces s.toList) ↔
      ∀ column ∈ q.columns, AreSingleSpaces column.toList := by
    rw [List.forall_mem_map]
    exact forall₂_congr fun column _ => st.dialect.areSingleSpaces_quote column
  have hbefore : ∃ c, " (".toList.getLast? = some c ∧ isBlank c = false := ⟨'(', rfl, by decide⟩
  have hbehind : ∀ c, ") VALUES".toList.head? = some c → isBlank c = false := by
    intro c hc
    cases hc
    decide
  -- no blank of the words around a name stands next to a blank of the name
  rw [heading, String.toList_append, String.toList_append, String.toList_append,
    String.toList_append,
    areSingleSpaces_append (.inr hbehind),
    areSingleSpaces_append (.inl (isBlank_of_getLast?_append hbefore)),
    areSingleSpaces_append (.inl (isBlank_of_getLast?_append htight.last)),
    areSingleSpaces_append (.inr fun c hc => htight.isBlank_of_head? hc),
    areSingleSpaces_intercalate hitems, hnames, List.forall_mem_cons (a := q.table)]
  have hquote : AreSingleSpaces (st.quote q.table).toList ↔ AreSingleSpaces q.table.toList :=
    st.dialect.areSingleSpaces_quote q.table
  rw [hquote]
  exact ⟨fun h => ⟨h.1.1.1.2, h.1.2⟩, fun h => ⟨⟨⟨⟨hopening, h.1⟩, hlist⟩, h.2⟩, hclosing⟩⟩

/-! ## Every insertion binds its rows -/

section

variable (q : Insert) (ps : Params)

/-- The rows as one template. -/
def rowsTemplate : Template := joined ", " (q.rows.map (rowTemplate q.table q.columns))

theorem flatten_tuples : (q.tuples ps).flatten = slotNames ps q.rowsTemplate :=
  flatten_namesEach ps ", " _

theorem isBare_rowTemplate (table : String) (columns : List String) (row : Payload) :
    IsBare (rowTemplate table columns row) := by
  refine ((isBare_text _).append (isBare_joined fun t ht => ?_)).append (isBare_text _)
  obtain ⟨column, -, rfl⟩ := List.mem_map.mp ht
  exact isBare_slot

theorem isBare_rowsTemplate : IsBare q.rowsTemplate := by
  refine isBare_joined fun t ht => ?_
  obtain ⟨row, -, rfl⟩ := List.mem_map.mp ht
  exact isBare_rowTemplate q.table q.columns row

/-- The values of the slots are the values of the rows, row after row. -/
theorem map_value_slots_rowsTemplate :
    (slots q.rowsTemplate).map Slot.value = q.rows.flatMap (cells q.columns) := by
  rw [rowsTemplate, slots_joined, List.flatMap_map, List.map_flatMap]
  simp only [slots_rowTemplate, values_rowOperands]

theorem length_cells (columns : List String) (row : Payload) :
    (cells columns row).length = columns.length :=
  List.length_map _

/-- Each tuple is as long as the values of its row. -/
theorem map_length_tuples :
    (q.tuples ps).map List.length = (q.rows.map (cells q.columns)).map List.length := by
  rw [tuples, map_length_namesEach, List.map_map, List.map_map]
  refine List.map_congr_left fun row _ => ?_
  show (slots (rowTemplate q.table q.columns row)).length = (cells q.columns row).length
  rw [slots_rowTemplate, rowOperands, List.length_map, length_cells]

theorem length_flatMap_cells :
    (q.rows.flatMap (cells q.columns)).length = q.rows.length * q.columns.length := by
  rw [List.length_flatMap]
  simp only [length_cells, List.map_const', List.sum_replicate_nat]

/-- The parameters of the rows as a template: new names with the values, row after row. -/
theorem entries_rowsTemplate :
    (assemble ps q.rowsTemplate).2.entries =
      ps.entries ++ (q.tuples ps).flatten.zip (q.rows.flatMap (cells q.columns)) := by
  rw [entries_assemble ps q.isBare_rowsTemplate, flatten_tuples, map_value_slots_rowsTemplate]

theorem length_flatten_tuples :
    (q.tuples ps).flatten.length = q.rows.length * q.columns.length := by
  rw [flatten_tuples, length_slotNames, ← length_flatMap_cells, ← map_value_slots_rowsTemplate,
    List.length_map]

/-- **The rows are bound**, whatever parameters there are already. -/
theorem bindsRows : q.BindsRows ps (assemble ps q.rowsTemplate).2 (q.tuples ps) := by
  obtain ⟨hnodup, hfresh⟩ := slotNames_fresh ps q.rowsTemplate
  rw [← flatten_tuples] at hnodup hfresh
  have hentries := q.entries_rowsTemplate ps
  have hlengths : (q.tuples ps).flatten.length = (q.rows.flatMap (cells q.columns)).length := by
    rw [length_flatten_tuples, length_flatMap_cells]
  constructor
  case rows => rw [tuples, length_namesEach, List.length_map]
  case columns =>
    intro names hnames
    have hlength : names.length ∈ (q.tuples ps).map List.length := List.mem_map_of_mem hnames
    rw [map_length_tuples, List.map_map, List.mem_map] at hlength
    obtain ⟨row, -, hrow⟩ := hlength
    rw [← hrow]
    exact length_cells q.columns row
  case distinct => exact hnodup
  case fresh => exact hfresh
  case entries => exact hentries
  case size =>
    show (assemble ps q.rowsTemplate).2.entries.length = _
    rw [hentries, List.length_append, List.length_zip, ← hlengths, Nat.min_self,
      length_flatten_tuples]
    rfl
  case bound =>
    intro r row hrow j column hcolumn
    have hvalues : (q.rows.map (cells q.columns))[r]? = some (cells q.columns row) := by
      rw [List.getElem?_map, hrow]
      rfl
    have hvalue : (cells q.columns row)[j]? = some ((row.get? column).getD .null) := by
      rw [cells, List.getElem?_map, hcolumn]
      rfl
    obtain ⟨names, hnames, hlength⟩ : ∃ names, (q.tuples ps)[r]? = some names ∧
        names.length = (cells q.columns row).length := by
      have hlengths := congrArg (·[r]?) (q.map_length_tuples ps)
      simp only [List.getElem?_map (f := List.length), hvalues] at hlengths
      obtain ⟨names, hnames, hlength⟩ := Option.map_eq_some_iff.mp hlengths
      exact ⟨names, hnames, hlength⟩
    have hj : j < names.length := by
      rw [hlength]
      exact (List.getElem?_eq_some_iff.mp hvalue).1
    refine ⟨names, names[j], hnames, List.getElem?_eq_getElem hj, ?_⟩
    have hpair : (names[j], (row.get? column).getD .null) ∈ names.zip (cells q.columns row) :=
      List.mem_of_getElem? (List.getElem?_zip_eq_some.mpr ⟨List.getElem?_eq_getElem hj, hvalue⟩)
    have hmem := mem_zip_flatten (q.map_length_tuples ps) hnames hvalues hpair
    rw [← List.flatMap_def] at hmem
    have hname : names[j] ∈ (q.tuples ps).flatten :=
      List.mem_flatten_of_mem (List.mem_of_getElem? hnames) (List.getElem_mem hj)
    have hcolon : Params.colonName names[j] = names[j] := by
      rw [flatten_tuples] at hname
      exact colonName_of_mem_slotNames hname
    have hold : names[j] ∉ ps.entries.map Prod.fst := hfresh _ hname
    rw [Params.get?, hcolon]
    show OrderedMap.lookup names[j] (assemble ps q.rowsTemplate).2.entries = _
    rw [hentries, OrderedMap.lookup_append_of_not_mem hold]
    apply OrderedMap.lookup_of_mem _ hmem
    rw [List.map_fst_zip (Nat.le_of_eq hlengths)]
    exact hnodup

end

/-- **The text of an insertion with columns**: its heading, squeezed, and its tuples. -/
theorem assemble_template_of_columns (st : Style) (ps : Params) {q : Insert} (htable : q.table ≠ "")
    (hcolumns : q.columns ≠ []) :
    assemble ps (q.template st) =
      (squeezeChars (q.heading st).toList ++ ' ' :: (tuplesSql (q.tuples ps)).toList,
        (assemble ps q.rowsTemplate).2) := by
  have htuples : (assemble ps q.rowsTemplate).1 = (tuplesSql (q.tuples ps)).toList := by
    rw [rowsTemplate, assemble_fst_joined, writtenEach_rows]
    rfl
  have hne : q.tuples ps ≠ [] := by
    intro hempty
    apply hcolumns
    have hrows := (q.bindsRows ps).rows
    rw [hempty] at hrows
    rw [columns, List.eq_nil_of_length_eq_zero hrows.symm]
    rfl
  have hsettled : IsSettled charLook ' ' (tuplesSql (q.tuples ps)).toList := by
    apply isSettled_tuplesSql hne
    intro name hname
    rw [flatten_tuples] at hname
    exact isWord_of_mem_slotNames hname
  have hheading : squeezeChars (q.heading st).toList ≠ [] := (isTight_heading st q).squeezeChars_ne_nil
  have hparts : assemble ps (text (q.heading st ++ " ") ++ q.rowsTemplate) =
      ((q.heading st).toList ++ ' ' :: (tuplesSql (q.tuples ps)).toList,
        (assemble ps q.rowsTemplate).2) := by
    rw [assemble_append, assemble_text, htuples, String.toList_append, List.append_assoc]
    rfl
  have htemplate : q.template st = squeeze (text (q.heading st ++ " ") ++ q.rowsTemplate) :=
    template_of_columns st htable hcolumns
  rw [htemplate, assemble_squeeze, hparts, squeezeChars_settled _ hsettled, if_neg hheading,
    List.append_assoc]
  rfl

/-- **When an insertion is accepted**: its rows all have columns or none has, and no column is blank. -/
theorem misuse?_eq_none_iff {q : Insert} :
    q.misuse? = none ↔ q.misuse = none ∧ q.isMixed = false ∧
      ∀ row ∈ q.rows, ∀ column ∈ row.keys, isBlankText column = false := by
  have hrows : q.rows.findSome? Payload.misuse? = none ↔
      ∀ row ∈ q.rows, ∀ column ∈ row.keys, isBlankText column = false := by
    rw [List.findSome?_eq_none_iff]
    exact forall₂_congr fun row _ => Payload.misuse?_eq_none_iff
  unfold misuse?
  rw [Option.or_eq_none_iff, Option.or_eq_none_iff, hrows]
  cases q.isMixed <;> simp

theorem ne_empty_of_misuse?_eq_none {q : Insert} (h : q.misuse? = none) :
    ∀ column ∈ q.columns, column ≠ "" := by
  obtain ⟨-, -, hnamed⟩ := misuse?_eq_none_iff.mp h
  intro column hcolumn
  unfold columns at hcolumn
  cases hrows : q.rows with
  | nil =>
    rw [hrows] at hcolumn
    cases hcolumn
  | cons row rows =>
    rw [hrows] at hcolumn hnamed
    have hblank := hnamed row List.mem_cons_self column hcolumn
    rintro rfl
    cases hblank

/-- **What an insertion of rows compiles to**, whatever parameters there are already: its heading with
    the columns of the first row, and one tuple for each row, in which the values of the row are bound
    in the order of these columns.

    The heading is squeezed. It arrives as it is exactly if the names in it hold no blanks but single
    spaces. -/
theorem compiles_to_tuples (st : Style) (ps : Params) {q : Insert} (htable : q.table ≠ "")
    (hfit : q.misuse? = none) (hcolumns : q.columns ≠ []) :
    ∃ head after tuples,
      assemble ps (q.template st) = (head ++ ' ' :: (tuplesSql tuples).toList, after) ∧
      q.BindsRows ps after tuples ∧
      head = squeezeChars (q.heading st).toList ∧
      (head = (q.heading st).toList ↔
        ∀ name ∈ q.table :: q.columns, AreSingleSpaces name.toList) := by
  refine ⟨_, _, q.tuples ps, assemble_template_of_columns st ps htable hcolumns, q.bindsRows ps,
    rfl, ?_⟩
  rw [squeezeChars_eq_self_iff (isTight_heading st q)]
  exact areSingleSpaces_heading st htable (ne_empty_of_misuse?_eq_none hfit)

/-- A later row in another order, and one that lacks a column. -/
def shuffledRows : Insert :=
  { table := "t"
    rows := [.ofList [("a", .int 1), ("b", .int 2)], .ofList [("b", .int 4), ("a", .int 3)],
      .ofList [("b", .int 6)]] }

/-- One parameter, under the name that is tried first for the first value. -/
def takenName : Params := .ofList [(":t_a_1", .int 0)]

theorem shuffledRows_compiled :
    shuffledRows.table ≠ "" ∧ shuffledRows.misuse? = none ∧ shuffledRows.columns = ["a", "b"] ∧
      ∃ after tuples,
        assemble takenName (shuffledRows.template { dialect := .sqlite }) =
          ((shuffledRows.heading { dialect := .sqlite }).toList ++ ' ' :: (tuplesSql tuples).toList,
            after) ∧
        shuffledRows.BindsRows takenName after tuples ∧
        after.entries = [(":t_a_1", .int 0), (":t_a_2", .int 1), (":t_b_2", .int 2),
          (":t_a_3", .int 3), (":t_b_4", .int 4), (":t_a_5", .null), (":t_b_6", .int 6)] := by
  refine ⟨by decide, rfl, rfl, ?_⟩
  obtain ⟨head, after, tuples, htext, hbinds, hhead, -⟩ :=
    compiles_to_tuples { dialect := .sqlite } takenName (q := shuffledRows) (by decide) rfl (by decide)
  have hheading : squeezeChars (shuffledRows.heading { dialect := .sqlite }).toList =
      (shuffledRows.heading { dialect := .sqlite }).toList := by decide +kernel
  rw [hhead, hheading] at htext
  refine ⟨after, tuples, htext, hbinds, ?_⟩
  have hafter : after = (assemble takenName (shuffledRows.template { dialect := .sqlite })).2 :=
    (congrArg Prod.snd htext).symm
  rw [hafter]
  decide +kernel

/-- One column, with two blanks in its name. -/
def wideColumn : Insert := { table := "t", rows := [.ofList [("a  b", .int 1)]] }

/-- The column that is listed is another one: nothing that begins with the heading is compiled, and the
    text lists the column with one blank. -/
theorem wideColumn_narrowed :
    wideColumn.table ≠ "" ∧ wideColumn.misuse? = none ∧ wideColumn.columns = ["a  b"] ∧
      ¬ (wideColumn.heading { dialect := .sqlite }).toList <+:
        (assemble .empty (wideColumn.template { dialect := .sqlite })).1 ∧
      (assemble .empty (wideColumn.template { dialect := .sqlite })).1 =
        "INSERT INTO \x60t\x60 (\x60a b\x60) VALUES (:t_a__b_0)".toList := by
  refine ⟨by decide, rfl, rfl, ?_, ?_⟩ <;> decide +kernel

end Insert

end FluentSql
