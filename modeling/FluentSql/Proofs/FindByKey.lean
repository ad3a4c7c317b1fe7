import FluentSql.Proofs.OperandShapes
import FluentSql.Proofs.Runs
/-!
# `FluentSql.Proofs.FindByKey` — which rows are found by a key

A row is found by a test of its key, which is joined by AND to the end of the caller's conditions. So
it narrows their last run, and a row of an earlier run is found whatever its key
(`ModelMethod.find_narrows_last_run`). Without an OR at the outermost level there is one run at most,
and only rows with the key are found.

The text is parsed, and what it says of a row is read off the parsed list. So the caller's conditions
are to hold no raw fragment, which may be any text, and no range with one bound, which would take the
AND in front of the key for its own.
-/

namespace FluentSql

open FluentSql.Text Template Reading Parsing

variable {σ α : Type}

/-! ## The scoped conditions -/

/-- Every query of a chain has conditions that were built by pushing. -/
theorem ModelQuery.isPushed_steps (schema : Schema) (steps : List ModelStep) :
    Conditions.IsPushed (steps.foldl ModelQuery.step (.ofSchema schema)).select.wheres.conditions :=
  (ModelQuery.isChained_steps schema steps).wheres.sound.pushed

/-- Conditions behind a filter are parsed as the filter and a group. -/
theorem Conditions.entries_filtered (st : Style) (table : String) (ps : Params) (column : Column)
    (wanted : Bool) {conditions : Conditions} (hw : Conditions.anyWritten conditions = true) :
    Conditions.entries st .wheres table ps (conditions.filtered column wanted) =
      [⟨none, (nullTest column wanted).tree st .wheres table ps⟩,
        ⟨some .and, .group (conditions.entries st .wheres table ps)⟩] := by
  have hshown : (nullTest column wanted).isWritten = true := rfl
  have hgroup : (Predicate.group conditions).isWritten = true := hw
  have hne : conditions.isEmpty = false := by
    cases conditions with
    | nil => cases hw
    | cons condition conditions => rfl
  simp only [entries, filtered, hne, entriesFrom, hshown, hgroup, Predicate.tree, Bool.false_eq_true,
    ↓reduceIte, template_nullTest, assemble_text]

namespace ModelQuery

/-- **What the scoped conditions say of a row**: what the filter says, and what the caller's do. -/
theorem holds_scopedWhere (truth : List Token → Bool) (st : Style) (table : String) (ps : Params)
    {q : ModelQuery} (hw : Conditions.anyWritten q.select.wheres.conditions = true) :
    holds truth (Conditions.entries st .wheres table ps q.scopedWhere.conditions) =
      ((q.trashFilter.all fun filter => (filter.tree st .wheres table ps).holds truth) &&
        holds truth (Conditions.entries st .wheres table ps q.select.wheres.conditions)) := by
  rcases q.scopedWhere_cases with ⟨hnone, hscoped⟩ | ⟨name, wanted, hsome, hscoped⟩
  · rw [hnone, hscoped]
    rfl
  · rw [hsome, hscoped, Conditions.entries_filtered st table ps _ wanted hw]
    rfl

/-- **The scoped conditions parse** to their entries if the caller's conditions do. -/
theorem parse_scopedWhere (st : Style) (table : String) (ps : Params) {q : ModelQuery}
    (hjoined : Conditions.areJoined true q.select.wheres.conditions = true)
    (hraw : Conditions.areRawFree q.select.wheres.conditions = true)
    (hfits : Conditions.fitRanges q.select.wheres.conditions = true) :
    parse (tokens st.dialect
        (assemble ps (Conditions.template st .wheres table q.scopedWhere.conditions)).1) =
      some (Conditions.entries st .wheres table ps q.scopedWhere.conditions) := by
  rcases q.scopedWhere_cases with ⟨-, hscoped⟩ | ⟨name, wanted, -, hscoped⟩
  · rw [hscoped]
    exact Conditions.parse_template st .wheres table ps hjoined hraw hfits
  · rw [hscoped]
    have hnull : (nullTest (.name name) wanted).fitsRanges = true := by cases wanted <;> rfl
    generalize q.select.wheres.conditions = conditions at hjoined hraw hfits
    unfold Conditions.filtered
    cases hempty : conditions.isEmpty with
    | true =>
      refine Conditions.parse_template st .wheres table ps rfl rfl ?_
      simpa [Conditions.fitRanges] using hnull
    | false =>
      refine Conditions.parse_template st .wheres table ps ?_ ?_ ?_
      · simpa [Conditions.areJoined, Predicate.isJoined, nullTest] using hjoined
      · simpa [Conditions.areRawFree, Predicate.isRawFree, nullTest, Column.isRaw] using hraw
      · simpa [Conditions.fitRanges, Predicate.fitsRanges, hnull] using hfits

theorem anyWritten_scopedWhere {q : ModelQuery}
    (hw : Conditions.anyWritten q.select.wheres.conditions = true) :
    Conditions.anyWritten q.scopedWhere.conditions = true := by
  rcases q.scopedWhere_cases with ⟨-, hscoped⟩ | ⟨name, wanted, -, hscoped⟩
  · rw [hscoped, hw]
  · rw [hscoped]
    rfl

/-- A filter binds nothing. -/
theorem params_scopedWhere (st : Style) (table : String) (ps : Params) (q : ModelQuery) :
    (assemble ps (Conditions.template st .wheres table q.scopedWhere.conditions)).2 =
      (assemble ps (Conditions.template st .wheres table q.select.wheres.conditions)).2 := by
  rcases q.scopedWhere_cases with ⟨-, hscoped⟩ | ⟨name, wanted, -, hscoped⟩
  · rw [hscoped]
  · rw [hscoped, Conditions.assemble_filtered]

/-! ## The key -/

/-- **The test of a key.** -/
def keyTest (q : ModelQuery) (id : Value) : Predicate :=
  .compare (.name q.schema.findColumn) .equal (.single id)

/-- The tokens of the test of a key, after the parameters there are. -/
def keyTokens (q : ModelQuery) (d : Dialect) (ps : Params) (id : Value) : List Token :=
  columnTokens d .wheres (.name q.schema.findColumn) ++
    [.mark '=', slotToken ps q.select.table q.schema.findColumn id]

/-- The test of the key is the last condition. -/
theorem conditions_found (q : ModelQuery) (id : Value) :
    (q.found id).select.wheres.conditions =
      q.select.wheres.conditions ++
        [⟨if q.select.wheres.conditions.isEmpty then none else some .and, q.keyTest id⟩] := rfl

theorem tree_keyTest (st : Style) (ps : Params) (q : ModelQuery) (id : Value) :
    (q.keyTest id).tree st .wheres q.select.table ps = .leaf (q.keyTokens st.dialect ps id) := by
  have hequal : tokens st.dialect Operator.equal.sql.toList = [.mark '='] := by
    cases st.dialect <;> rfl
  simp only [keyTest, Predicate.tree, compareTokens, hequal]
  rfl

theorem params_keyTest (st : Style) (ps : Params) (q : ModelQuery) (id : Value) :
    (assemble ps ((q.keyTest id).template st .wheres q.select.table)).2 =
      (ps.bind q.select.table q.schema.findColumn id).2 := by
  simp only [keyTest, Predicate.template, compareTemplate, assemble_append, assemble_text]
  rfl

theorem anyWritten_found (q : ModelQuery) (id : Value) :
    Conditions.anyWritten (q.found id).select.wheres.conditions = true := by
  rw [conditions_found, Conditions.anyWritten_append]
  exact Bool.or_true _

/-- **What is found by a key**: rows of an earlier run, and those of the last run with the key. -/
theorem holds_found (truth : List Token → Bool) (st : Style) (ps : Params) (q : ModelQuery)
    (id : Value) :
    let own : Conditions := q.select.wheres.conditions
    let entries := own.entries st .wheres q.select.table ps
    let keyed := (assemble ps (own.template st .wheres q.select.table)).2
    holds truth (Conditions.entries st .wheres q.select.table ps
        (q.found id).select.wheres.conditions) =
      (((earlierRuns entries).any fun run => run.all (Tree.holds truth)) ||
        ((lastRun entries).all (Tree.holds truth) && truth (q.keyTokens st.dialect keyed id))) := by
  intro own entries keyed
  have hkey : (q.keyTest id).isWritten = true := rfl
  have hjoiner : (if Conditions.anyWritten own then
      (if own.isEmpty then none else some Conjunction.and) else none) ≠ some .or := by
    split
    · split <;> decide
    · decide
  rw [conditions_found, Conditions.entries_concat _ _ _ _ _ _ hkey, tree_keyTest,
    holds_concat _ hjoiner]
  rfl

/-- **The conditions with the key parse** if the caller's conditions do. -/
theorem parse_found (st : Style) (ps : Params) {q : ModelQuery}
    (hpushed : Conditions.IsPushed q.select.wheres.conditions)
    (hraw : Conditions.areRawFree q.select.wheres.conditions = true)
    (hfits : Conditions.fitRanges q.select.wheres.conditions = true) (id : Value) :
    parse (tokens st.dialect
        (assemble ps (Conditions.template st .wheres q.select.table
          (q.found id).scopedWhere.conditions)).1) =
      some (Conditions.entries st .wheres q.select.table ps (q.found id).scopedWhere.conditions) := by
  have hfound := hpushed.push .and (q.keyTest id) nofun
  refine parse_scopedWhere st q.select.table ps hfound.areJoined ?_ ?_
  · rw [conditions_found, Conditions.areRawFree_append, hraw]
    rfl
  · rw [conditions_found, Conditions.fitRanges_append, hfits]
    rfl

/-- The key is bound after the caller's conditions. -/
theorem params_found (st : Style) (ps : Params) (q : ModelQuery) (id : Value) :
    (assemble ps (Conditions.template st .wheres q.select.table
        (q.found id).scopedWhere.conditions)).2 =
      ((assemble ps (Conditions.template st .wheres q.select.table
        q.select.wheres.conditions)).2.bind q.select.table q.schema.findColumn id).2 := by
  have hkey : (q.keyTest id).isWritten = true := rfl
  rw [params_scopedWhere, conditions_found, Conditions.template, Conditions.assemble_snd_append,
    Conditions.assemble_snd_cons, params_keyTest]
  rfl

end ModelQuery

/-! ## Finding -/

/-- **What finding by a key hands over**: a SELECT statement whose WHERE clause ends in the test of the
    key, with the key bound after the values of the caller's conditions. If these hold no raw fragment
    and no range with one bound, the clause parses, and it holds of a row if the filter for deleted
    rows does and either an earlier run of the caller's conditions does, or the last run and the test
    of the key. So if no OR cuts the caller's conditions, it holds of rows with the key only. -/
theorem ModelMethod.find_narrows_last_run {c : Connection (σ × List RecordedCall)} {e : Executor σ}
    (hc : c.executor = some e.recording) (m : Model α) (q : ModelQuery) (id : Value)
    (session : Session (σ × List RecordedCall)) :
    let s := (q.found id).firstStatement
    let f := s.frame c.style
    let ps := f.paramsBefore .empty
    let own : Conditions := q.select.wheres.conditions
    let ownText := assemble ps (own.template c.style .wheres f.table)
    let entries := own.entries c.style .wheres f.table ps
    let key := q.keyTokens c.style.dialect ownText.2 id
    ((find id).run m c q).record session = session.record ++
        (match (Statement.select s).check c.style with
        | .error _ => []
        | .ok _ => [.fetchAll
            (String.ofList (squeezeChars (f.textBefore .empty ++ "WHERE ".toList ++
              f.compiled c.style .empty ++ f.textAfter c.style .empty)))
            (Bind.ofParams (f.params c.style .empty))]) ∧
      f.paramsAfter c.style .empty = (ownText.2.bind f.table q.schema.findColumn id).2 ∧
      (own.IsPushed → Conditions.areRawFree own = true → Conditions.fitRanges own = true →
        parse (tokens c.style.dialect ownText.1) = some entries ∧
        ∃ found, parse (tokens c.style.dialect (f.compiled c.style .empty)) = some found ∧
          (∀ truth : List Token → Bool, holds truth found =
            ((q.trashFilter.all fun filter =>
                (filter.tree c.style .wheres f.table ps).holds truth) &&
              (((earlierRuns entries).any fun run => run.all (Tree.holds truth)) ||
                ((lastRun entries).all (Tree.holds truth) && truth key)))) ∧
          (earlierRuns entries = [] → ∀ truth : List Token → Bool,
            holds truth found = true → truth key = true)) := by
  intro s f ps own ownText entries key
  have hwritten : f.compiled c.style .empty ≠ [] := by
    have hscoped : Conditions.anyWritten f.conditions = true :=
      ModelQuery.anyWritten_scopedWhere (q.anyWritten_found id)
    rw [Ne, Frame.compiled_eq_nil_iff, hscoped]
    decide
  refine ⟨?_, q.params_found c.style ps id, fun hpushed hraw hfits => ?_⟩
  · rw [record_run hc]
    show session.record ++ (Statement.select s).handedOver c.style .fetchAll = _
    rw [Statement.handedOver]
    cases hcheck : (Statement.select s).check c.style with
    | error error => rfl
    | ok built =>
      obtain ⟨-, hsql, rfl⟩ := Statement.check_eq_ok_iff.mp hcheck
      have hbuild := Statement.build_eq_frame (f := f) rfl hsql
      rw [Frame.assemble_template, Frame.whereText, if_neg hwritten] at hbuild
      rw [hbuild]
      simp only [List.append_assoc]
  · have hholds : ∀ truth : List Token → Bool,
        holds truth (Conditions.entries c.style .wheres f.table ps f.conditions) =
          ((q.trashFilter.all fun filter => (filter.tree c.style .wheres f.table ps).holds truth) &&
            (((earlierRuns entries).any fun run => run.all (Tree.holds truth)) ||
              ((lastRun entries).all (Tree.holds truth) && truth key))) := by
      intro truth
      have hscoped := ModelQuery.holds_scopedWhere truth c.style q.select.table ps
        (q.anyWritten_found id)
      rw [q.holds_found truth c.style ps id] at hscoped
      exact hscoped
    refine ⟨Conditions.parse_template _ _ _ _ hpushed.areJoined hraw hfits, _,
      q.parse_found c.style ps hpushed hraw hfits id, hholds, fun hone truth htrue => ?_⟩
    have hall := (hholds truth).symm.trans htrue
    rw [hone, List.any_nil, Bool.false_or, Bool.and_eq_true, Bool.and_eq_true] at hall
    exact hall.2.2

/-- A model whose rows are found by their key. -/
def Model.users : Model Payload where
  table := "users"
  ofRow row := .ok (.ofPairs row.columns)
  attributes data := data
  setId data id := data.insert "id" id

/-- Users who are called Ann, or who are called Bob and of age. -/
def ModelQuery.annOrGrownBob : ModelQuery :=
  (((ModelQuery.ofSchema Model.users.toSchema).step
    (.filter (.compare .and (.name "name") .equal (.text "Ann")))).step
    (.filter (.compare .or (.name "name") .equal (.text "Bob")))).step
    (.filter (.compare .and (.name "age") .atLeast (.int 18)))

/-- The same users, by a group of conditions. -/
def ModelQuery.annOrGrownBobGrouped : ModelQuery :=
  (ModelQuery.ofSchema Model.users.toSchema).step (.filter (.group .and [
    .compare .and (.name "name") .equal (.text "Ann"),
    .compare .or (.name "name") .equal (.text "Bob"),
    .compare .and (.name "age") .atLeast (.int 18)]))

/-- In a group the OR cuts nothing, and the key narrows all. -/
theorem ModelMethod.find_narrows_group :
    Connection.scripted.executor = some (Script.executor "mysql").recording ∧
      Conditions.IsPushed ModelQuery.annOrGrownBobGrouped.select.wheres.conditions ∧
      Conditions.areRawFree ModelQuery.annOrGrownBobGrouped.select.wheres.conditions = true ∧
      Conditions.fitRanges ModelQuery.annOrGrownBobGrouped.select.wheres.conditions = true ∧
      earlierRuns (Conditions.entries { dialect := .mysql } .wheres "users" .empty
        ModelQuery.annOrGrownBobGrouped.select.wheres.conditions) = [] ∧
      ∃ found, parse (tokens .mysql ("(\x60name\x60 = :users_name_0 OR \x60name\x60 = :users_name_1"
          ++ " AND \x60age\x60 >= :users_age_2) AND \x60id\x60 = :users_id_3").toList) = some found ∧
        ∀ truth : List Token → Bool, holds truth found = true →
          truth [.quoted "id".toList, .mark '=', .word ":users_id_3".toList] = true := by
  have hpushed : Conditions.IsPushed ModelQuery.annOrGrownBobGrouped.select.wheres.conditions :=
    ModelQuery.isPushed_steps Model.users.toSchema [.filter (.group .and [
      .compare .and (.name "name") .equal (.text "Ann"),
      .compare .or (.name "name") .equal (.text "Bob"),
      .compare .and (.name "age") .atLeast (.int 18)])]
  refine ⟨rfl, hpushed, rfl, rfl, rfl, ?_⟩
  obtain ⟨-, -, hparsed⟩ := find_narrows_last_run (c := Connection.scripted) rfl Model.users
    ModelQuery.annOrGrownBobGrouped (.int 7) Session.scripted
  obtain ⟨-, found, hfound, -, hnarrow⟩ := hparsed hpushed rfl rfl
  have htext : (Select.frame { dialect := .mysql }
      (ModelQuery.annOrGrownBobGrouped.found (.int 7)).firstStatement).compiled
        { dialect := .mysql } .empty =
      ("(\x60name\x60 = :users_name_0 OR \x60name\x60 = :users_name_1"
        ++ " AND \x60age\x60 >= :users_age_2) AND \x60id\x60 = :users_id_3").toList := by
    decide +kernel
  refine ⟨found, ?_, hnarrow rfl⟩
  rw [← htext]
  exact hfound

/-- The tests for equality that are true of a row, with the values that are bound. -/
def Row.satisfies (row : Row) (binds : List Bind) : List Token → Bool
  | [.quoted column, .mark '=', .word name] =>
    binds.any fun b => b.placeholder == String.ofList name &&
      row.get? (String.ofList column) == some b.value
  | _ => false

/-- A row of Ann. -/
def Row.ann : Row := ⟨[("id", .int 1), ("name", .text "Ann")]⟩

/-- Without the group Ann is found by the key of another row. -/
theorem ModelMethod.find_takes_other_key :
    let clause := "\x60name\x60 = :users_name_0 OR \x60name\x60 = :users_name_1" ++
      " AND \x60age\x60 >= :users_age_2 AND \x60id\x60 = :users_id_3"
    let binds : List Bind := [⟨":users_name_0", .text "Ann"⟩, ⟨":users_name_1", .text "Bob"⟩,
      ⟨":users_age_2", .int 18⟩, ⟨":users_id_3", .int 7⟩, ⟨":users_limit_4", .int 1⟩]
    ((find (.int 7)).run Model.users Connection.scripted ModelQuery.annOrGrownBob).record
        Session.scripted =
      [.fetchAll ("SELECT * FROM \x60users\x60 WHERE " ++ clause ++ " LIMIT :users_limit_4") binds] ∧
      (parse (tokens .mysql clause.toList)).any (holds (Row.ann.satisfies binds)) = true ∧
      Row.ann.satisfies binds [.quoted "id".toList, .mark '=', .word ":users_id_3".toList] = false := by
  refine ⟨?_, ?_, ?_⟩
  · decide +kernel
  · decide +kernel
  · decide +kernel

end FluentSql
