import FluentSql.Model
import FluentSql.Proofs.FindByKey
import FluentSql.Proofs.Precedence
import FluentSql.Proofs.References
/-!
# `FluentSql.Proofs.RelatedRows` — two questions about the rows that refer to a row

That rows of another model refer to a row can be a condition of the query for the row
(`ModelStep.related`), and the rows can be fetched by a query of their own (`Model.hasMany`). Both go by
the same columns. But the condition knows the other model by its table only:

* it counts softly deleted rows, which the query for the rows leaves out;
* it mentions the row at hand by its table, which in a model that refers to itself is the table of the
  rows that refer to it.

`Select.rowsIn` says which rows a statement takes from the rows that are stored, and
`Model.related_and_hasMany` what this makes of the two.
-/

namespace FluentSql

open FluentSql.Text Template

variable {α : Type}

/-! ## Columns of rows -/

/-- The value of a column; a column that a row does not have is null. -/
def Row.value (row : Row) (column : String) : Value := (row.get? column).getD .null

/-- **A name and its qualifier**, which is what stands before the last dot. -/
def qualifiedName (name : String) : Option String × String :=
  let segments := splitAt '.' name.toList
  (if segments.dropLast.isEmpty then none
    else some (String.ofList (joinWith '.' segments.dropLast)),
    String.ofList (segments.getLastD []))

theorem qualifiedName_of_isPlainName {name : String} (h : isPlainName name = true) :
    qualifiedName name = (none, name) := by
  unfold qualifiedName
  rw [splitAt_of_not_mem (dot_not_mem_of_isPlainName h)]
  exact Prod.ext rfl String.ofList_toList

theorem qualifiedName_append (qualifier : String) {name : String} (h : isPlainName name = true) :
    qualifiedName (qualifier ++ "." ++ name) = (some qualifier, name) := by
  have hlist : (qualifier ++ "." ++ name).toList = qualifier.toList ++ '.' :: name.toList := by
    rw [String.toList_append, String.toList_append, List.append_assoc]
    rfl
  have hsegments : splitAt '.' (qualifier ++ "." ++ name).toList =
      splitAt '.' qualifier.toList ++ [name.toList] := by
    rw [hlist, splitAt_append, splitAt_of_not_mem (dot_not_mem_of_isPlainName h)]
  have hfront : (splitAt '.' qualifier.toList).isEmpty = false :=
    List.isEmpty_eq_false_iff.mpr (splitAt_ne_nil '.' _)
  unfold qualifiedName
  rw [hsegments]
  simp [hfront, joinWith_splitAt]

/-- **The value of a column** in scope of some rows, each with the listed table that it is a row of, the
    innermost first. A qualified column is one of the first row whose table goes by the qualifier. -/
def valueIn (scope : List (Listed × Row)) (name : String) : Value :=
  match qualifiedName name with
  | (some qualifier, column) =>
    match scope.find? fun entry => entry.1.goesBy qualifier with
    | some (_, row) => row.value column
    | none => .null
  | (none, column) => (scope.findSome? fun entry => entry.2.get? column).getD .null

theorem valueIn_of_isPlainName (listed : Listed) (row : Row) {column : String}
    (h : isPlainName column = true) : valueIn [(listed, row)] column = row.value column := by
  unfold valueIn
  rw [qualifiedName_of_isPlainName h]
  dsimp only
  rw [List.findSome?_singleton]
  rfl

/-- A row of a table without an alias. -/
theorem valueIn_cons (table qualifier : String) (row : Row) (scope : List (Listed × Row))
    {column : String} (h : isPlainName column = true) :
    valueIn ((⟨table, none⟩, row) :: scope) (qualifier ++ "." ++ column) =
      if table = qualifier then row.value column
      else valueIn scope (qualifier ++ "." ++ column) := by
  unfold valueIn
  rw [qualifiedName_append qualifier h]
  dsimp only
  by_cases hname : table = qualifier
  · have hgoes : Listed.goesBy ⟨table, none⟩ qualifier = true := beq_iff_eq.mpr hname.symm
    rw [if_pos hname, List.find?_cons, hgoes]
  · have hgoes : Listed.goesBy ⟨table, none⟩ qualifier = false :=
      beq_eq_false_iff_ne.mpr fun heq => hname heq.symm
    rw [if_neg hname, List.find?_cons, hgoes]

/-! ## Which rows a statement takes -/

/-- **What a statement is run on**: the rows of each table, which values are the same, and which tests
    hold of rows in scope, other than those that `Predicate.holdsIn` reads. A raw fragment and a range
    with one bound count as one test, as in `Conditions.reads`, where a database reads on. -/
structure Store where
  rows : String → List Row
  same : Value → Value → Bool
  decides : List (Listed × Row) → Predicate → Bool

/-- Whether two values are equal; null equals nothing. -/
def Store.equal (store : Store) (v w : Value) : Bool :=
  !v.isNull && !w.isNull && store.same v w

/-- **Whether a test holds** of the rows in scope, in a statement about a table. A test that rows of
    another table refer to the row at hand is a subquery, in which each of them comes into scope
    (`Predicate.related_read_as_written`). -/
def Predicate.holdsIn (st : Style) (store : Store) (current : String) (scope : List (Listed × Row)) :
    Predicate → Bool
  | .compare (.name column) .equal (.single v) => store.equal (valueIn scope column) v
  | .compare (.name column) .is .null => (valueIn scope column).isNull
  | .compare (.name column) .isNot .null => !(valueIn scope column).isNull
  | .related other column parent wanted =>
    ((store.rows other).any fun row =>
      let inner := (⟨other, none⟩, row) :: scope
      store.equal (valueIn inner (other ++ "." ++ column.getD (st.foreignKey current)))
        (valueIn inner (current ++ "." ++ parent.getD "id"))) == wanted
  | predicate => store.decides scope predicate

/-- **A test on related rows is read as it is written.** Its text is a subquery on the other table that
    compares two mentions. It is read as whether some row of this table makes the values equal that the
    mentions have, with the row in scope before the rows at hand, as the scope of the mentions has it. -/
theorem Predicate.related_read_as_written (st : Style) (kind : ClauseKind) (store : Store)
    (current : Listed) (scope : List (Listed × Row)) (other : String) (column parent : Option String)
    (wanted : Bool) :
    ∃ own key,
      relatedMentions st current (scope.map Prod.fst) other column parent = [own, key] ∧
      (Predicate.related other column parent wanted).template st kind current.table =
        text (existsKeyword wanted ++ " (SELECT " ++ st.quote own.column ++ " FROM " ++ st.quote other
          ++ " WHERE " ++ own.sql st ++ " = " ++ key.sql st ++ ")") ∧
      own.scope = ⟨other, none⟩ :: scope.map Prod.fst ∧ key.scope = own.scope ∧
      Predicate.holdsIn st store current.table scope (.related other column parent wanted) =
        (((store.rows other).any fun row =>
          let inner := (⟨other, none⟩, row) :: scope
          store.equal (valueIn inner (own.qualifier ++ "." ++ own.column))
            (valueIn inner (key.qualifier ++ "." ++ key.column))) == wanted) := by
  obtain ⟨own, key, hpair, hsql⟩ :=
    relatedSql_eq_mentions st current (scope.map Prod.fst) other column parent wanted
  refine ⟨own, key, hpair, ?_, ?_⟩
  · simp only [Predicate.template, hsql]
  · cases hpair
    exact ⟨rfl, rfl, rfl⟩

/-- **Whether a statement takes a row**: its conditions hold of the row. -/
def Select.takes (q : Select) (st : Style) (store : Store) (row : Row) : Bool :=
  Conditions.reads (Predicate.holdsIn st store q.table [(⟨q.table, q.called⟩, row)])
    q.wheres.conditions

/-- **The rows that a statement takes** of its table. -/
def Select.rowsIn (q : Select) (st : Style) (store : Store) : List Row :=
  (store.rows q.table).filter (q.takes st store)

/-- **A statement that only filters**: it has no clause but conditions, and it is fit to be run. -/
structure Select.OnlyFilters (st : Style) (q : Select) : Prop where
  clauses : q = { Select.empty with table := q.table, wheres := q.wheres }
  fit : (Statement.select q).check st = .ok ((Statement.select q).build st)

/-- A condition that stands alone. -/
theorem Conditions.reads_singleton (truth : Predicate → Bool) {predicate : Predicate}
    (hw : predicate.isWritten = true) :
    Conditions.reads truth [⟨none, predicate⟩] = predicate.reads truth := by
  simp [reads_eq_foldl_take, Level.take, hw, Level.and, Level.value]

/-! ## Queries of a model -/

/-- **A schema that names things**: a table, and special columns of one segment each. -/
structure Schema.IsNamed (s : Schema) : Prop where
  table : s.table ≠ ""
  primaryKey : isPlainName s.primaryKey = true
  softDelete : ∀ column, s.softDelete = some column → isPlainName column = true

/-- **Whether a query that sees such rows shows a row**, by its delete column. -/
def Schema.shows (s : Schema) (which : Trashed) (row : Row) : Bool :=
  match s.softDelete, which with
  | none, _ => true
  | _, .included => true
  | some column, .excluded => (row.value column).isNull
  | some column, .only => !(row.value column).isNull

theorem Schema.shows_included (s : Schema) (row : Row) : s.shows .included row = true := by
  unfold shows
  cases s.softDelete <;> rfl

/-- All rows of a model with one condition. -/
def ModelQuery.withTest (s : Schema) (which : Trashed) (predicate : Predicate) : ModelQuery :=
  ⟨s, { Select.empty with table := s.table, wheres := ⟨[⟨none, predicate⟩], none⟩ }, which⟩

theorem Select.target_empty (table : String) :
    Select.empty.target table = { Select.empty with table := table } := by
  have hnew : retarget empty.table empty.misuse table = (table, none) := retarget_new table
  unfold target
  rw [hnew]
  rfl

/-- The query for rows with related rows. -/
theorem Model.step_related (m : Model α) (other : Schema) (wanted : Bool) :
    m.query.step (.related other wanted) =
      .withTest m.toSchema .excluded (.related other.table none (some m.primaryKey) wanted) := by
  unfold query ModelQuery.ofSchema
  rw [Select.target_empty]
  rfl

/-- The query for the rows that refer to a value with a primary key. -/
theorem Model.hasMany_default (m : Model α) (st : Style) (other : Schema) {a : α} {id : Value}
    (hid : m.id? a = some id) (which : Trashed) :
    (m.hasMany st other a none none).step (.trashed which) =
      .withTest other which (.compare (.name (st.foreignKey m.table)) .equal (.single id)) := by
  unfold hasMany ModelQuery.ofSchema
  rw [Select.target_empty, hid]
  rfl

section

variable {st : Style} {store : Store} {s : Schema} {which : Trashed} {predicate : Predicate}

/-- The filter for deleted rows holds of the rows that are shown. -/
theorem ModelQuery.all_trashFilter (hs : s.IsNamed) (q : ModelQuery) (hq : q.schema = s) (row : Row) :
    q.trashFilter.all (Predicate.holdsIn st store s.table [(⟨s.table, none⟩, row)]) =
      s.shows q.trashed row := by
  have hcolumn : ∀ column, s.softDelete = some column →
      valueIn [(⟨s.table, none⟩, row)] (s.table ++ "." ++ column) = row.value column := by
    intro column hsoft
    rw [valueIn_cons _ _ _ _ (hs.softDelete column hsoft), if_pos rfl]
  unfold trashFilter Schema.shows
  rw [hq]
  cases hsoft : s.softDelete with
  | none => rfl
  | some column =>
    cases q.trashed with
    | included => rfl
    | excluded => exact congrArg Value.isNull (hcolumn column hsoft)
    | only => exact congrArg (fun v => !v.isNull) (hcolumn column hsoft)

/-- **A query with one condition** takes the rows that are shown and meet the condition. -/
theorem ModelQuery.takes_withTest (hs : s.IsNamed) (hw : predicate.isWritten = true) (row : Row) :
    (withTest s which predicate).statement.takes st store row =
      (s.shows which row &&
        predicate.reads (Predicate.holdsIn st store s.table [(⟨s.table, none⟩, row)])) := by
  unfold Select.takes statement
  show Conditions.reads (Predicate.holdsIn st store s.table [(⟨s.table, none⟩, row)])
    (withTest s which predicate).scopedWhere.conditions = _
  rw [reads_scopedWhere, all_trashFilter hs _ rfl]
  exact congrArg _ (Conditions.reads_singleton _ hw)

/-- A statement has a text if it has a table. -/
theorem Select.isEmpty_sql (st : Style) (q : Select) :
    ((Statement.select q).build st).sql.isEmpty = q.table.isEmpty := by
  rw [Statement.isEmpty_sql]
  exact Select.isEmpty_template st q

/-- **A query with one condition** only filters. -/
theorem ModelQuery.onlyFilters_withTest (hs : s.IsNamed) :
    (withTest s which predicate).statement.OnlyFilters st := by
  have hmisuse : (withTest s which predicate).statement.misuse? = none := by
    rw [Select.misuse?_eq]
    unfold statement scopedWhere
    cases (withTest s which predicate).trashFilter <;> rfl
  have hsql : ((Statement.select (withTest s which predicate).statement).build st).sql.isEmpty =
      false := by
    rw [Select.isEmpty_sql]
    exact Bool.eq_false_iff.mpr fun h => hs.table (String.isEmpty_iff.mp h)
  exact ⟨rfl, Statement.check_eq_ok_iff.mpr ⟨hmisuse, hsql, rfl⟩⟩

end

/-! ## The two questions -/

/-- **A test on related rows** that names the parent column. In the subquery the table of the row at
    hand goes unseen if the related rows are of the same table. -/
theorem Predicate.holdsIn_related (st : Style) (store : Store) (table other : String) {key : String}
    (wanted : Bool) (row : Row) (hkey : isPlainName key = true)
    (hforeign : isPlainName (st.foreignKey table) = true) :
    Predicate.holdsIn st store table [(⟨table, none⟩, row)] (.related other none (some key) wanted) =
      (((store.rows other).any fun r => store.equal (r.value (st.foreignKey table))
        (if other = table then r.value key else row.value key)) == wanted) := by
  obtain ⟨own, key', hpair, -, -, -, hread⟩ := related_read_as_written st .wheres store ⟨table, none⟩
    [(⟨table, none⟩, row)] other none (some key) wanted
  rw [hread]
  cases hpair
  dsimp only [Mention.qualifier, Option.getD_none, Option.getD_some]
  -- the row of the subquery is in front, so it is what a qualifier means if its table goes by it
  congr 2
  funext r
  rw [valueIn_cons _ _ _ _ hforeign, if_pos rfl, valueIn_cons _ _ _ _ hkey, valueIn_cons _ _ _ _ hkey,
    if_pos rfl]

section

variable {m : Model α} (st : Style) (store : Store) {other : Schema} {row : Row} {id : Value}

/-- **Which rows have related rows**, by the query that asks for them. -/
theorem Model.takes_related (hm : m.IsNamed) (hforeign : isPlainName (st.foreignKey m.table) = true)
    (hrow : row.get? m.primaryKey = some id) (wanted : Bool) :
    (m.query.step (.related other wanted)).statement.takes st store row =
      (m.shows .excluded row &&
        (((store.rows other.table).any fun r => store.equal (r.value (st.foreignKey m.table))
          (if other.table = m.table then r.value m.primaryKey else id)) == wanted)) := by
  have hvalue : row.value m.primaryKey = id := by
    rw [Row.value, hrow]
    rfl
  have htest := Predicate.holdsIn_related st store m.table other.table wanted row hm.primaryKey hforeign
  rw [hvalue] at htest
  rw [m.step_related other wanted, ModelQuery.takes_withTest hm rfl, ← htest]
  rfl

/-- **The related rows**, by the query that fetches them. -/
theorem Model.rowsIn_hasMany (ho : other.IsNamed)
    (hforeign : isPlainName (st.foreignKey m.table) = true) {a : α} (hid : m.id? a = some id)
    (which : Trashed) :
    ((m.hasMany st other a none none).step (.trashed which)).statement.rowsIn st store =
      (store.rows other.table).filter fun r =>
        other.shows which r && store.equal (r.value (st.foreignKey m.table)) id := by
  rw [m.hasMany_default st other hid which]
  show (store.rows other.table).filter _ = _
  congr 1
  funext r
  rw [ModelQuery.takes_withTest ho rfl]
  show (other.shows which r && store.equal (valueIn [(⟨other.table, none⟩, r)] _) id) = _
  rw [valueIn_of_isPlainName _ _ hforeign]

/-- **With softly deleted rows** the second query finds rows if the first takes the row. In the subquery
    of the first the row at hand is seen, for the tables are two. -/
theorem Model.takes_related_of_ne (hm : m.IsNamed) (ho : other.IsNamed)
    (hforeign : isPlainName (st.foreignKey m.table) = true) {a : α} (hid : m.id? a = some id)
    (hrow : row.get? m.primaryKey = some id) (hother : other.table ≠ m.table) (wanted : Bool) :
    (m.query.step (.related other wanted)).statement.takes st store row =
      (m.shows .excluded row &&
        ((((m.hasMany st other a none none).step (.trashed .included)).statement.rowsIn st store).isEmpty
          != wanted)) := by
  have hsome : ((store.rows other.table).any fun r => store.equal
      (r.value (st.foreignKey m.table)) (if other.table = m.table then r.value m.primaryKey else id)) =
        !(((m.hasMany st other a none none).step (.trashed .included)).statement.rowsIn st
          store).isEmpty := by
    rw [rowsIn_hasMany st store ho hforeign hid, Bool.eq_iff_iff, List.any_eq_true, Bool.not_eq_true',
      List.isEmpty_eq_false_iff_exists_mem]
    simp only [List.mem_filter, Schema.shows_included, Bool.true_and, if_neg hother]
  rw [takes_related st store hm hforeign hrow, hsome]
  cases (((m.hasMany st other a none none).step (.trashed .included)).statement.rowsIn st
    store).isEmpty <;> cases wanted <;> rfl

/-- **The two questions about related rows.** Take a stored row and a value of the model with the same
    primary key, which is not null. Each query is fit to be run and only filters.

    The condition takes the row, if it is shown, when some row of the other table holds the key in the
    foreign key, or when none does. Whether that row is softly deleted does not matter; but if both
    models have one table, its own primary key is compared instead. The query for the related rows
    leaves out what the delete column of the other model hides.

    So if the tables are two, the condition tells whether the query finds rows, softly deleted ones
    included. Without them it tells so only if some row is found or no row is there. -/
theorem Model.related_and_hasMany (hm : m.IsNamed) (ho : other.IsNamed)
    (hforeign : isPlainName (st.foreignKey m.table) = true) {a : α} (hid : m.id? a = some id)
    (hrow : row.get? m.primaryKey = some id) :
    let asked (wanted : Bool) := (m.query.step (.related other wanted)).statement
    let fetched (which : Trashed) :=
      ((m.hasMany st other a none none).step (.trashed which)).statement
    (∀ wanted, (asked wanted).OnlyFilters st ∧ (asked wanted).takes st store row =
      (m.shows .excluded row &&
        (((store.rows other.table).any fun r => store.equal (r.value (st.foreignKey m.table))
          (if other.table = m.table then r.value m.primaryKey else id)) == wanted))) ∧
    (∀ which, (fetched which).OnlyFilters st ∧ (fetched which).rowsIn st store =
      (store.rows other.table).filter fun r =>
        other.shows which r && store.equal (r.value (st.foreignKey m.table)) id) ∧
    (other.table ≠ m.table → m.shows .excluded row = true →
      (∀ wanted, (asked wanted).takes st store row =
        (((fetched .included).rowsIn st store).isEmpty != wanted)) ∧
      ((∀ wanted, (asked wanted).takes st store row =
          (((fetched .excluded).rowsIn st store).isEmpty != wanted)) ↔
        ((fetched .included).rowsIn st store).isEmpty =
          ((fetched .excluded).rowsIn st store).isEmpty)) := by
  intro asked fetched
  refine ⟨?_, ?_, ?_⟩
  · intro wanted
    have hfilters : (asked wanted).OnlyFilters st := by
      show (m.query.step (.related other wanted)).statement.OnlyFilters st
      rw [m.step_related other wanted]
      exact ModelQuery.onlyFilters_withTest hm
    exact ⟨hfilters, takes_related st store hm hforeign hrow wanted⟩
  · intro which
    have hfilters : (fetched which).OnlyFilters st := by
      show ((m.hasMany st other a none none).step (.trashed which)).statement.OnlyFilters st
      rw [m.hasMany_default st other hid which]
      exact ModelQuery.onlyFilters_withTest ho
    exact ⟨hfilters, rowsIn_hasMany st store ho hforeign hid which⟩
  · intro hother hshown
    have hincluded : ∀ wanted, (asked wanted).takes st store row =
        (((fetched .included).rowsIn st store).isEmpty != wanted) := by
      intro wanted
      have htakes := takes_related_of_ne st store hm ho hforeign hid hrow hother wanted
      rw [hshown, Bool.true_and] at htakes
      exact htakes
    refine ⟨hincluded, ?_⟩
    constructor
    · intro h
      have htrue := (hincluded true).symm.trans (h true)
      simpa using htrue
    · intro h wanted
      rw [hincluded, h]

end

/-- Another user, whom Ann invited. -/
def Row.bob : Row := ⟨[("id", .int 2), ("name", .text "Bob"), ("user_id", .int 1)]⟩

/-- Ann has a task, and Bob had one, which is deleted. -/
def Store.annAndBob : Store where
  rows
    | "users" => [.ann, .bob]
    | "tasks" => [
        ⟨[("id", .int 10), ("user_id", .int 1), ("deleted_at", .null)]⟩,
        ⟨[("id", .int 11), ("user_id", .int 2), ("deleted_at", .text "2024-05-01 00:00:00")]⟩]
    | _ => []
  same := Value.agrees
  decides _ _ := false

theorem Style.foreignKey_users : ({ dialect := .sqlite } : Style).foreignKey "users" = "user_id" := by
  decide +kernel

theorem Model.isNamed_users : Model.users.IsNamed where
  table := by decide
  primaryKey := by decide
  softDelete := by
    intro column h
    cases h

theorem Model.isNamed_tasks : Model.tasks.IsNamed where
  table := by decide
  primaryKey := by decide
  softDelete := by
    intro column h
    cases h
    decide

theorem Model.isPlainName_foreignKey_users :
    isPlainName (({ dialect := .sqlite } : Style).foreignKey Model.users.table) = true := by
  show isPlainName (({ dialect := .sqlite } : Style).foreignKey "users") = true
  rw [Style.foreignKey_users]
  decide

/-- Of Ann the two queries tell the same. -/
theorem Model.related_and_hasMany_ann :
    isPlainName (({ dialect := .sqlite } : Style).foreignKey Model.users.table) = true ∧
      Model.users.id? (.ofPairs Row.ann.columns) = some (.int 1) ∧
      Row.ann.get? Model.users.primaryKey = some (.int 1) ∧
      Model.tasks.table ≠ Model.users.table ∧ Model.users.shows .excluded Row.ann = true ∧
      ∀ wanted, (Model.users.query.step (.related Model.tasks.toSchema wanted)).statement.takes
          { dialect := .sqlite } .annAndBob .ann =
        (((Model.users.hasMany { dialect := .sqlite } Model.tasks.toSchema (.ofPairs Row.ann.columns)
          none none).statement.rowsIn { dialect := .sqlite } .annAndBob).isEmpty != wanted) := by
  have hkey : ({ dialect := .sqlite } : Style).foreignKey Model.users.table = "user_id" :=
    Style.foreignKey_users
  have hrow : Row.ann.get? Model.users.primaryKey = some (.int 1) := rfl
  have htables : Model.tasks.table ≠ Model.users.table := by decide
  refine ⟨isPlainName_foreignKey_users, rfl, hrow, htables, rfl, ?_⟩
  obtain ⟨-, hfetched, hagree⟩ := Model.related_and_hasMany { dialect := .sqlite } .annAndBob
    isNamed_users isNamed_tasks isPlainName_foreignKey_users (a := .ofPairs Row.ann.columns) rfl hrow
  refine (hagree htables rfl).2.mpr ?_
  rw [(hfetched .included).2, (hfetched .excluded).2, hkey]
  decide

/-- **What the condition tells and the query does not**: Bob has a task, although it is deleted; and
    Ann has no user, although Bob refers to her. -/
theorem Model.related_unlike_hasMany :
    (Model.users.query.step (.related Model.tasks.toSchema true)).statement.takes
        { dialect := .sqlite } .annAndBob .bob = true ∧
      (Model.users.hasMany { dialect := .sqlite } Model.tasks.toSchema (.ofPairs Row.bob.columns)
        none none).statement.rowsIn { dialect := .sqlite } .annAndBob = [] ∧
      (Model.users.query.step (.related Model.users.toSchema true)).statement.takes
        { dialect := .sqlite } .annAndBob .ann = false ∧
      (Model.users.hasMany { dialect := .sqlite } Model.users.toSchema (.ofPairs Row.ann.columns)
        none none).statement.rowsIn { dialect := .sqlite } .annAndBob = [.bob] := by
  have hkey : ({ dialect := .sqlite } : Style).foreignKey Model.users.table = "user_id" :=
    Style.foreignKey_users
  have hplain := isPlainName_foreignKey_users
  have hann : Row.ann.get? Model.users.primaryKey = some (.int 1) := rfl
  have hbob : Row.bob.get? Model.users.primaryKey = some (.int 2) := rfl
  have hannId : Model.users.id? (.ofPairs Row.ann.columns) = some (.int 1) := rfl
  have hbobId : Model.users.id? (.ofPairs Row.bob.columns) = some (.int 2) := rfl
  refine ⟨?_, ?_, ?_, ?_⟩
  · rw [takes_related _ _ isNamed_users hplain hbob, hkey]
    decide
  · refine (rowsIn_hasMany _ _ isNamed_tasks hplain hbobId .excluded).trans ?_
    rw [hkey]
    decide
  · rw [takes_related _ _ isNamed_users hplain hann, hkey]
    decide
  · refine (rowsIn_hasMany _ _ isNamed_users hplain hannId .excluded).trans ?_
    rw [hkey]
    decide

end FluentSql
