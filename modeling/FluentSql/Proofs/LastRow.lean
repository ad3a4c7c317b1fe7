import FluentSql.Proofs.Counting
import FluentSql.Proofs.OrderedMaps
import Mathlib.Data.List.Sort
/-!
# `FluentSql.Proofs.LastRow` — which row is the last one

The last row of a query is asked for as the first row in the order of the query with the primary key
behind it, descending. A column is ordered by once, so the key is not always the last column of the
order: a call that ordered by it before gave it its place. The row has the greatest key where this place
is the first one.

* `Collation.mayPrecede` — which of two rows may stand before the other in an order;
* `ModelQuery.orders_last` — the order of the statement, from the calls on the query;
* `Model.last_follows_orders` — which row is answered, and when it is the one with the greatest key.
-/

namespace FluentSql

variable {σ α : Type}

/-! ## The order of rows -/

/-- **How a database sorts**: what raw SQL comes to in a row, and which values may stand before which
    others when they ascend. -/
structure Collation where
  rawValue : String → Row → Value
  le : Value → Value → Bool
  le_total : ∀ v w, le v w = true ∨ le w v = true
  le_trans : ∀ {u v w}, le u v = true → le v w = true → le u w = true

namespace Collation

variable (o : Collation) (table : String)

/-- What a column comes to in a row of a table. -/
def valueOf (row : Row) : Column → Value
  | .name column => valueIn [(⟨table, none⟩, row)] column
  | .raw sql => o.rawValue sql row

/-- Which values may stand before which others in a direction. -/
def leBy : Direction → Value → Value → Bool
  | .ascending, v, w => o.le v w
  | .descending, v, w => o.le w v

/-- **Whether a row may stand before another** in the order of a list: the first column in which one of
    them has to stand before the other decides. -/
def mayPrecede : List (Column × Direction) → Row → Row → Bool
  | [], _, _ => true
  | (column, direction) :: orders, row, other =>
    o.leBy direction (o.valueOf table row column) (o.valueOf table other column) &&
      (!o.leBy direction (o.valueOf table other column) (o.valueOf table row column) ||
        mayPrecede orders row other)

variable {o table}

theorem leBy_total (direction : Direction) (v w : Value) :
    o.leBy direction v w = true ∨ o.leBy direction w v = true := by
  cases direction with
  | ascending => exact o.le_total v w
  | descending => exact o.le_total w v

theorem leBy_trans {direction : Direction} {u v w : Value} (huv : o.leBy direction u v = true)
    (hvw : o.leBy direction v w = true) : o.leBy direction u w = true := by
  cases direction with
  | ascending => exact o.le_trans huv hvw
  | descending => exact o.le_trans hvw huv

theorem mayPrecede_cons {column : Column} {direction : Direction}
    {orders : List (Column × Direction)} {row other : Row} :
    o.mayPrecede table ((column, direction) :: orders) row other = true ↔
      o.leBy direction (o.valueOf table row column) (o.valueOf table other column) = true ∧
        (o.leBy direction (o.valueOf table other column) (o.valueOf table row column) = true →
          o.mayPrecede table orders row other = true) := by
  rw [mayPrecede, Bool.and_eq_true, Bool.or_eq_true, Bool.not_eq_true', ← Bool.not_eq_true,
    imp_iff_not_or]

/-- Of two rows, one may stand before the other. -/
theorem mayPrecede_total (orders : List (Column × Direction)) (row other : Row) :
    o.mayPrecede table orders row other = true ∨ o.mayPrecede table orders other row = true := by
  induction orders with
  | nil => exact .inl rfl
  | cons order orders ih =>
    obtain ⟨column, direction⟩ := order
    simp only [mayPrecede_cons]
    rcases leBy_total (o := o) direction (o.valueOf table row column) (o.valueOf table other column)
      with hle | hle
    · by_cases hge : o.leBy direction (o.valueOf table other column) (o.valueOf table row column) = true
      · exact ih.imp (fun h => ⟨hle, fun _ => h⟩) fun h => ⟨hge, fun _ => h⟩
      · exact .inl ⟨hle, fun h => absurd h hge⟩
    · by_cases hge : o.leBy direction (o.valueOf table row column) (o.valueOf table other column) = true
      · exact ih.imp (fun h => ⟨hge, fun _ => h⟩) fun h => ⟨hle, fun _ => h⟩
      · exact .inr ⟨hle, fun h => absurd h hge⟩

theorem mayPrecede_trans {orders : List (Column × Direction)} {first second third : Row}
    (h : o.mayPrecede table orders first second = true)
    (h' : o.mayPrecede table orders second third = true) :
    o.mayPrecede table orders first third = true := by
  induction orders with
  | nil => rfl
  | cons order orders ih =>
    obtain ⟨column, direction⟩ := order
    obtain ⟨hle, hrest⟩ := mayPrecede_cons.mp h
    obtain ⟨hle', hrest'⟩ := mayPrecede_cons.mp h'
    refine mayPrecede_cons.mpr ⟨leBy_trans hle hle', fun hge => ?_⟩
    -- the third row may stand before the first one, so all three are the same in this column
    exact ih (hrest (leBy_trans hle' hge)) (hrest' (leBy_trans hge hle))

theorem mayPrecede_refl (orders : List (Column × Direction)) (row : Row) :
    o.mayPrecede table orders row row = true :=
  (mayPrecede_total orders row row).elim id id

end Collation

/-- **The ORDER BY clause sorts**: of two rows that it puts out, the earlier one may stand before the
    later one. -/
def Evaluation.SortsBy (v : Evaluation) (o : Collation) (table : String) : Prop :=
  ∀ orders rows, (v.arrange orders rows).Pairwise fun row other =>
    o.mayPrecede table orders.entries row other = true

/-- The first of some sorted rows may stand before each of them. -/
theorem Collation.mayPrecede_of_head? {o : Collation} {table : String}
    {orders : List (Column × Direction)} {sorted : List Row} {row : Row}
    (hsorted : sorted.Pairwise fun row other => o.mayPrecede table orders row other = true)
    (hrow : sorted.head? = some row) : ∀ other ∈ sorted, o.mayPrecede table orders row other = true := by
  obtain ⟨rest, rfl⟩ := List.head?_eq_some_iff.mp hrow
  intro other hother
  rcases List.mem_cons.mp hother with rfl | hrest
  · exact mayPrecede_refl orders other
  · exact (List.pairwise_cons.mp hsorted).1 other hrest

/-! ## The order of the statement -/

/-- What a call orders by. -/
def ModelStep.ordering? : ModelStep → Option (Column × Direction)
  | .order column direction => some (column, direction)
  | _ => none

namespace ModelQuery

theorem orders_step (q : ModelQuery) (step : ModelStep) :
    (q.step step).select.orders = q.select.orders.insertAll step.ordering?.toList := by
  cases step <;> rfl

theorem orders_steps (q : ModelQuery) (steps : List ModelStep) :
    (steps.foldl step q).select.orders =
      q.select.orders.insertAll (steps.filterMap ModelStep.ordering?) := by
  induction steps generalizing q with
  | nil => rfl
  | cons step steps ih =>
    rw [List.foldl_cons, ih, orders_step, ← OrderedMap.insertAll_append]
    cases step <;> rfl

/-- **The order of the statement for the last row**: that of the calls, and then the primary key,
    descending. -/
theorem orders_last (m : Model α) (steps : List ModelStep) :
    (m.chained steps).lastStatement.orders =
      .ofList (steps.filterMap ModelStep.ordering? ++ [(.name m.primaryKey, .descending)]) := by
  have hkey : (m.chained steps).schema = m.toSchema := m.query.schema_steps steps
  have hnone : m.query.select.orders = .empty := by
    unfold Model.query ofSchema
    rw [Select.target_empty]
    rfl
  have horders := orders_steps m.query steps
  rw [hnone] at horders
  show (m.chained steps).select.orders.insert (.name (m.chained steps).schema.primaryKey) _ = _
  rw [hkey, OrderedMap.ofList_concat, OrderedMap.ofList, ← horders]
  rfl

end ModelQuery

/-- **When an order begins with a column in a direction** that was ordered by last: nothing else was
    ordered by before, or the column was ordered by first. -/
theorem OrderClause.head?_ofList_concat (calls : List (Column × Direction)) (key : Column)
    (direction : Direction) :
    (OrderedMap.ofList (calls ++ [(key, direction)])).entries.head? = some (key, direction) ↔
      ∀ first, calls.head? = some first → first.1 = key := by
  rw [OrderedMap.head?_entries, OrderedMap.keys_ofList]
  cases calls with
  | nil => simp [OrderedMap.get?_ofList, OrderedMap.lookup, List.eraseDups_cons]
  | cons first calls =>
    obtain ⟨column, direction'⟩ := first
    rw [List.cons_append, List.map_cons, List.eraseDups_cons, List.head?_cons, Option.bind_some,
      OrderedMap.get?_ofList, ← List.cons_append, List.reverse_append]
    simp only [List.reverse_singleton, List.singleton_append, OrderedMap.lookup, List.head?_cons,
      Option.some.injEq, forall_eq']
    constructor
    · intro h
      obtain ⟨_, -, heq⟩ := Option.map_eq_some_iff.mp h
      exact congrArg Prod.fst heq
    · rintro rfl
      rw [if_pos rfl]
      rfl

/-! ## The row that is answered -/

namespace ModelQuery

variable {q : ModelQuery}

theorem isFlat_lastStatement (h : q.IsFlat) : q.lastStatement.IsFlat := by
  have haggregates : q.lastStatement.aggregates = {} := congrArg Select.aggregates h.clauses
  constructor
  · rw [haggregates]
    exact congrArg (fun select : Select => { select with
      wheres := q.scopedWhere, orders := q.lastStatement.orders, limit := some 1 }) h.clauses
  · intro entry hentry
    rw [haggregates] at hentry
    cases hentry

theorem misuse?_lastStatement (q : ModelQuery) : q.lastStatement.misuse? = q.statement.misuse? := by
  rw [Select.misuse?_eq, Select.misuse?_eq]
  rfl

/-- **The last row** is the first one in the order, after those that OFFSET leaves out. -/
theorem head?_answer_lastStatement (h : q.IsFlat) (st : Style) (v : Evaluation) :
    (q.lastStatement.answer st v).head? =
      (v.arrange q.lastStatement.orders (q.statement.rowsIn st v.toStore))[q.select.skipped]? := by
  have haggregates : q.lastStatement.aggregates = {} := congrArg Select.aggregates h.clauses
  have hrows : q.lastStatement.rowsIn st v.toStore = q.statement.rowsIn st v.toStore := rfl
  have hone : ∀ rows : List Row, (q.lastStatement.paged rows).head? = rows[q.select.skipped]? := by
    intro rows
    show ((rows.drop q.select.skipped).take 1).head? = _
    rw [List.head?_take, if_neg Nat.one_ne_zero, List.head?_drop]
  unfold Select.answer Select.collected
  rw [haggregates, hrows]
  exact hone _

end ModelQuery

/-- **Fetching one row**: the first row of the answer is read, if there is one. -/
theorem Model.answer_fetch {c : Connection σ} {e : Executor σ} (hc : c.executor = some e)
    {v : Evaluation} {q : Select} (session : Session σ) (m : Model α) (hmisuse : q.misuse? = none)
    (htable : q.table ≠ "") (h : e.Answers c.style v q) :
    ((m.fetch c q).outcome session).1 = m.ofRow? (q.answer c.style v).head? := by
  have hfit : (Statement.select q).misuse? = none := hmisuse
  have hfetch : ((c.fetchOne (.select q)).outcome session).1 = .ok (q.answer c.style v).head? :=
    Connection.answer_perform hc hfit (Select.sql_ne_empty c.style htable)
      (h.first session.state)
  obtain ⟨after, hafter⟩ := Run.answer_bind hfetch fun row => Run.ofExcept (m.ofRow? row)
  unfold fetch
  rw [hafter, Run.outcome_ofExcept]

/-- **The last row follows the calls that ordered the query.** The statement orders by the columns of
    these calls and the primary key, each at the place of the first call that ordered by it and in the
    direction of the last one, which for the key is descending. So it begins with the key if and only if
    no call ordered the query before, or the first one that did ordered by the key.

    In a query that neither joins nor groups, whose statement is answered by what it means, the rows that
    the conditions take are sorted so, and the first one is read, or the one after those that OFFSET
    leaves out. It has the greatest key if the order begins with the key and nothing is left out. -/
theorem Model.last_follows_orders {c : Connection σ} {e : Executor σ} (hc : c.executor = some e)
    (m : Model α) (hm : m.IsNamed) (o : Collation) (v : Evaluation) (hv : v.SortsBy o m.table)
    (steps : List ModelStep) (hlast : e.Answers c.style v (m.chained steps).lastStatement)
    (session : Session σ) :
    let q := m.chained steps
    let calls := steps.filterMap ModelStep.ordering?
    let key := Column.name m.primaryKey
    let orders := q.lastStatement.orders
    let taken := q.statement.rowsIn c.style v.toStore
    let sorted := v.arrange orders taken
    orders.keys = (calls.map Prod.fst ++ [key]).eraseDups ∧
    (∀ column, orders.get? column =
      if key = column then some .descending else OrderedMap.lookup column calls.reverse) ∧
    (orders.entries.head? = some (key, .descending) ↔
      ∀ first, calls.head? = some first → first.1 = key) ∧
    ((∀ step ∈ steps, step.isFlat = true) →
      q.lastStatement.IsFlat ∧
      match q.statement.misuse? with
      | some misuse => ((m.last c q).outcome session).1 = .error (.misuse misuse)
      | none => sorted.Perm taken ∧
          sorted.Pairwise (fun row other => o.mayPrecede m.table orders.entries row other = true) ∧
          ((m.last c q).outcome session).1 = m.ofRow? sorted[q.select.skipped]? ∧
          (q.select.skipped = 0 → (∀ first, calls.head? = some first → first.1 = key) →
            (sorted[q.select.skipped]? = none ↔ taken = []) ∧
            ∀ row, sorted[q.select.skipped]? = some row →
              row ∈ taken ∧
                ∀ other ∈ taken, o.le (other.value m.primaryKey) (row.value m.primaryKey) = true)) := by
  intro q calls key orders taken sorted
  have horders : orders = .ofList (calls ++ [(key, .descending)]) := ModelQuery.orders_last m steps
  have hhead : orders.entries.head? = some (key, .descending) ↔
      ∀ first, calls.head? = some first → first.1 = key := by
    rw [horders]
    exact OrderClause.head?_ofList_concat calls key .descending
  refine ⟨?_, ?_, hhead, fun hsteps => ?_⟩
  · rw [horders, OrderedMap.keys_ofList, List.map_append]
    rfl
  · intro column
    rw [horders, OrderedMap.get?_ofList, List.reverse_append]
    rfl
  have hflat : q.IsFlat := (ModelQuery.isFlat_ofSchema m.toSchema).steps hsteps
  have htable : q.lastStatement.table ≠ "" := by
    have hschema : q.schema = m.toSchema := m.query.schema_steps steps
    rw [show q.lastStatement.table = q.schema.table from hflat.table, hschema]
    exact hm.table
  refine ⟨ModelQuery.isFlat_lastStatement hflat, ?_⟩
  cases hmisuse : q.statement.misuse? with
  | some misuse =>
    have hfetch : (c.fetchOne (.select q.lastStatement)).outcome session =
        (.error (.misuse misuse), session) :=
      Connection.outcome_perform_of_error (Connection.check_of_misuse (s := .select q.lastStatement)
        (q.misuse?_lastStatement.trans hmisuse)) _ session
    exact congrArg Prod.fst (Run.outcome_bind_of_error hfetch)
  | none =>
    have hperm : sorted.Perm taken := v.perm_arrange orders taken
    refine ⟨hperm, hv orders taken, ?_, fun hskipped hfirst => ?_⟩
    · rw [← ModelQuery.head?_answer_lastStatement hflat]
      exact answer_fetch hc session m (q.misuse?_lastStatement.trans hmisuse) htable hlast
    rw [hskipped, ← List.head?_eq_getElem?]
    constructor
    · rw [List.head?_eq_none_iff]
      exact ⟨fun hnil => (hperm.symm.trans (.of_eq hnil)).eq_nil,
        fun hnil => (hperm.trans (.of_eq hnil)).eq_nil⟩
    · intro row hrow
      refine ⟨hperm.subset (List.mem_of_head? hrow), fun other hother => ?_⟩
      have hprecedes := Collation.mayPrecede_of_head? (hv orders taken) hrow other
        (hperm.symm.subset hother)
      obtain ⟨rest, hrest⟩ := List.head?_eq_some_iff.mp (hhead.mpr hfirst)
      rw [hrest, Collation.mayPrecede_cons] at hprecedes
      have hle := hprecedes.1
      simp only [Collation.leBy, Collation.valueOf, key,
        valueIn_of_isPlainName _ _ hm.primaryKey] at hle
      exact hle

/-! ## Users in order -/

/-- **Where a value stands** among all values: nulls first, then whole numbers, floats, texts and
    bytes. Whole numbers count from the least 64-bit one. -/
def Value.sortKey : Value → List Nat
  | .null => [0]
  | .bool b => [1, 0x8000000000000000 + b.toNat]
  | .int n => [1, (0x8000000000000000 + n.toInt).toNat]
  | .float x => [2, x.bits.toNat]
  | .text s => 3 :: s.toList.map Char.toNat
  | .blob bytes => 4 :: bytes.map UInt8.toNat

/-- Values ascend as they stand among all values: the first number in which they differ decides. -/
def Collation.bySortKey : Collation where
  rawValue _ _ := .null
  le v w := (List.compareLex compare v.sortKey w.sortKey).isLE
  le_total v w := by
    have hswap : List.compareLex compare w.sortKey v.sortKey =
        (List.compareLex compare v.sortKey w.sortKey).swap := Std.OrientedCmp.eq_swap
    rw [hswap]
    cases List.compareLex compare v.sortKey w.sortKey with
    | lt => exact .inl rfl
    | eq => exact .inl rfl
    | gt => exact .inr rfl
  le_trans := Std.TransCmp.isLE_trans

/-- The same rows, with an ORDER BY clause that sorts those of a table. -/
def Evaluation.sorting (v : Evaluation) (o : Collation) (table : String) : Evaluation where
  toStore := v.toStore
  arrange orders rows := rows.insertionSort fun row other => o.mayPrecede table orders.entries row other
  perm_arrange _ rows := List.perm_insertionSort _ rows
  aggregate := v.aggregate

theorem Evaluation.sortsBy_sorting (v : Evaluation) (o : Collation) (table : String) :
    (v.sorting o table).SortsBy o table := by
  intro orders rows
  have : Std.Total fun row other => o.mayPrecede table orders.entries row other = true :=
    ⟨Collation.mayPrecede_total orders.entries⟩
  have : IsTrans Row fun row other => o.mayPrecede table orders.entries row other = true :=
    ⟨fun _ _ _ => Collation.mayPrecede_trans⟩
  exact List.pairwise_insertionSort _ rows

theorem Executor.answers_answering_self (st : Style) (v : Evaluation) (q : Select) :
    (answering st v [q]).Answers st v q := by
  exact answers_of_fetchAll (fun _ _ => rfl) fun state => by simp [answering]

/-- Four users that ORDER BY sorts. -/
def Evaluation.sortedUsers : Evaluation := fourUsers.sorting .bySortKey "users"

/-- A connection to these users, for the last one in a chain. -/
def Connection.toSortedUsers (steps : List ModelStep) : Connection Unit where
  executor := some (.answering { dialect := .sqlite } .sortedUsers
    [(Model.users.chained steps).lastStatement])
  style := { dialect := .sqlite }

/-- The users called Ann, by key and then by name. -/
def ModelStep.annsByKey : List ModelStep :=
  [.filter (.compare .and (.name "name") .equal (.text "Ann")), .order (.name "id") .ascending,
    .order (.name "name") .ascending]

/-- The key was ordered by first, and the last of them is the one with the greatest key. -/
theorem Model.annsByKey_last :
    let q := Model.users.chained ModelStep.annsByKey
    (∀ step ∈ ModelStep.annsByKey, step.isFlat = true) ∧ q.statement.misuse? = none ∧
      Evaluation.sortedUsers.SortsBy .bySortKey Model.users.table ∧
      q.lastStatement.orders.entries.head? = some (.name "id", .descending) ∧
      ((Model.users.last (.toSortedUsers ModelStep.annsByKey) q).outcome
        { state := (), now := default }).1 = .ok (some (.ofPairs (Row.user 3 "Ann").columns)) := by
  intro q
  have hflat : ∀ step ∈ ModelStep.annsByKey, step.isFlat = true := by decide
  have hsorts : Evaluation.sortedUsers.SortsBy .bySortKey Model.users.table :=
    Evaluation.sortsBy_sorting _ _ _
  obtain ⟨-, -, hhead, hruns⟩ := Model.last_follows_orders
    (c := .toSortedUsers ModelStep.annsByKey) rfl Model.users isNamed_users .bySortKey .sortedUsers
    hsorts ModelStep.annsByKey (Executor.answers_answering_self _ _ _) { state := (), now := default }
  obtain ⟨-, hrun⟩ := hruns hflat
  have hmisuse : q.statement.misuse? = none := by decide
  rw [show (Model.users.chained ModelStep.annsByKey).statement.misuse? = none from hmisuse] at hrun
  obtain ⟨-, -, hlast, -⟩ := hrun
  refine ⟨hflat, hmisuse, hsorts, hhead.mpr (by decide), hlast.trans ?_⟩
  exact congrArg Model.users.ofRow? (show _ = some (.user 3 "Ann") by decide +kernel)

/-- All users by name. -/
def ModelStep.byName : List ModelStep := [.order (.name "name") .ascending]

/-- **The last of them is not the one with the greatest key**: the statement orders by the name first,
    and user four comes behind user three. -/
theorem Model.byName_last_not_greatest :
    let q := Model.users.chained ModelStep.byName
    Evaluation.sortedUsers.SortsBy .bySortKey Model.users.table ∧
      ((Statement.select q.lastStatement).build { dialect := .sqlite }).sql =
        "SELECT * FROM `users` ORDER BY `name` ASC, `id` DESC LIMIT :users_limit_0" ∧
      q.lastStatement.orders.entries = [(.name "name", .ascending), (.name "id", .descending)] ∧
      ((Model.users.last (.toSortedUsers ModelStep.byName) q).outcome
        { state := (), now := default }).1 = .ok (some (.ofPairs (Row.user 3 "Ann").columns)) ∧
      Row.user 4 "Cy" ∈ q.statement.rowsIn { dialect := .sqlite } Evaluation.sortedUsers.toStore ∧
      Collation.bySortKey.le ((Row.user 4 "Cy").value "id") ((Row.user 3 "Ann").value "id") = false := by
  intro q
  have hmisuse : q.lastStatement.misuse? = none := by decide
  have htable : q.lastStatement.table ≠ "" := by decide
  have hlast := answer_fetch (c := .toSortedUsers ModelStep.byName) rfl { state := (), now := default }
    Model.users hmisuse htable (Executor.answers_answering_self _ .sortedUsers _)
  refine ⟨Evaluation.sortsBy_sorting _ _ _, ?_, ?_, hlast.trans ?_, ?_, ?_⟩
  · decide +kernel
  · decide
  · exact congrArg Model.users.ofRow? (show _ = some (.user 3 "Ann") by decide +kernel)
  · decide +kernel
  · decide

end FluentSql
