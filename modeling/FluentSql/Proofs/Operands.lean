import FluentSql.Proofs.Outline
/-!
# `FluentSql.Proofs.Operands` — the parameters of a statement are its operands

`Statement.operands` reads the values of a statement off its clauses, from left to right: the values
to set, the conditions, the conditions on groups, the union branches, the numbers of rows; for an
insertion, row after row, each row in the order of the columns. Nothing of rendering is in it.

The parameters of a finished statement are these operands, counted from zero, if no raw fragment
brings parameters of its own (`Statement.build_binds_operands`).
-/

namespace FluentSql

open Template

/-! ## Operands -/

/-- The values a column is compared with. -/
def Operand.values : Operand → List Value
  | .single v => [v]
  | .pair low high => [low, high]
  | .list values => values
  | .null => []

/-- A number of rows as an operand. -/
def rowCountOperands (table column : String) (n : Option UInt64) : List Slot :=
  (n.map fun n => ⟨table, column, .ofUnsigned n⟩).toList

mutual

/-- **The operands of a test** in a statement on `table`. -/
def Predicate.operands (table : String) : Predicate → List Slot
  | .compare column _ operand => operand.values.map fun v => ⟨table, column.text, v⟩
  | .raw _ _ => []
  | .related _ _ _ _ => []
  | .subquery query _ => Select.operands query
  | .group conditions => Conditions.operands table conditions

/-- The operands of conditions. -/
def Conditions.operands (table : String) : List Condition → List Slot
  | [] => []
  | ⟨_, predicate⟩ :: conditions =>
    Predicate.operands table predicate ++ Conditions.operands table conditions

/-- **The operands of a SELECT statement**; without a table there are none. -/
def Select.operands : Select → List Slot
  | ⟨table, _, _, _, _, ⟨conditions, _⟩, _, havings, _, _, unions, limit, offset, _⟩ =>
    if table.isEmpty then []
    else
      Conditions.operands table conditions ++ Conditions.operands table havings
        ++ Select.operandsOfBranches unions ++ rowCountOperands table "limit" limit
        ++ rowCountOperands table "offset" offset

/-- The operands of union branches. -/
def Select.operandsOfBranches : List UnionBranch → List Slot
  | [] => []
  | ⟨_, query⟩ :: unions => Select.operands query ++ Select.operandsOfBranches unions

end

/-- The columns of an insertion: those of its first row. -/
def Insert.columns (q : Insert) : List String := (q.rows.head?.map OrderedMap.keys).getD []

/-- The operands of a row: its values under some columns, null where it has none. -/
def Insert.rowOperands (table : String) (columns : List String) (row : Payload) : List Slot :=
  columns.map fun column => ⟨table, column, (row.get? column).getD .null⟩

/-- The operands of an insertion, row after row. -/
def Insert.operands (q : Insert) : List Slot :=
  if q.table.isEmpty then [] else q.rows.flatMap (Insert.rowOperands q.table q.columns)

/-- The operands of an update: the values to set, then those of its conditions. -/
def Update.operands (q : Update) : List Slot :=
  if q.table.isEmpty then []
  else
    q.data.entries.map (fun (column, value) => ⟨q.table, column, value⟩)
      ++ Conditions.operands q.table q.wheres.conditions

/-- The operands of a removal. -/
def Delete.operands (q : Delete) : List Slot :=
  if q.table.isEmpty then [] else Conditions.operands q.table q.wheres.conditions

/-- **The operands of a statement**, from left to right. -/
def Statement.operands : Statement → List Slot
  | .select q => q.operands
  | .insert q => q.operands
  | .update q => q.operands
  | .delete q => q.operands
  | .raw _ => []

/-! ## Raw fragments without parameters -/

mutual

/-- Whether the raw fragments of a test come without parameters. -/
def Predicate.isBare : Predicate → Bool
  | .compare _ _ _ => true
  | .raw _ params => params.isEmpty
  | .related _ _ _ _ => true
  | .subquery query _ => Select.isBare query
  | .group conditions => Conditions.areBare conditions

/-- Whether the raw fragments of conditions come without parameters. -/
def Conditions.areBare : List Condition → Bool
  | [] => true
  | ⟨_, predicate⟩ :: conditions => Predicate.isBare predicate && Conditions.areBare conditions

/-- **Whether the raw fragments of a SELECT statement come without parameters.** -/
def Select.isBare : Select → Bool
  | ⟨_, _, _, _, _, ⟨conditions, _⟩, _, havings, _, _, unions, _, _, _⟩ =>
    Conditions.areBare conditions && Conditions.areBare havings && Select.areBareBranches unions

/-- Whether the raw fragments of union branches come without parameters. -/
def Select.areBareBranches : List UnionBranch → Bool
  | [] => true
  | ⟨_, query⟩ :: unions => Select.isBare query && Select.areBareBranches unions

end

/-- **Whether the raw fragments of a statement come without parameters.** -/
def Statement.isBare : Statement → Bool
  | .select q => q.isBare
  | .insert _ => true
  | .update q => Conditions.areBare q.wheres.conditions
  | .delete q => Conditions.areBare q.wheres.conditions
  | .raw q => q.params.isEmpty

theorem Params.eq_empty_of_isEmpty {ps : Params} (h : ps.isEmpty = true) : ps = .empty := by
  obtain ⟨⟨entries⟩⟩ := ps
  have he : entries = [] := List.isEmpty_iff.mp h
  rw [he]
  rfl

/-! ## Slots are operands -/

theorem slots_compareTemplate (st : Style) (kind : ClauseKind) (table : String) (column : Column)
    (op : Operator) (operand : Operand) :
    slots (compareTemplate st kind table column op operand) =
      operand.values.map fun v => ⟨table, column.text, v⟩ := by
  cases operand with
  | single v => simp [compareTemplate, Operand.values]
  | pair low high => simp [compareTemplate, Operand.values]
  | list values =>
    cases values with
    | nil => simp [compareTemplate, Operand.values]
    | cons v values =>
      simp only [compareTemplate, slots_append, slots_text, slots_joined, Operand.values,
        List.flatMap_map, slots_slot, slots_nil, List.nil_append, List.append_nil]
      exact List.map_eq_flatMap.symm
  | null => simp [compareTemplate, Operand.values]

theorem slots_of_isEmpty {t : Template} (h : t.isEmpty = true) : slots t = [] := by
  refine List.filterMap_eq_nil_iff.mpr fun a ha => ?_
  have hv : (!a.isVisible) = true := List.all_eq_true.mp h a ha
  cases a with
  | char c => rfl
  | slot _ _ _ => cases hv
  | given _ => rfl

theorem slots_rowCountTemplate (keyword table column : String) (n : Option UInt64) :
    (n.map (rowCountTemplate keyword table column)).toList.flatMap slots =
      rowCountOperands table column n := by
  cases n <;> simp [rowCountTemplate, rowCountOperands]

mutual

/-- The slots of a test are its operands. -/
theorem Predicate.slots_template (st : Style) (kind : ClauseKind) (table : String) :
    ∀ predicate : Predicate,
      slots (predicate.template st kind table) = predicate.operands table
  | .compare column op operand => by
    simp only [Predicate.template, Predicate.operands]
    exact slots_compareTemplate st kind table column op operand
  | .raw sql params => by simp [Predicate.template, Predicate.operands]
  | .related other column parent wanted => by simp [Predicate.template, Predicate.operands]
  | .subquery query wanted => by
    simp only [Predicate.template, Predicate.operands, slots_enclosed]
    exact Select.slots_template st query
  | .group conditions => by
    simp only [Predicate.template, Predicate.operands, slots_enclosed]
    exact Conditions.slots_templateFrom st kind table false conditions

/-- The slots of conditions are their operands, whether something was written before or not. -/
theorem Conditions.slots_templateFrom (st : Style) (kind : ClauseKind) (table : String)
    (started : Bool) : ∀ conditions : List Condition,
      slots (Conditions.templateFrom st kind table started conditions) =
        Conditions.operands table conditions
  | [] => rfl
  | ⟨joiner, predicate⟩ :: conditions => by
    have hp := Predicate.slots_template st kind table predicate
    simp only [Conditions.templateFrom, Conditions.operands]
    split
    · rw [slots_append, hp, Conditions.slots_templateFrom st kind table started conditions]
    · rw [slots_append, slots_append, hp,
        Conditions.slots_templateFrom st kind table true conditions]
      split <;> simp

/-- **The slots of a SELECT statement** are its operands. -/
theorem Select.slots_template (st : Style) : ∀ q : Select, slots (q.template st) = q.operands
  | ⟨table, called, columns, distinct, joins, ⟨conditions, inConditions⟩, groups, havings, orders,
      aggregates, unions, limit, offset, inTable⟩ => by
    have hw := Conditions.slots_templateFrom st .wheres table false conditions
    have hh := Conditions.slots_templateFrom st .having table false havings
    have hu := Select.slots_branchTemplates st unions
    simp only [Select.template, Select.operands]
    split
    · rfl
    · simp only [slots_squeeze, slots_joined, List.flatMap_append, List.flatMap_cons,
        List.flatMap_nil, slots_text, slots_headed, slots_rowCountTemplate, hw, hh, hu,
        List.nil_append, List.append_nil, List.append_assoc]

/-- The slots of union branches are their operands; a branch without a table has none. -/
theorem Select.slots_branchTemplates (st : Style) : ∀ unions : List UnionBranch,
    (Select.branchTemplates st unions).flatMap slots = Select.operandsOfBranches unions
  | [] => rfl
  | ⟨all, query⟩ :: unions => by
    have hq := Select.slots_template st query
    have hu := Select.slots_branchTemplates st unions
    simp only [Select.branchTemplates, Select.operandsOfBranches]
    split
    · -- a branch that shows nothing is left out, but then it has no slots to lose
      rename_i hempty
      rw [hu, ← hq, slots_of_isEmpty hempty, List.nil_append]
    · rw [List.flatMap_cons, slots_headed, hq, hu]

end

theorem WhereClause.slots_template (st : Style) (table : String) (clause : WhereClause) :
    slots (clause.template st table) = Conditions.operands table clause.conditions := by
  rw [WhereClause.template, slots_headed]
  exact Conditions.slots_templateFrom st .wheres table false clause.conditions

theorem Insert.slots_rowTemplate (table : String) (columns : List String) (row : Payload) :
    slots (Insert.rowTemplate table columns row) = Insert.rowOperands table columns row := by
  simp only [Insert.rowTemplate, slots_append, slots_text, slots_joined, Insert.rowOperands,
    List.flatMap_map, slots_slot, slots_nil, List.nil_append, List.append_nil]
  exact List.map_eq_flatMap.symm

theorem Insert.slots_template (st : Style) (q : Insert) : slots (q.template st) = q.operands := by
  simp only [Insert.template, Insert.operands, Insert.columns]
  split
  · rfl
  · split
    · -- without columns the rows are not looked at, whatever they hold
      rename_i hnone
      rw [hnone]
      have hrows : (q.rows.flatMap (Insert.rowOperands q.table [])) = [] := by
        simp [Insert.rowOperands]
      rw [hrows]
      split <;> exact slots_text _
    · simp only [slots_squeeze, slots_append, slots_text, slots_joined, List.flatMap_map,
        Insert.slots_rowTemplate, List.nil_append]

theorem Update.slots_template (st : Style) (q : Update) : slots (q.template st) = q.operands := by
  simp only [Update.template, Update.operands]
  split
  · rfl
  · simp only [slots_squeeze, slots_append, slots_text, slots_joined, List.flatMap_map,
      WhereClause.slots_template, Update.assignmentTemplate, slots_slot, slots_nil,
      List.nil_append, List.append_nil]
    rw [List.map_eq_flatMap]

theorem Delete.slots_template (st : Style) (q : Delete) : slots (q.template st) = q.operands := by
  simp only [Delete.template, Delete.operands]
  split
  · rfl
  · simp only [slots_squeeze, slots_append, slots_text, WhereClause.slots_template,
      List.nil_append]

/-- **The slots of a statement are its operands.** -/
theorem Statement.slots_template (st : Style) (s : Statement) :
    slots (s.template st) = s.operands := by
  cases s with
  | select q => exact Select.slots_template st q
  | insert q => exact Insert.slots_template st q
  | update q => exact Update.slots_template st q
  | delete q => exact Delete.slots_template st q
  | raw q => exact slots_text q.sql

/-! ## Bare statements have bare templates -/

theorem isBare_compareTemplate (st : Style) (kind : ClauseKind) (table : String) (column : Column)
    (op : Operator) (operand : Operand) :
    IsBare (compareTemplate st kind table column op operand) := by
  cases operand with
  | single v => exact (isBare_text _).append (isBare_slot)
  | pair low high =>
    exact (((isBare_text _).append (isBare_slot)).append (isBare_text _)).append (isBare_slot)
  | list values =>
    cases values with
    | nil => exact isBare_text _
    | cons v values =>
      refine ((isBare_text _).append (isBare_joined fun t ht => ?_)).append (isBare_text _)
      obtain ⟨w, -, rfl⟩ := List.mem_map.mp ht
      exact isBare_slot
  | null => exact isBare_text _

theorem isBare_rowCountTemplate (keyword table column : String) (n : Option UInt64) :
    ∀ t ∈ (n.map (rowCountTemplate keyword table column)).toList, IsBare t := by
  intro t ht
  cases n with
  | none => exact absurd ht (by simp)
  | some n =>
    rw [List.mem_singleton.mp ht]
    exact (isBare_text _).append (isBare_slot)

/-- What holds of one branch and of all others holds of all branches. -/
theorem Select.forall_mem_branchTemplates {P : Template → Prop} {st : Style} {all : Bool}
    {query : Select} {unions : List UnionBranch}
    (hquery : P (headed (if all then "UNION ALL" else "UNION") (query.template st)))
    (hrest : ∀ t ∈ Select.branchTemplates st unions, P t) :
    ∀ t ∈ Select.branchTemplates st (⟨all, query⟩ :: unions), P t := by
  simp only [Select.branchTemplates]
  intro t ht
  split at ht
  · exact hrest t ht
  · rcases List.mem_cons.mp ht with rfl | hmem
    · exact hquery
    · exact hrest t hmem

mutual

/-- A test whose raw fragments come without parameters has a bare template. -/
theorem Predicate.isBare_template (st : Style) (kind : ClauseKind) (table : String) :
    ∀ predicate : Predicate, predicate.isBare = true → IsBare (predicate.template st kind table)
  | .compare column op operand, _ => by
    simp only [Predicate.template]
    exact isBare_compareTemplate st kind table column op operand
  | .raw sql params, h => by
    simp only [Predicate.template]
    intro params' hm
    rcases List.mem_cons.mp hm with he | htext
    · injection he with he
      exact he ▸ Params.eq_empty_of_isEmpty h
    · exact isBare_text sql params' htext
  | .related other column parent wanted, _ => by
    simp only [Predicate.template]
    exact isBare_text _
  | .subquery query wanted, h => by
    simp only [Predicate.template]
    exact (Select.isBare_template st query h).enclosed _
  | .group conditions, h => by
    simp only [Predicate.template]
    exact (Conditions.isBare_templateFrom st kind table false conditions h).enclosed _

/-- Conditions whose raw fragments come without parameters have a bare template. -/
theorem Conditions.isBare_templateFrom (st : Style) (kind : ClauseKind) (table : String)
    (started : Bool) : ∀ conditions : List Condition, Conditions.areBare conditions = true →
      IsBare (Conditions.templateFrom st kind table started conditions)
  | [], _ => isBare_nil
  | ⟨joiner, predicate⟩ :: conditions, h => by
    obtain ⟨hp, hc⟩ := Bool.and_eq_true_iff.mp h
    have hbody := Predicate.isBare_template st kind table predicate hp
    simp only [Conditions.templateFrom]
    split
    · exact hbody.append (Conditions.isBare_templateFrom st kind table started conditions hc)
    · refine IsBare.append (IsBare.append ?_ hbody)
        (Conditions.isBare_templateFrom st kind table true conditions hc)
      split
      · exact isBare_text _
      · exact isBare_nil

/-- **A SELECT statement** whose raw fragments come without parameters has a bare template. -/
theorem Select.isBare_template (st : Style) : ∀ q : Select, q.isBare = true →
    IsBare (q.template st)
  | ⟨table, called, columns, distinct, joins, ⟨conditions, inConditions⟩, groups, havings, orders,
      aggregates, unions, limit, offset, inTable⟩, h => by
    obtain ⟨hwh, hu⟩ := Bool.and_eq_true_iff.mp h
    obtain ⟨hw, hh⟩ := Bool.and_eq_true_iff.mp hwh
    have hwheres := Conditions.isBare_templateFrom st .wheres table false conditions hw
    have hhavings := Conditions.isBare_templateFrom st .having table false havings hh
    have hbranches := Select.isBare_branchTemplates st unions hu
    simp only [Select.template]
    split
    · exact isBare_nil
    · refine IsBare.squeeze (isBare_joined fun t ht => ?_)
      simp only [List.mem_append, List.mem_cons, List.not_mem_nil, or_false] at ht
      rcases ht with (((rfl | rfl | rfl | rfl | rfl | rfl) | hb) | hl) | ho
      · exact isBare_text _
      · exact isBare_text _
      · exact hwheres.headed _
      · exact isBare_text _
      · exact hhavings.headed _
      · exact isBare_text _
      · exact hbranches t hb
      · exact isBare_rowCountTemplate _ _ _ limit t hl
      · exact isBare_rowCountTemplate _ _ _ offset t ho

/-- Union branches whose raw fragments come without parameters have bare templates. -/
theorem Select.isBare_branchTemplates (st : Style) : ∀ unions : List UnionBranch,
    Select.areBareBranches unions = true → ∀ t ∈ Select.branchTemplates st unions, IsBare t
  | [], _ => fun t ht => absurd ht (by simp [Select.branchTemplates])
  | ⟨all, query⟩ :: unions, h => by
    obtain ⟨hq, hu⟩ := Bool.and_eq_true_iff.mp h
    have hbody := Select.isBare_template st query hq
    have hrest := Select.isBare_branchTemplates st unions hu
    exact Select.forall_mem_branchTemplates (hbody.headed _) hrest

end

theorem WhereClause.isBare_template (st : Style) (table : String) {clause : WhereClause}
    (h : Conditions.areBare clause.conditions = true) : IsBare (clause.template st table) :=
  (Conditions.isBare_templateFrom st .wheres table false clause.conditions h).headed _

theorem Insert.isBare_template (st : Style) (q : Insert) : IsBare (q.template st) := by
  simp only [Insert.template]
  split
  · exact isBare_nil
  · split
    · split <;> exact isBare_text _
    · refine IsBare.squeeze ((isBare_text _).append (isBare_joined fun t ht => ?_))
      obtain ⟨row, -, rfl⟩ := List.mem_map.mp ht
      refine ((isBare_text _).append (isBare_joined fun u hu => ?_)).append (isBare_text _)
      obtain ⟨column, -, rfl⟩ := List.mem_map.mp hu
      exact isBare_slot

theorem Update.isBare_template (st : Style) {q : Update}
    (h : Conditions.areBare q.wheres.conditions = true) : IsBare (q.template st) := by
  simp only [Update.template]
  split
  · exact isBare_nil
  · refine IsBare.squeeze ((((isBare_text _).append (isBare_joined fun t ht => ?_)).append
      (isBare_text _)).append (WhereClause.isBare_template st q.table h))
    obtain ⟨⟨column, value⟩, -, rfl⟩ := List.mem_map.mp ht
    exact (isBare_text _).append (isBare_slot)

theorem Delete.isBare_template (st : Style) {q : Delete}
    (h : Conditions.areBare q.wheres.conditions = true) : IsBare (q.template st) := by
  simp only [Delete.template]
  split
  · exact isBare_nil
  · exact IsBare.squeeze ((isBare_text _).append (WhereClause.isBare_template st q.table h))

/-- **A statement** whose raw fragments come without parameters has a bare template. -/
theorem Statement.isBare_template (st : Style) {s : Statement} (h : s.isBare = true) :
    IsBare (s.template st) := by
  cases s with
  | select q => exact Select.isBare_template st q h
  | insert q => exact Insert.isBare_template st q
  | update q => exact Update.isBare_template st h
  | delete q => exact Delete.isBare_template st h
  | raw q =>
    have hp : q.params = .empty := Params.eq_empty_of_isEmpty h
    intro params hm
    rcases List.mem_cons.mp hm with he | htext
    · injection he with he
      exact he.trans hp
    · exact isBare_text q.sql params htext

/-! ## The parameters are the operands -/

/-- No two generated names with numbers of their own are equal. -/
theorem nodup_mapIdx_placeholderName (operands : List Slot) :
    (operands.mapIdx fun k o => Params.placeholderName o.table o.column k).Nodup := by
  rw [List.Nodup, List.pairwise_iff_getElem]
  intro i j hi hj hij heq
  rw [List.getElem_mapIdx, List.getElem_mapIdx] at heq
  exact absurd (Params.number_unique heq) (by omega)

theorem zip_mapIdx_map {α β γ : Type} (f : Nat → α → β) (g : α → γ) (l : List α) :
    (l.mapIdx f).zip (l.map g) = l.mapIdx fun k a => (f k a, g a) := by
  refine List.ext_getElem (by simp) fun i hi hi' => ?_
  simp

/-- **The parameters are the operands.** Without parameters from raw fragments, the parameters of a
    finished statement are its operands in their order, the one at place `k` under the name
    `:table_column_k`. No name comes twice. The text is fixed pieces with exactly one of these names
    in each gap, in this order; the pieces do not depend on the values. -/
theorem Statement.build_binds_operands (st : Style) (s : Statement) (h : s.isBare = true) :
    (s.build st).params.entries =
        s.operands.mapIdx (fun k o => (Params.placeholderName o.table o.column k, o.value)) ∧
      (s.build st).params.names.Nodup ∧
      (pieces (s.template st)).2.length = s.operands.length ∧
      (s.build st).sql.toList = weave (pieces (s.template st)) (s.build st).params.names ∧
      ∀ s' : Statement, s'.outline = s.outline →
        pieces (s'.template st) = pieces (s.template st) := by
  have hbare : IsBare (s.template st) := Statement.isBare_template st h
  have hnames : slotNames .empty (s.template st) =
      s.operands.mapIdx fun k o => Params.placeholderName o.table o.column k := by
    rw [slotNames_of_numbered Params.numbered_empty hbare, Statement.slots_template]
    simp [Params.size, Params.empty, OrderedMap.size]
  have hentries : (s.build st).params.entries =
      s.operands.mapIdx fun k o => (Params.placeholderName o.table o.column k, o.value) := by
    calc (s.build st).params.entries
        = (slotNames .empty (s.template st)).zip ((slots (s.template st)).map Slot.value) :=
          entries_assemble .empty hbare
      _ = _ := by rw [hnames, Statement.slots_template, zip_mapIdx_map]
  have hkeys : (s.build st).params.names = slotNames .empty (s.template st) := by
    rw [hnames, Params.names, OrderedMap.keys, ← Params.entries, hentries]
    simp [List.mapIdx_eq_zipIdx_map]
  have hsql : (s.build st).sql.toList = (assemble .empty (s.template st)).1 :=
    String.toList_ofList
  refine ⟨hentries, ?_, ?_, ?_, fun s' hs' => ?_⟩
  · rw [hkeys, hnames]
    exact nodup_mapIdx_placeholderName s.operands
  · rw [length_pieces, Statement.slots_template]
  · rw [hsql, hkeys]
    exact assemble_fst_eq_weave .empty (s.template st)
  · rw [← pieces_shape (s'.template st), ← Statement.shape_template_outline st s', hs',
      Statement.shape_template_outline st s, pieces_shape]

/-- A statement that binds values in a group, in a subquery with a branch, after grouping and in its
    own branch; one of its subqueries has no table. -/
def Statement.nestedOperands : Statement :=
  .select (Select.ofSteps [
    .target "users",
    .filter (.group .and [
      .compare .and (.name "age") .greater (.int 18),
      .subquery [.filter (.compare .and (.name "id") .equal (.int 0))] true,
      .subquery [.target "posts", .filter (.between .or (.name "stars") (.int 1) (.int 5) true),
        .union false [.target "drafts", .limit 3]] false]),
    .filter (.among .or (.name "users.id") [.int 7, .int 8] true),
    .having (.compare .and (.name "total") .greater (.int 9)),
    .union true [.target "admins", .filter (.compare .and (.name "name") .like (.text "A%"))],
    .offset 20,
    .limit 10])

theorem Statement.nestedOperands_bound :
    nestedOperands.isBare = true ∧
      (nestedOperands.build { dialect := .mysql }).params.entries =
        [(":users_age_0", .int 18), (":posts_stars_1", .int 1), (":posts_stars_2", .int 5),
          (":drafts_limit_3", .int 3), (":users_users_id_4", .int 7), (":users_users_id_5", .int 8),
          (":users_total_6", .int 9), (":admins_name_7", .text "A%"), (":users_limit_8", .int 10),
          (":users_offset_9", .int 20)] :=
  ⟨rfl, (Statement.build_binds_operands { dialect := .mysql } nestedOperands rfl).1.trans rfl⟩

/-- Two rows, the second of which has a column that the first one lacks. -/
def Insert.unevenRows : Insert :=
  { table := "t"
    rows := [.ofList [("a", .int 1)], .ofList [("a", .int 2), ("b", .int 3)]] }

/-- A value under a column that the first row lacks is not bound, and nothing is reported. -/
theorem Insert.unevenRows_loses_value :
    unevenRows.misuse? = none ∧ (Statement.insert unevenRows).isBare = true ∧
      ((Statement.insert unevenRows).build { dialect := .mysql }).params.map.values ≠
        unevenRows.rows.flatMap OrderedMap.values := by
  refine ⟨rfl, rfl, ?_⟩
  decide

end FluentSql
