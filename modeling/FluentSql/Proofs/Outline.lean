import FluentSql.Proofs.Assembly
import FluentSql.Statement
/-!
# `FluentSql.Proofs.Outline` — the text of a statement does not depend on its values

The **outline** of a statement is the statement with every value it binds replaced: operands, row
counts, payloads, and the parameters of raw fragments. The length of a list of values stays, and so
does everything else. Two statements with one outline differ in nothing but their values.

* `Select.shape_template_outline` — a statement and its outline have templates of one shape, through
  groups, subqueries and union branches;
* `Statement.build_agrees_of_outline` — two statements with one outline have the same text and the
  same names of parameters.
-/

namespace FluentSql

open Template

/-! ## Outlines -/

/-- Parameters without their values. -/
def Params.outline (ps : Params) : Params := ⟨⟨ps.entries.map fun (name, _) => (name, .null)⟩⟩

/-- A payload without its values. -/
def Payload.outline (data : Payload) : Payload :=
  ⟨data.entries.map fun (column, _) => (column, .null)⟩

/-- What a column is compared with, without the values. -/
def Operand.outline : Operand → Operand
  | .single _ => .single .null
  | .pair _ _ => .pair .null .null
  | .list values => .list (values.map fun _ => .null)
  | .null => .null

mutual

/-- **A test without its values.** -/
def Predicate.outline : Predicate → Predicate
  | .compare column op operand => .compare column op operand.outline
  | .raw sql params => .raw sql params.outline
  | .related table column parent wanted => .related table column parent wanted
  | .subquery query wanted => .subquery (Select.outline query) wanted
  | .group conditions => .group (Conditions.outline conditions)

/-- Conditions without their values. -/
def Conditions.outline : List Condition → List Condition
  | [] => []
  | ⟨joiner, predicate⟩ :: conditions =>
    ⟨joiner, Predicate.outline predicate⟩ :: Conditions.outline conditions

/-- **A SELECT statement without its values**, its numbers of rows included. -/
def Select.outline : Select → Select
  | ⟨table, called, columns, distinct, joins, ⟨conditions, inConditions⟩, groups, havings, orders,
      aggregates, unions, limit, offset, inTable⟩ =>
    ⟨table, called, columns, distinct, joins, ⟨Conditions.outline conditions, inConditions⟩, groups,
      Conditions.outline havings, orders, aggregates, Select.outlineBranches unions,
      limit.map fun _ => 0, offset.map fun _ => 0, inTable⟩

/-- Union branches without their values. -/
def Select.outlineBranches : List UnionBranch → List UnionBranch
  | [] => []
  | ⟨all, query⟩ :: unions => ⟨all, Select.outline query⟩ :: Select.outlineBranches unions

end

/-- A WHERE clause without its values. -/
def WhereClause.outline (clause : WhereClause) : WhereClause :=
  ⟨Conditions.outline clause.conditions, clause.misuse⟩

/-- **A statement without its values.** -/
def Statement.outline : Statement → Statement
  | .select q => .select q.outline
  | .insert q => .insert { q with rows := q.rows.map Payload.outline }
  | .update q => .update { q with data := Payload.outline q.data, wheres := q.wheres.outline }
  | .delete q => .delete { q with wheres := q.wheres.outline }
  | .raw q => .raw { q with params := q.params.outline }

/-! ## Shapes of templates -/

theorem shapeOf_given_outline (params : Params) :
    shapeOf (.given params.outline) = shapeOf (.given params) := by
  simp [shapeOf, Params.outline, Params.entries, Function.comp_def]

theorem shape_compareTemplate_outline (st : Style) (kind : ClauseKind) (table : String)
    (column : Column) (op : Operator) (operand : Operand) :
    shape (compareTemplate st kind table column op operand.outline) =
      shape (compareTemplate st kind table column op operand) := by
  cases operand with
  | single v => simp only [Operand.outline, compareTemplate, shape_append]; rfl
  | pair low high => simp only [Operand.outline, compareTemplate, shape_append]; rfl
  | list values =>
    cases values with
    | nil => rfl
    | cons v values =>
      simp only [Operand.outline, List.map_cons, compareTemplate, shape_append, shape_joined,
        List.map_map]
      rfl
  | null => rfl

theorem map_shape_rowCountTemplate (keyword table name : String) (n : Option UInt64) :
    ((n.map fun _ => 0).map (rowCountTemplate keyword table name)).toList.map shape =
      (n.map (rowCountTemplate keyword table name)).toList.map shape := by
  cases n with
  | none => rfl
  | some n =>
    show [shape (rowCountTemplate keyword table name 0)] =
      [shape (rowCountTemplate keyword table name n)]
    simp only [rowCountTemplate, shape_append]
    rfl

mutual

/-- A test and its outline have templates of one shape. -/
theorem Predicate.shape_template_outline (st : Style) (kind : ClauseKind) (table : String) :
    ∀ predicate : Predicate,
      shape (predicate.outline.template st kind table) = shape (predicate.template st kind table)
  | .compare column op operand => by
    simp only [Predicate.outline, Predicate.template]
    exact shape_compareTemplate_outline st kind table column op operand
  | .raw sql params => by
    simp only [Predicate.outline, Predicate.template]
    exact congrArg (· :: shape (text sql)) (shapeOf_given_outline params)
  | .related other column parent wanted => rfl
  | .subquery query wanted => by
    simp only [Predicate.outline, Predicate.template, shape_enclosed]
    rw [Select.shape_template_outline st query]
  | .group conditions => by
    simp only [Predicate.outline, Predicate.template, shape_enclosed]
    rw [Conditions.shape_templateFrom_outline st kind table false conditions]

/-- Conditions and their outline have templates of one shape. -/
theorem Conditions.shape_templateFrom_outline (st : Style) (kind : ClauseKind) (table : String)
    (started : Bool) : ∀ conditions : List Condition,
      shape (Conditions.templateFrom st kind table started (Conditions.outline conditions)) =
        shape (Conditions.templateFrom st kind table started conditions)
  | [] => rfl
  | ⟨joiner, predicate⟩ :: conditions => by
    have hp := Predicate.shape_template_outline st kind table predicate
    have he : (predicate.outline.template st kind table).isEmpty =
        (predicate.template st kind table).isEmpty := by
      rw [← isEmpty_shape, hp, isEmpty_shape]
    simp only [Conditions.outline, Conditions.templateFrom, he]
    split
    · simp only [shape_append, hp]
      rw [Conditions.shape_templateFrom_outline st kind table started conditions]
    · simp only [shape_append, hp]
      rw [Conditions.shape_templateFrom_outline st kind table true conditions]

/-- **A SELECT statement and its outline** have templates of one shape. -/
theorem Select.shape_template_outline (st : Style) : ∀ q : Select,
    shape (q.outline.template st) = shape (q.template st)
  | ⟨table, called, columns, distinct, joins, ⟨conditions, inConditions⟩, groups, havings, orders,
      aggregates, unions, limit, offset, inTable⟩ => by
    have hw := Conditions.shape_templateFrom_outline st .wheres table false conditions
    have hh := Conditions.shape_templateFrom_outline st .having table false havings
    have hu := Select.shape_branchTemplates_outline st unions
    simp only [Select.outline, Select.template]
    split
    · rfl
    · simp only [shape_squeeze, shape_joined, List.map_append, List.map_cons, shape_headed, hw, hh,
        hu, map_shape_rowCountTemplate]

/-- Union branches and their outlines have templates of the same shapes. -/
theorem Select.shape_branchTemplates_outline (st : Style) : ∀ unions : List UnionBranch,
    (Select.branchTemplates st (Select.outlineBranches unions)).map shape =
      (Select.branchTemplates st unions).map shape
  | [] => rfl
  | ⟨all, query⟩ :: unions => by
    have hq := Select.shape_template_outline st query
    have he : (query.outline.template st).isEmpty = (query.template st).isEmpty := by
      rw [← isEmpty_shape, hq, isEmpty_shape]
    simp only [Select.outlineBranches, Select.branchTemplates, he]
    split
    · exact Select.shape_branchTemplates_outline st unions
    · rw [List.map_cons, List.map_cons, shape_headed, shape_headed, hq,
        Select.shape_branchTemplates_outline st unions]

end

theorem WhereClause.shape_template_outline (st : Style) (table : String) (clause : WhereClause) :
    shape (clause.outline.template st table) = shape (clause.template st table) := by
  simp only [WhereClause.template, Conditions.template, WhereClause.outline, shape_headed]
  rw [Conditions.shape_templateFrom_outline st .wheres table false clause.conditions]

theorem Payload.keys_outline (data : Payload) : (Payload.outline data).keys = data.keys := by
  simp [Payload.outline, OrderedMap.keys, Function.comp_def]

theorem Insert.map_shape_rowTemplate_outline (table : String) (columns : List String)
    (rows : List Payload) :
    ((rows.map Payload.outline).map (Insert.rowTemplate table columns)).map shape =
      (rows.map (Insert.rowTemplate table columns)).map shape := by
  simp only [List.map_map]
  refine List.map_congr_left fun row _ => ?_
  simp only [Function.comp_apply, Insert.rowTemplate, shape_append, shape_joined, List.map_map]
  rfl

/-- The columns of an insertion are those of its outline. -/
theorem Insert.keys_head_outline (rows : List Payload) :
    (rows.map Payload.outline).head?.map OrderedMap.keys = rows.head?.map OrderedMap.keys := by
  cases rows with
  | nil => rfl
  | cons row rows => exact congrArg some (Payload.keys_outline row)

theorem Insert.shape_template_outline (st : Style) (q : Insert) :
    shape (Insert.template st { q with rows := q.rows.map Payload.outline }) =
      shape (q.template st) := by
  simp only [Insert.template, Insert.keys_head_outline]
  split
  · rfl
  · split
    · rfl
    · simp only [shape_squeeze, shape_append, shape_joined, Insert.map_shape_rowTemplate_outline]

theorem Update.map_shape_assignmentTemplate_outline (st : Style) (table : String) (data : Payload) :
    ((Payload.outline data).entries.map
        fun (column, value) => Update.assignmentTemplate st table column value).map shape =
      (data.entries.map
        fun (column, value) => Update.assignmentTemplate st table column value).map shape := by
  simp only [Payload.outline, List.map_map]
  refine List.map_congr_left fun (column, value) _ => ?_
  simp only [Function.comp_apply, Update.assignmentTemplate, shape_append]
  rfl

theorem Update.shape_template_outline (st : Style) (q : Update) :
    shape (Update.template st { q with data := Payload.outline q.data, wheres := q.wheres.outline }) =
      shape (q.template st) := by
  simp only [Update.template]
  split
  · rfl
  · simp only [shape_squeeze, shape_append, shape_joined,
      Update.map_shape_assignmentTemplate_outline, WhereClause.shape_template_outline]

theorem Delete.shape_template_outline (st : Style) (q : Delete) :
    shape (Delete.template st { q with wheres := q.wheres.outline }) = shape (q.template st) := by
  simp only [Delete.template]
  split
  · rfl
  · simp only [shape_squeeze, shape_append, WhereClause.shape_template_outline]

/-- **A statement and its outline** have templates of one shape. -/
theorem Statement.shape_template_outline (st : Style) (s : Statement) :
    shape (s.outline.template st) = shape (s.template st) := by
  cases s with
  | select q => exact Select.shape_template_outline st q
  | insert q => exact Insert.shape_template_outline st q
  | update q => exact Update.shape_template_outline st q
  | delete q => exact Delete.shape_template_outline st q
  | raw q => exact congrArg (· :: shape (text q.sql)) (shapeOf_given_outline q.params)

/-! ## Two statements that differ in their values -/

/-- **No value shows in the text.** Two statements with one outline have the same text and the same
    names of parameters in the same order. -/
theorem Statement.build_agrees_of_outline (st : Style) {s s' : Statement}
    (h : s.outline = s'.outline) :
    (s.build st).sql = (s'.build st).sql ∧
      (s.build st).params.names = (s'.build st).params.names := by
  have hshape : shape (s.template st) = shape (s'.template st) := by
    rw [← Statement.shape_template_outline st s, h, Statement.shape_template_outline st s']
  have hempty : Params.empty.names = Params.empty.names := rfl
  obtain ⟨htext, hnames⟩ := assemble_congr hempty hshape
  exact ⟨congrArg String.ofList htext, hnames⟩

/-- A statement with values in a comparison, a group, a subquery, a raw fragment, a HAVING clause, a
    union branch and in its numbers of rows. -/
def Statement.valuesEverywhere (v w : Value) (n : UInt64) : Statement :=
  .select (Select.ofSteps [
    .target "users",
    .filter (.compare .and (.name "name") .equal v),
    .filter (.group .or [
      .among .and (.name "id") [v, w] true,
      .subquery [.target "posts", .filter (.between .and (.name "stars") v w true), .limit n] true]),
    .filter (.raw .and "age > :age" [(":age", w)]),
    .having (.compare .and (.name "total") .greater v),
    .union true [.target "admins", .filter (.compare .and (.name "name") .like w)],
    .limit n,
    .offset n])

theorem Statement.valuesEverywhere_agree :
    (valuesEverywhere (.text "' OR 1 = 1 --") .null 1).outline =
        (valuesEverywhere (.int 7) (.text ":age") 9).outline ∧
      ((valuesEverywhere (.text "' OR 1 = 1 --") .null 1).build { dialect := .mysql }).sql =
        ((valuesEverywhere (.int 7) (.text ":age") 9).build { dialect := .mysql }).sql ∧
      ((valuesEverywhere (.text "' OR 1 = 1 --") .null 1).build { dialect := .mysql }).params.names =
        ((valuesEverywhere (.int 7) (.text ":age") 9).build { dialect := .mysql }).params.names :=
  ⟨rfl, Statement.build_agrees_of_outline { dialect := .mysql } rfl⟩

end FluentSql
