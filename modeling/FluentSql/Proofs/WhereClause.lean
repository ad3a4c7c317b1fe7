import FluentSql.Proofs.Assembly
import FluentSql.Statement
/-!
# `FluentSql.Proofs.WhereClause` — the WHERE clause in the finished text

A statement with a WHERE clause is a **frame** around its conditions: what stands before them, and
what stands after them. Its text is that of the three parts, assembled one after the other and
squeezed as a whole (`Frame.assemble_template`).

Conditions that show nothing are left out, at every level. A test is **written** if it shows
something (`Predicate.isEmpty_template`), and

* `Statement.where_exactly_if_written` — a removal or an update has a WHERE clause exactly if one of
  its conditions is written; without it the statement is that for the whole table.
-/

namespace FluentSql

open FluentSql.Text Template

/-! ## Frames -/

/-- **A statement around its conditions**, on the table after which placeholders are named. -/
structure Frame where
  table : String
  before : Template
  conditions : Conditions
  after : Template

namespace Frame

/-- The template of the whole. -/
def template (st : Style) (f : Frame) : Template :=
  squeeze (f.before ++ headed "WHERE" (Conditions.template st .wheres f.table f.conditions)
    ++ f.after)

/-- The text before the conditions. -/
def textBefore (ps : Params) (f : Frame) : List Char := (assemble ps f.before).1

/-- The parameters at the point where the conditions begin. -/
def paramsBefore (ps : Params) (f : Frame) : Params := (assemble ps f.before).2

/-- **The text that the conditions compile to** at their place. -/
def compiled (st : Style) (ps : Params) (f : Frame) : List Char :=
  (assemble (f.paramsBefore ps) (Conditions.template st .wheres f.table f.conditions)).1

/-- The parameters after the conditions. -/
def paramsAfter (st : Style) (ps : Params) (f : Frame) : Params :=
  (assemble (f.paramsBefore ps) (Conditions.template st .wheres f.table f.conditions)).2

/-- The text after the conditions. -/
def textAfter (st : Style) (ps : Params) (f : Frame) : List Char :=
  (assemble (f.paramsAfter st ps) f.after).1

/-- The parameters of the whole. -/
def params (st : Style) (ps : Params) (f : Frame) : Params :=
  (assemble (f.paramsAfter st ps) f.after).2

/-- The frame around other conditions. -/
def withConditions (f : Frame) (conditions : Conditions) : Frame := { f with conditions := conditions }

/-- **The text of the WHERE clause** before squeezing: none if the conditions compile to nothing. -/
def whereText (st : Style) (ps : Params) (f : Frame) : List Char :=
  if f.compiled st ps = [] then [] else "WHERE ".toList ++ f.compiled st ps

/-- **The text of a frame**: its three parts after each other, squeezed. -/
theorem assemble_template (st : Style) (ps : Params) (f : Frame) :
    assemble ps (f.template st) =
      (squeezeChars (f.textBefore ps ++ f.whereText st ps ++ f.textAfter st ps),
        f.params st ps) := by
  rw [template, assemble_squeeze, assemble_append, assemble_append, assemble_headed]
  rfl

end Frame

/-- The frame of a SELECT statement. -/
def Select.frame (st : Style) (q : Select) : Frame where
  table := q.table
  before :=
    text (selectListSql st q.table q.called q.columns q.distinct q.aggregates) ++ text " "
      ++ (text (q.joins.sql st q.table) ++ text " ")
  conditions := q.wheres.conditions
  after :=
    text " " ++ joined " " (
      [text (q.groups.sql st),
        headed "HAVING" (Conditions.templateFrom st .having q.table false q.havings),
        text (q.orders.sql st)]
      ++ Select.branchTemplates st q.unions
      ++ (q.limit.map (rowCountTemplate "LIMIT" q.table "limit")).toList
      ++ (q.offset.map (rowCountTemplate "OFFSET" q.table "offset")).toList)

/-- The frame of an update. -/
def Update.frame (st : Style) (q : Update) : Frame where
  table := q.table
  before :=
    text ("UPDATE " ++ st.quote q.table ++ " " ++ q.joins.sql st q.table ++ " SET ")
      ++ joined ", "
        (q.data.entries.map fun (column, value) => assignmentTemplate st q.table column value)
      ++ text " "
  conditions := q.wheres.conditions
  after := []

/-- The frame of a removal. -/
def Delete.frame (st : Style) (q : Delete) : Frame where
  table := q.table
  before :=
    text ("DELETE " ++ (if (q.joins.sql st q.table).isEmpty then "" else st.quote q.table)
      ++ " FROM " ++ st.quote q.table ++ " " ++ q.joins.sql st q.table ++ " ")
  conditions := q.wheres.conditions
  after := []

/-- **The frame of a statement** that can have conditions. -/
def Statement.frame? (st : Style) : Statement → Option Frame
  | .select q => some (q.frame st)
  | .update q => some (q.frame st)
  | .delete q => some (q.frame st)
  | .insert _ => none
  | .raw _ => none

theorem Select.template_eq_frame (st : Style) (q : Select) :
    q.template st = if q.table.isEmpty then [] else (q.frame st).template st := by
  obtain ⟨table, called, columns, distinct, joins, ⟨conditions, inConditions⟩, groups, havings,
    orders, aggregates, unions, limit, offset, inTable⟩ := q
  simp only [Select.template, Select.frame, Frame.template, Conditions.template, joined,
    List.cons_append, List.nil_append, List.append_assoc]

theorem Update.template_eq_frame (st : Style) (q : Update) :
    q.template st = if q.table.isEmpty then [] else (q.frame st).template st := by
  simp only [Update.template, Update.frame, Frame.template, WhereClause.template, List.append_nil]

theorem Delete.template_eq_frame (st : Style) (q : Delete) :
    q.template st = if q.table.isEmpty then [] else (q.frame st).template st := by
  simp only [Delete.template, Delete.frame, Frame.template, WhereClause.template, List.append_nil]

/-- **A statement is its frame**; without a table it is nothing. -/
theorem Statement.template_eq_frame (st : Style) {s : Statement} {f : Frame}
    (h : s.frame? st = some f) : s.template st = if f.table.isEmpty then [] else f.template st := by
  cases s with
  | select q =>
    cases h
    exact Select.template_eq_frame st q
  | update q =>
    cases h
    exact Update.template_eq_frame st q
  | delete q =>
    cases h
    exact Delete.template_eq_frame st q
  | insert q => cases h
  | raw q => cases h

/-- **A statement that is not empty** is its frame, assembled from no parameters. -/
theorem Statement.build_eq_frame {st : Style} {s : Statement} {f : Frame}
    (h : s.frame? st = some f) (hsql : (s.build st).sql.isEmpty = false) :
    s.build st =
      ⟨String.ofList (assemble .empty (f.template st)).1, (assemble .empty (f.template st)).2⟩ := by
  have hbuild : s.build st = .ofTemplate (if f.table.isEmpty then [] else f.template st) :=
    congrArg Built.ofTemplate (Statement.template_eq_frame st h)
  rw [hbuild] at hsql ⊢
  cases htable : f.table.isEmpty with
  | true =>
    rw [htable] at hsql
    cases hsql
  | false => rfl

/-! ## Written conditions -/

mutual

/-- **Whether a test is written.** An empty raw fragment, a subquery without a table and a group of
    such tests are not. -/
def Predicate.isWritten : Predicate → Bool
  | .compare _ _ _ => true
  | .raw sql _ => !sql.isEmpty
  | .related _ _ _ _ => true
  | .subquery query _ => !query.table.isEmpty
  | .group conditions => Conditions.anyWritten conditions

/-- Whether one of some conditions is written. -/
def Conditions.anyWritten : List Condition → Bool
  | [] => false
  | ⟨_, predicate⟩ :: conditions =>
    Predicate.isWritten predicate || Conditions.anyWritten conditions

end

theorem isEmpty_text_of_mem {s : String} {c : Char} (h : c ∈ s.toList) :
    isEmpty (text s) = false :=
  isEmpty_eq_false_of_mem (List.mem_map.mpr ⟨c, h, rfl⟩) rfl

theorem isEmpty_compareTemplate (st : Style) (kind : ClauseKind) (table : String) (column : Column)
    (op : Operator) (operand : Operand) :
    (compareTemplate st kind table column op operand).isEmpty = false := by
  have hblank : ∀ a b c : String, isEmpty (text (a ++ " " ++ b ++ c)) = false := fun a b c =>
    isEmpty_text_of_mem (c := ' ') (by simp)
  cases operand with
  | single v => simp only [compareTemplate, isEmpty_append, hblank, Bool.false_and]
  | pair low high => simp only [compareTemplate, isEmpty_append, hblank, Bool.false_and]
  | list values =>
    cases values with
    | nil => cases op <;> rfl
    | cons v values => simp only [compareTemplate, isEmpty_append, hblank, Bool.false_and]
  | null => simp only [compareTemplate, hblank]

theorem isEmpty_relatedSql (st : Style) (current table : String) (column parent : Option String)
    (wanted : Bool) : isEmpty (text (relatedSql st current table column parent wanted)) = false := by
  refine isEmpty_text_of_mem (c := ')') ?_
  unfold relatedSql
  dsimp only
  rw [String.toList_append]
  exact List.mem_append_right _ (by decide)

theorem isEmpty_enclosed (opening : String) (body : Template) :
    (enclosed opening body).isEmpty = body.isEmpty := by
  unfold enclosed
  split
  · rfl
  · rename_i h
    have hbody : body.isEmpty = false := by simpa using h
    rw [isEmpty_append, isEmpty_append, hbody, Bool.and_false, Bool.false_and]

/-- A select list begins with the keyword. -/
theorem mem_selectListSql (st : Style) (table : String) (called : Option String)
    (columns : List SelectColumn) (distinct : Bool) (aggregates : AggregateClause) :
    'S' ∈ (selectListSql st table called columns distinct aggregates).toList := by
  unfold selectListSql
  dsimp only
  split <;> simp

/-- **A SELECT statement** shows nothing exactly if it has no table. -/
theorem Select.isEmpty_template (st : Style) (q : Select) :
    (q.template st).isEmpty = q.table.isEmpty := by
  rw [Select.template_eq_frame]
  by_cases h : q.table.isEmpty = true
  · rw [if_pos h, h]
    rfl
  · have hS : Symbol.char 'S' ∈ (q.frame st).before := by
      have hlist := mem_selectListSql st q.table q.called q.columns q.distinct q.aggregates
      simp [Select.frame, text, hlist]
    have hmem : Symbol.char 'S' ∈ (q.frame st).template st :=
      mem_squeeze_of_solid (List.mem_append_left _ (List.mem_append_left _ hS)) rfl
    rw [if_neg h, Bool.eq_false_iff.mpr h]
    exact isEmpty_eq_false_of_mem hmem rfl

/-- An update shows nothing exactly if it has no table. -/
theorem Update.isEmpty_template (st : Style) (q : Update) :
    (q.template st).isEmpty = q.table.isEmpty := by
  rw [Update.template_eq_frame]
  by_cases h : q.table.isEmpty = true
  · rw [if_pos h, h]
    rfl
  · have hU : Symbol.char 'U' ∈ (q.frame st).before := by
      simp [Update.frame, text, String.toList_append]
    have hmem : Symbol.char 'U' ∈ (q.frame st).template st :=
      mem_squeeze_of_solid (List.mem_append_left _ (List.mem_append_left _ hU)) rfl
    rw [if_neg h, Bool.eq_false_iff.mpr h]
    exact isEmpty_eq_false_of_mem hmem rfl

/-- A statement has a text if its template shows something. -/
theorem Statement.isEmpty_sql (st : Style) (s : Statement) :
    (s.build st).sql.isEmpty = (s.template st).isEmpty := by
  have hchars : (s.build st).sql = String.ofList (assemble .empty (s.template st)).1 := rfl
  rw [isEmpty_eq_isEmpty_assemble .empty (s.template st), hchars]
  cases (assemble .empty (s.template st)).1 with
  | nil => rfl
  | cons c cs => exact Bool.eq_false_iff.mpr fun h => by simp at h

mutual

/-- **A test shows nothing** exactly if it is not written. -/
theorem Predicate.isEmpty_template (st : Style) (kind : ClauseKind) (table : String) :
    ∀ predicate : Predicate, (predicate.template st kind table).isEmpty = !predicate.isWritten
  | .compare column op operand => by
    simp only [Predicate.template, Predicate.isWritten]
    exact isEmpty_compareTemplate st kind table column op operand
  | .raw sql params => by
    simp only [Predicate.template, Predicate.isWritten, Bool.not_not]
    rw [isEmpty_given, isEmpty_text]
  | .related other column parent wanted => by
    simp only [Predicate.template, Predicate.isWritten]
    exact isEmpty_relatedSql st table other column parent wanted
  | .subquery query wanted => by
    simp only [Predicate.template, Predicate.isWritten, isEmpty_enclosed, Bool.not_not]
    exact Select.isEmpty_template st query
  | .group conditions => by
    simp only [Predicate.template, Predicate.isWritten, isEmpty_enclosed]
    exact Conditions.isEmpty_templateFrom st kind table false conditions

/-- Conditions show nothing exactly if none of them is written. -/
theorem Conditions.isEmpty_templateFrom (st : Style) (kind : ClauseKind) (table : String)
    (started : Bool) : ∀ conditions : List Condition,
      (Conditions.templateFrom st kind table started conditions).isEmpty =
        !Conditions.anyWritten conditions
  | [] => rfl
  | ⟨joiner, predicate⟩ :: conditions => by
    have hp := Predicate.isEmpty_template st kind table predicate
    simp only [Conditions.templateFrom, Conditions.anyWritten, Bool.not_or]
    -- a test that shows nothing is skipped, and the next one is not joined to it
    split
    · rw [isEmpty_append, hp, Conditions.isEmpty_templateFrom st kind table started conditions]
    · rename_i h
      rw [hp, Bool.not_eq_true] at h
      rw [isEmpty_append, isEmpty_append, hp, h, Bool.and_false, Bool.false_and, Bool.false_and]

end

/-- Conditions compile to nothing exactly if none of them is written. -/
theorem Frame.compiled_eq_nil_iff (st : Style) (ps : Params) (f : Frame) :
    f.compiled st ps = [] ↔ Conditions.anyWritten f.conditions = false := by
  rw [← List.isEmpty_iff, Frame.compiled, ← isEmpty_eq_isEmpty_assemble, Conditions.template,
    Conditions.isEmpty_templateFrom, Bool.not_eq_true']

/-! ## Reading conditions -/

/-- **Conditions as SQL reads them** about a row, after a run of tests joined by AND: the run ends at
    an OR, and what is in parentheses is one test. `truth` are the tests that are true of the row. -/
def Conditions.holdsFrom (truth : Predicate → Bool) : Option Bool → Conditions → Bool
  | run, [] => run.getD true
  | run, ⟨joiner, predicate⟩ :: conditions =>
    if predicate.isWritten then
      match run, joiner with
      | none, _ => holdsFrom truth (some (truth predicate)) conditions
      | some run, some .or => run || holdsFrom truth (some (truth predicate)) conditions
      | some run, _ => holdsFrom truth (some (run && truth predicate)) conditions
    else holdsFrom truth run conditions

/-- **Whether conditions hold** of a row; unwritten conditions hold of every row. -/
def Conditions.holds (truth : Predicate → Bool) (conditions : Conditions) : Bool :=
  holdsFrom truth none conditions

/-! ## The WHERE clause of removals and updates -/

/-- **A spaced frame**: something stands before the conditions, and a blank at its end. -/
def Frame.IsSpaced (f : Frame) : Prop :=
  ∀ ps, flagsAfter charLook false false (f.textBefore ps) = (true, true)

theorem Delete.isSpaced_frame (st : Style) (q : Delete) : (q.frame st).IsSpaced := by
  intro ps
  rw [Frame.textBefore, Delete.frame, assemble_text, String.toList_append]
  exact flagsAfter_blank (a := 'D') (by simp) (by decide) (by decide)

theorem Update.isSpaced_frame (st : Style) (q : Update) : (q.frame st).IsSpaced := by
  intro ps
  rw [Frame.textBefore, Update.frame, assemble_append, assemble_text]
  refine flagsAfter_blank (a := 'U') ?_ (by decide) (by decide)
  rw [assemble_append, assemble_text]
  exact List.mem_append_left _ (by simp)

/-- **What conditions add** at the end of a statement: nothing if none of them is written, else the
    keyword and the text that they compile to. -/
theorem Frame.assemble_template_of_isSpaced (st : Style) (ps : Params) {f : Frame} (hf : f.IsSpaced)
    (hafter : f.after = []) :
    (assemble ps (f.template st)).1 =
      (assemble ps ((f.withConditions []).template st)).1 ++
        if Conditions.anyWritten f.conditions then " WHERE".toList ++ setOff (f.compiled st ps)
        else [] := by
  have hnone : f.textAfter st ps = [] := by
    rw [textAfter, hafter]
    rfl
  have hforget : (assemble ps ((f.withConditions []).template st)).1 =
      squeezeChars (f.textBefore ps) := by
    rw [assemble_template, whereText, if_pos ((compiled_eq_nil_iff st ps _).mpr rfl)]
    simp [textBefore, textAfter, withConditions, hafter]
  -- the keyword is squeezed with both flags set: something was passed, and a blank since
  rw [hforget, assemble_template, hnone, List.append_nil, squeezeChars, squeeze_append, hf ps,
    whereText]
  refine congrArg (squeezeChars (f.textBefore ps) ++ ·) ?_
  by_cases h : f.compiled st ps = []
  · rw [if_pos h, (compiled_eq_nil_iff st ps f).mp h]
    rfl
  · have hletters : "WHERE".toList.all Params.isNameChar = true := by decide
    have hword : ∀ c ∈ "WHERE".toList, charLook c = .solid := fun c hc =>
      charLook_of_isNameChar (List.all_eq_true.mp hletters c hc)
    have hwritten : Conditions.anyWritten f.conditions = true := by
      rw [← Bool.not_eq_false, ← compiled_eq_nil_iff st ps f]
      exact h
    rw [if_neg h, hwritten,
      show "WHERE ".toList ++ f.compiled st ps = "WHERE".toList ++ ' ' :: f.compiled st ps from rfl,
      squeeze_word hword (by decide), squeeze_cons_blank (by decide), squeeze_after_blank]
    rfl

theorem Frame.assemble_if_table (st : Style) (ps : Params) {f : Frame} (hf : f.IsSpaced)
    (hafter : f.after = []) :
    (assemble ps (if f.table.isEmpty then [] else f.template st)).1 =
      (assemble ps (if f.table.isEmpty then []
        else (f.withConditions []).template st)).1 ++
        if !f.table.isEmpty && Conditions.anyWritten f.conditions then
          " WHERE".toList ++ setOff (f.compiled st ps)
        else [] := by
  cases f.table.isEmpty with
  | true => rfl
  | false => exact assemble_template_of_isSpaced st ps hf hafter

theorem Delete.frame_without (st : Style) (q : Delete) :
    Delete.frame st { q with wheres := .empty } = (q.frame st).withConditions [] := by
  rw [Frame.withConditions, Delete.frame, Delete.frame, WhereClause.empty]

theorem Update.frame_without (st : Style) (q : Update) :
    Update.frame st { q with wheres := .empty } = (q.frame st).withConditions [] := by
  rw [Frame.withConditions, Update.frame, Update.frame, WhereClause.empty]

/-- **The WHERE clause of a removal or an update.** With conditions the text is that of the statement
    on the whole table, and then, exactly if one of the conditions is written, the keyword and what
    the conditions compile to at this point. -/
theorem Statement.where_exactly_if_written (st : Style) :
    (∀ q : Delete, ((Statement.delete q).build st).sql.toList =
      ((Statement.delete { q with wheres := .empty }).build st).sql.toList ++
        if !q.table.isEmpty && Conditions.anyWritten q.wheres.conditions then
          " WHERE".toList ++ setOff ((q.frame st).compiled st .empty)
        else []) ∧
    ∀ q : Update, ((Statement.update q).build st).sql.toList =
      ((Statement.update { q with wheres := .empty }).build st).sql.toList ++
        if !q.table.isEmpty && Conditions.anyWritten q.wheres.conditions then
          " WHERE".toList ++ setOff ((q.frame st).compiled st .empty)
        else [] := by
  have htext : ∀ s : Statement, (s.build st).sql.toList = (assemble .empty (s.template st)).1 :=
    fun s => String.toList_ofList
  constructor
  · intro q
    rw [htext, htext, Statement.template, Statement.template, Delete.template_eq_frame,
      Delete.template_eq_frame, Delete.frame_without]
    exact Frame.assemble_if_table st .empty (q.isSpaced_frame st) rfl
  · intro q
    rw [htext, htext, Statement.template, Statement.template, Update.template_eq_frame,
      Update.template_eq_frame, Update.frame_without]
    exact Frame.assemble_if_table st .empty (q.isSpaced_frame st) rfl

/-- A removal whose only condition is a subquery without a table. -/
def Delete.untargetedSubquery : Delete :=
  { table := "users", wheres := WhereClause.empty.pushSubquery .empty true }

/-- An update whose only condition is an empty raw fragment. -/
def Update.emptyFragment : Update :=
  { table := "users"
    data := .ofList [("age", .int 1)]
    wheres := WhereClause.empty.push .and (.raw "" .empty) }

/-- Both have a condition and no misuse, and both are run on the whole table. -/
theorem Statement.unwritten_conditions_lost :
    Delete.untargetedSubquery.misuse? = none ∧
      Delete.untargetedSubquery.wheres.conditions.length = 1 ∧
      ((Statement.delete Delete.untargetedSubquery).build { dialect := .ansi }).sql =
        "DELETE FROM \"users\"" ∧
      Update.emptyFragment.misuse? = none ∧ Update.emptyFragment.wheres.conditions.length = 1 ∧
      ((Statement.update Update.emptyFragment).build { dialect := .ansi }).sql =
        "UPDATE \"users\" SET \"age\" = :users_age_0" :=
  ⟨rfl, rfl, rfl, rfl, rfl, rfl⟩

end FluentSql
