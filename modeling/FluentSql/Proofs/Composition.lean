import FluentSql.Proofs.Operands
import FluentSql.Proofs.WhereClause
/-!
# `FluentSql.Proofs.Composition` — one statement, compiled in many places

A SELECT statement without parameters of its own compiles alike after any parameters there are: to
the same text but for the numbers in its names, which are new ones, with the same values. Inside a
larger statement it stands as it is: what was squeezed is not changed when the whole is squeezed.

* `slotNames_eq_zipWith` — names differ from place to place in their numbers only;
* `Select.infix_template` — a statement stands in the statement that it is nested in;
* `Select.compiles_alike` — what this makes of text and parameters.
-/

namespace FluentSql

open FluentSql.Text Template

/-! ## Compiling after any parameters -/

/-- The name of a slot with a number. -/
def Slot.name (s : Slot) (n : Nat) : String := Params.placeholderName s.table s.column n

namespace Template

/-- **The numbers that the slots get** after the parameters there are. -/
def slotNumbers (ps : Params) : Template → List Nat
  | [] => []
  | .char _ :: t => slotNumbers ps t
  | .slot table column v :: t =>
    ps.freshSuffix table column :: slotNumbers (ps.bind table column v).2 t
  | .given params :: t => slotNumbers (ps.merge params) t

theorem length_slotNumbers (ps : Params) (t : Template) :
    (slotNumbers ps t).length = (slots t).length := by
  induction t generalizing ps with
  | nil => rfl
  | cons a t ih =>
    cases a with
    | char c => exact ih ps
    | slot table column v => exact congrArg (· + 1) (ih (ps.bind table column v).2)
    | given params => exact ih (ps.merge params)

/-- **The names of the slots** differ from place to place in their numbers only. -/
theorem slotNames_eq_zipWith (ps : Params) (t : Template) :
    slotNames ps t = List.zipWith Slot.name (slots t) (slotNumbers ps t) := by
  induction t generalizing ps with
  | nil => rfl
  | cons a t ih =>
    cases a with
    | char c => exact ih ps
    | slot table column v =>
      rw [slotNames, ih, slots_slot, slotNumbers, List.zipWith_cons_cons]
      rfl
    | given params => exact ih (ps.merge params)

end Template

/-- The names that a symbol brings from a raw fragment. -/
def Symbol.givenNames : Symbol → List String
  | .given params => params.names.map Params.colonName
  | _ => []

namespace Template

/-- **The names that raw fragments bring.** -/
def givenNames (t : Template) : List String := t.flatMap Symbol.givenNames

/-- An entry stays as it is while a symbol is assembled that does not bring its name. -/
theorem getElem?_place {ps : Params} {a : Symbol} {name : String} (h : name ∉ a.givenNames)
    {v : Value} {i : Nat} (hi : ps.entries[i]? = some (name, v)) :
    (place ps a).2.entries[i]? = some (name, v) := by
  cases a with
  | char c => exact hi
  | slot table column w =>
    obtain ⟨hlt, -⟩ := List.getElem?_eq_some_iff.mp hi
    rw [place_slot, Params.entries_bind, List.getElem?_append_left hlt]
    exact hi
  | given params => exact Params.getElem?_merge h hi

/-- **An entry stays as it is** unless a raw fragment brings its name. -/
theorem getElem?_assemble {ps : Params} {t : Template} {name : String} (h : name ∉ givenNames t)
    {v : Value} {i : Nat} (hi : ps.entries[i]? = some (name, v)) :
    (assemble ps t).2.entries[i]? = some (name, v) := by
  induction t generalizing ps with
  | nil => exact hi
  | cons a t ih =>
    rw [givenNames, List.flatMap_cons, List.mem_append, not_or] at h
    exact ih h.2 (getElem?_place h.1 hi)

/-! ## Standing in a larger template -/

/-- **A settled template** is set off from what stands before it when the whole is squeezed, and is
    not changed. -/
def IsSettled (t : Template) : Prop := Text.IsSettled Symbol.look (.char ' ') t

/-- A settled template stands in a squeezed one as it stood before. -/
theorem IsSettled.infix_squeeze {t u : Template} (ht : IsSettled t) (h : t <:+: u) :
    t <:+: u.squeeze := by
  obtain ⟨front, back, rfl⟩ := h
  rw [Template.squeeze, squeeze_append, squeeze_append, ht, ← List.append_assoc]
  exact List.infix_append _ _ _

/-- Where something solid stands, it stands squeezed when the whole is squeezed. -/
theorem squeeze_infix_squeeze {a : Symbol} (ha : a.look = .solid) {t u : Template}
    (h : (a :: t) <:+: u) : squeeze (a :: t) <:+: u.squeeze := by
  obtain ⟨front, back, rfl⟩ := h
  have hword : ∀ started pending, Text.squeeze Symbol.look (.char ' ') started pending (a :: t) =
      (if started && pending then [.char ' '] else []) ++ squeeze (a :: t) := by
    intro started pending
    rw [Template.squeeze, squeeze_cons_solid ha, squeeze_cons_solid ha]
    rfl
  show _ <:+: Text.squeeze Symbol.look (.char ' ') false false (front ++ a :: t ++ back)
  rw [squeeze_append, squeeze_append, hword, ← List.append_assoc]
  exact List.infix_append _ _ _

/-- The same of a template that shows as a whole; blanks in front of it are left out. -/
theorem squeeze_infix_squeeze_of_visible {t u : Template} (ht : ∀ a ∈ t, a.isVisible = true)
    (h : t <:+: u) : squeeze t <:+: u.squeeze := by
  induction t with
  | nil => exact List.nil_infix
  | cons a t ih =>
    cases ha : a.look with
    | solid => exact squeeze_infix_squeeze ha h
    | blank =>
      have hsqueeze : squeeze (a :: t) = squeeze t := by
        rw [squeeze, squeeze_cons_blank ha, squeeze_unstarted]
        rfl
      rw [hsqueeze]
      exact ih (fun b hb => ht b (List.mem_cons_of_mem a hb))
        ((List.suffix_cons a t).isInfix.trans h)
    | invisible =>
      have hvisible := ht a List.mem_cons_self
      cases a with
      | given params => cases hvisible
      | char c => exact absurd ha (charLook_ne_invisible c)
      | slot table column v => cases ha

theorem infix_headed {t body : Template} (h : t <:+: body) (keyword : String) :
    t <:+: headed keyword body := by
  unfold headed
  split
  · exact h
  · exact h.trans (List.suffix_append _ _).isInfix

theorem infix_enclosed {t body : Template} (h : t <:+: body) (opening : String) :
    t <:+: enclosed opening body := by
  unfold enclosed
  split
  · exact h
  · exact h.trans (List.infix_append _ _ _)

theorem infix_joined {sep : String} {t u : Template} {ts : List Template} (ht : t ∈ ts)
    (h : u <:+: t) : u <:+: joined sep ts := by
  induction ts with
  | nil => exact absurd ht (by simp)
  | cons first ts ih =>
    cases ts with
    | nil => exact List.mem_singleton.mp ht ▸ h
    | cons second ts =>
      rcases List.mem_cons.mp ht with rfl | hmem
      · exact h.trans ((List.prefix_append _ _).trans (List.prefix_append _ _)).isInfix
      · exact (ih hmem).trans (List.suffix_append _ _).isInfix

end Template

/-! ## Nested statements -/

mutual

/-- **The statements in a test**: subqueries, and what is nested in them. -/
def Predicate.nested : Predicate → List Select
  | .compare _ _ _ => []
  | .raw _ _ => []
  | .related _ _ _ _ => []
  | .subquery query _ => query :: Select.nested query
  | .group conditions => Conditions.nested conditions

/-- The statements in conditions. -/
def Conditions.nested : List Condition → List Select
  | [] => []
  | ⟨_, predicate⟩ :: conditions => Predicate.nested predicate ++ Conditions.nested conditions

/-- **The statements in a SELECT statement**, in its conditions and its branches. A statement without
    a table is not written, and nothing in it is. -/
def Select.nested : Select → List Select
  | ⟨table, _, _, _, _, ⟨conditions, _⟩, _, havings, _, _, unions, _, _, _⟩ =>
    if table.isEmpty then []
    else Conditions.nested conditions ++ Conditions.nested havings ++ Select.nestedInBranches unions

/-- The statements in union branches, the branches among them. -/
def Select.nestedInBranches : List UnionBranch → List Select
  | [] => []
  | ⟨_, query⟩ :: unions => query :: Select.nested query ++ Select.nestedInBranches unions

end

/-- **The statements in a statement.** -/
def Statement.nested : Statement → List Select
  | .select q => q.nested
  | .update q => if q.table.isEmpty then [] else Conditions.nested q.wheres.conditions
  | .delete q => if q.table.isEmpty then [] else Conditions.nested q.wheres.conditions
  | .insert _ => []
  | .raw _ => []

/-- A SELECT statement begins with its keyword. -/
theorem selectListSql_eq_cons (st : Style) (table : String) (called : Option String)
    (columns : List SelectColumn) (distinct : Bool) (aggregates : AggregateClause) :
    ∃ rest, (selectListSql st table called columns distinct aggregates).toList = 'S' :: rest := by
  unfold selectListSql
  dsimp only
  split
  · simp only [String.toList_append, List.append_assoc]
    exact ⟨_, rfl⟩
  · simp only [String.toList_append, List.append_assoc]
    exact ⟨_, rfl⟩

/-- **A SELECT statement is settled**: it begins with something solid and was squeezed. -/
theorem Select.isSettled_template (st : Style) {q : Select} (hq : q.table.isEmpty = false) :
    IsSettled (q.template st) := by
  obtain ⟨table, called, columns, distinct, joins, ⟨conditions, inConditions⟩, groups, havings,
    orders, aggregates, unions, limit, offset, inTable⟩ := q
  intro started pending
  obtain ⟨rest, hrest⟩ := selectListSql_eq_cons st table called columns distinct aggregates
  have htext : text (selectListSql st table called columns distinct aggregates) =
      .char 'S' :: rest.map .char := by
    rw [text, hrest]
    rfl
  simp only [Select.template]
  rw [if_neg (Bool.not_eq_true _ ▸ hq), htext]
  exact squeeze_squeeze_of_solid rfl rfl started pending _

mutual

/-- A statement stands in the test that it is nested in. -/
theorem Predicate.infix_template (st : Style) (kind : ClauseKind) (table : String) {q : Select}
    (hq : q.table.isEmpty = false) : ∀ predicate : Predicate, q ∈ predicate.nested →
      q.template st <:+: predicate.template st kind table
  | .compare _ _ _, h => absurd h (by simp [Predicate.nested])
  | .raw _ _, h => absurd h (by simp [Predicate.nested])
  | .related _ _ _ _, h => absurd h (by simp [Predicate.nested])
  | .subquery query wanted, h => by
    simp only [Predicate.template]
    refine infix_enclosed ?_ _
    rcases List.mem_cons.mp h with rfl | hmem
    · exact List.infix_rfl
    · exact Select.infix_template st hq query hmem
  | .group conditions, h => by
    simp only [Predicate.template]
    exact infix_enclosed (Conditions.infix_templateFrom st kind table false hq conditions h) _

/-- A statement stands in the conditions that it is nested in. -/
theorem Conditions.infix_templateFrom (st : Style) (kind : ClauseKind) (table : String)
    (started : Bool) {q : Select} (hq : q.table.isEmpty = false) :
    ∀ conditions : List Condition, q ∈ Conditions.nested conditions →
      q.template st <:+: Conditions.templateFrom st kind table started conditions
  | [], h => absurd h (by simp [Conditions.nested])
  | ⟨joiner, predicate⟩ :: conditions, h => by
    have hfirst := Predicate.infix_template st kind table hq predicate
    have hrest := fun started => Conditions.infix_templateFrom st kind table started hq conditions
    simp only [Conditions.templateFrom]
    rcases List.mem_append.mp h with hp | hc
    · split
      · exact (hfirst hp).trans (List.prefix_append _ _).isInfix
      · exact (hfirst hp).trans (List.infix_append _ _ _)
    · split
      · exact (hrest started hc).trans (List.suffix_append _ _).isInfix
      · exact (hrest true hc).trans (List.suffix_append _ _).isInfix

/-- **A statement stands in the statement that it is nested in**, as it stands alone. -/
theorem Select.infix_template (st : Style) {q : Select} (hq : q.table.isEmpty = false) :
    ∀ outer : Select, q ∈ outer.nested → q.template st <:+: outer.template st
  | ⟨table, called, columns, distinct, joins, ⟨conditions, inConditions⟩, groups, havings, orders,
      aggregates, unions, limit, offset, inTable⟩, h => by
    have hwheres := Conditions.infix_templateFrom st .wheres table false hq conditions
    have hhavings := Conditions.infix_templateFrom st .having table false hq havings
    have hbranches := Select.infix_branchTemplates st hq unions
    simp only [Select.nested] at h
    simp only [Select.template]
    split
    · rename_i hempty
      rw [if_pos hempty] at h
      exact absurd h (by simp)
    · rename_i hempty
      rw [if_neg hempty] at h
      refine (Select.isSettled_template st hq).infix_squeeze ?_
      rcases List.mem_append.mp h with hwh | hu
      · rcases List.mem_append.mp hwh with hw | hh
        · exact infix_joined (by simp) (infix_headed (hwheres hw) "WHERE")
        · exact infix_joined (by simp) (infix_headed (hhavings hh) "HAVING")
      · obtain ⟨t, ht, hinfix⟩ := hbranches hu
        exact infix_joined (by simp [ht]) hinfix

/-- A statement stands in one of the union branches that it is nested in. -/
theorem Select.infix_branchTemplates (st : Style) {q : Select} (hq : q.table.isEmpty = false) :
    ∀ unions : List UnionBranch, q ∈ Select.nestedInBranches unions →
      ∃ t ∈ Select.branchTemplates st unions, q.template st <:+: t
  | [], h => absurd h (by simp [Select.nestedInBranches])
  | ⟨all, query⟩ :: unions, h => by
    have hquery := Select.infix_template st hq query
    have hrest := Select.infix_branchTemplates st hq unions
    simp only [Select.nestedInBranches, List.cons_append, List.mem_cons, List.mem_append] at h
    simp only [Select.branchTemplates]
    -- in a branch that shows nothing, nothing is nested
    have hstands : q = query ∨ q ∈ query.nested → q.template st <:+: query.template st := by
      rintro (rfl | hmem)
      · exact List.infix_rfl
      · exact hquery hmem
    have hshown : q = query ∨ q ∈ query.nested → ¬(query.template st).isEmpty = true := by
      intro hin hempty
      obtain ⟨front, back, heq⟩ := hstands hin
      rw [← heq, isEmpty_append, isEmpty_append, Select.isEmpty_template, hq, Bool.and_false,
        Bool.false_and] at hempty
      cases hempty
    rcases h with rfl | hmem | hu
    · rw [if_neg (hshown (.inl rfl))]
      exact ⟨_, List.mem_cons_self, infix_headed (hstands (.inl rfl)) _⟩
    · rw [if_neg (hshown (.inr hmem))]
      exact ⟨_, List.mem_cons_self, infix_headed (hstands (.inr hmem)) _⟩
    · obtain ⟨t, ht, hinfix⟩ := hrest hu
      split
      · exact ⟨t, ht, hinfix⟩
      · exact ⟨t, List.mem_cons_of_mem _ ht, hinfix⟩

end

/-- **A statement stands in any statement that it is nested in.** -/
theorem Statement.infix_template (st : Style) {q : Select} {s : Statement} (h : q ∈ s.nested) :
    q.template st <:+: s.template st := by
  cases htable : q.table.isEmpty with
  | true =>
    -- a statement without a table shows nothing, and nothing stands everywhere
    have hnil : q.template st = [] := by
      rw [Select.template_eq_frame, if_pos htable]
    rw [hnil]
    exact List.nil_infix
  | false =>
    have hwhole : ∀ (table : String) (clause : WhereClause) (front : Template),
        q ∈ (if table.isEmpty then [] else Conditions.nested clause.conditions) →
          q.template st <:+:
            if table.isEmpty then [] else squeeze (front ++ clause.template st table) := by
      intro table clause front hc
      split
      · rename_i hempty
        rw [if_pos hempty] at hc
        exact absurd hc (by simp)
      · rename_i hempty
        rw [if_neg hempty] at hc
        have hconditions := Conditions.infix_templateFrom st .wheres table false htable _ hc
        refine (Select.isSettled_template st htable).infix_squeeze ?_
        exact (infix_headed hconditions "WHERE").trans (List.suffix_append _ _).isInfix
    cases s with
    | select outer => exact Select.infix_template st htable outer h
    | insert _ => exact absurd h (by simp [Statement.nested])
    | update u => exact hwhole u.table u.wheres _ h
    | delete d => exact hwhole d.table d.wheres _ h
    | raw _ => exact absurd h (by simp [Statement.nested])

/-! ## Compiling alike -/

/-- The names of a statement's operands under some numbers. -/
def Select.operandNames (q : Select) (numbers : List Nat) : List String :=
  List.zipWith Slot.name q.operands numbers

/-- The text of a statement in which its operands go by some numbers. -/
def Select.textWith (st : Style) (q : Select) (numbers : List Nat) : List Char :=
  weave (pieces (q.template st)) (q.operandNames numbers)

/-- **A statement compiled after any parameters**, if its raw fragments come without parameters: these
    stay as they are, and its operands are added under new names of their own. -/
theorem Select.assemble_template (st : Style) {q : Select} (h : q.isBare = true) (ps : Params) :
    let numbers := slotNumbers ps (q.template st)
    numbers.length = q.operands.length ∧
      (assemble ps (q.template st)).1 = q.textWith st numbers ∧
      (assemble ps (q.template st)).2.entries =
        ps.entries ++ (q.operandNames numbers).zip (q.operands.map Slot.value) ∧
      (q.operandNames numbers).Nodup ∧ ∀ name ∈ q.operandNames numbers, name ∉ ps.names := by
  intro numbers
  have hslots : slots (q.template st) = q.operands := Select.slots_template st q
  have hnames : slotNames ps (q.template st) = q.operandNames numbers := by
    rw [slotNames_eq_zipWith, hslots]
    rfl
  have hfresh := slotNames_fresh ps (q.template st)
  rw [hnames] at hfresh
  refine ⟨?_, ?_, ?_, hfresh⟩
  · rw [length_slotNumbers, hslots]
  · rw [assemble_fst_eq_weave, hnames]
    rfl
  · rw [entries_assemble ps (Select.isBare_template st q h), hnames, hslots]

/-- **A statement compiles alike everywhere.** After any parameters its text is the same but for the
    numbers in the names of its operands, and it adds the same values under new names. Nested in
    another statement, it stands there as it compiles at that point of the parameters. Its names keep
    their places to the end, and so do its values unless a raw fragment brings the same name. -/
theorem Select.compiles_alike (st : Style) (q : Select) (h : q.isBare = true) :
    (∀ ps : Params, ∃ numbers : List Nat, numbers.length = q.operands.length ∧
      (assemble ps (q.template st)).1 = q.textWith st numbers ∧
      (assemble ps (q.template st)).2.entries =
        ps.entries ++ (q.operandNames numbers).zip (q.operands.map Slot.value) ∧
      (q.operandNames numbers).Nodup ∧ ∀ name ∈ q.operandNames numbers, name ∉ ps.names) ∧
    ∀ s : Statement, q ∈ s.nested → ∃ (ps : Params) (before after : List Char),
      (s.build st).sql.toList = before ++ (assemble ps (q.template st)).1 ++ after ∧
      (assemble ps (q.template st)).2.names <+: (s.build st).params.names ∧
      ∀ (i : Nat) (name : String) (value : Value),
        (assemble ps (q.template st)).2.entries[i]? = some (name, value) →
        name ∉ givenNames (s.template st) →
        (s.build st).params.entries[i]? = some (name, value) := by
  refine ⟨fun ps => ⟨_, Select.assemble_template st h ps⟩, fun s hs => ?_⟩
  obtain ⟨front, back, hstands⟩ := Statement.infix_template st hs
  let ps : Params := (assemble .empty front).2
  let next : Params := (assemble ps (q.template st)).2
  have hassemble : assemble .empty (s.template st) =
      ((assemble .empty front).1 ++ (assemble ps (q.template st)).1 ++ (assemble next back).1,
        (assemble next back).2) := by
    rw [← hstands, assemble_append, assemble_append]
  have hsql : (s.build st).sql.toList = (assemble .empty (s.template st)).1 := String.toList_ofList
  have hparams : (s.build st).params = (assemble next back).2 := by
    show (assemble .empty (s.template st)).2 = _
    rw [hassemble]
  refine ⟨ps, (assemble .empty front).1, (assemble next back).1, ?_, ?_, ?_⟩
  · rw [hsql, hassemble]
  · rw [hparams]
    exact names_prefix_assemble next back
  · intro i name value hi hgiven
    rw [hparams]
    refine getElem?_assemble (fun hback => hgiven ?_) hi
    rw [← hstands, givenNames, List.flatMap_append]
    exact List.mem_append_right _ hback

/-- Posts with five stars. -/
def Select.fiveStars : Select :=
  Select.ofSteps [.target "posts", .filter (.compare .and (.name "stars") .equal (.int 5))]

/-- A removal of users, with these posts as a branch of a subquery. -/
def Statement.removalByStars : Statement :=
  .delete {
    table := "users"
    wheres := (WhereClause.empty.step (.compare .and (.name "age") .less (.int 18))).pushSubquery
      ((Select.ofSteps [.target "pages", .limit 2]).union true .fiveStars) false }

/-- The posts stand in the removal, whose first value is another one. -/
theorem Select.fiveStars_stands :
    fiveStars.isBare = true ∧ fiveStars ∈ Statement.removalByStars.nested ∧
      (Statement.removalByStars.build { dialect := .ansi }).sql =
        "DELETE FROM \"users\" WHERE \"age\" < :users_age_0 AND NOT EXISTS (SELECT * FROM \"pages\""
          ++ " UNION ALL SELECT * FROM \"posts\" WHERE \"stars\" = :posts_stars_1"
          ++ " LIMIT :pages_limit_2)" ∧
      ∃ (ps : Params) (before after : List Char),
        (Statement.removalByStars.build { dialect := .ansi }).sql.toList =
          before ++ (assemble ps (fiveStars.template { dialect := .ansi })).1 ++ after := by
  have hbare : fiveStars.isBare = true := rfl
  have hnested : fiveStars ∈ Statement.removalByStars.nested := by
    show fiveStars ∈ [_, fiveStars]
    exact List.mem_cons_of_mem _ List.mem_cons_self
  refine ⟨hbare, hnested, ?_, ?_⟩
  · decide +kernel
  · obtain ⟨ps, before, after, hsql, -, -⟩ :=
      (compiles_alike { dialect := .ansi } fiveStars hbare).2 Statement.removalByStars hnested
    exact ⟨ps, before, after, hsql⟩

/-- Users with such posts, by a raw fragment that brings a name of its own. -/
def Statement.usersByStars : Statement :=
  .select ((((Select.empty.target "users").mapWheres (·.pushSubquery .fiveStars true)).mapWheres
    (·.step (.raw .and "age > :posts_stars_0" [(":posts_stars_0", .int 1)]))))

/-- The name is that of the subquery, whose value is lost; and a statement without a table is not
    written, so that nothing stands in it. -/
theorem Statement.nested_value_lost :
    Select.fiveStars ∈ Statement.usersByStars.nested ∧
      ((Statement.select .fiveStars).build { dialect := .ansi }).params.entries =
        [(":posts_stars_0", .int 5)] ∧
      (Statement.usersByStars.build { dialect := .ansi }).params.entries =
        [(":posts_stars_0", .int 1)] ∧
      ((Statement.select .fiveStars).build { dialect := .ansi }).sql =
        "SELECT * FROM \"posts\" WHERE \"stars\" = :posts_stars_0" ∧
      ((Statement.select (Select.empty.union false .fiveStars)).build { dialect := .ansi }).sql =
        "" := by
  refine ⟨?_, rfl, rfl, rfl, rfl⟩
  show Select.fiveStars ∈ [Select.fiveStars]
  exact List.mem_singleton_self _

end FluentSql
