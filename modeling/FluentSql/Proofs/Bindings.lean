import FluentSql.Proofs.Operands
import FluentSql.Proofs.WhereClause
/-!
# `FluentSql.Proofs.Bindings` — which value a placeholder ends up with

Names come from two sources. A clause binds its values under generated names, which are always new
ones; a raw fragment brings names of its own, which may be taken. `Statement.bindings` reads both kinds
off the clauses of a statement, from left to right, and `Params.placed` goes over them once and says
under which placeholder each is registered.

* `Params.get?_registered` — a store maps a name to the value registered last;
* `Params.placed_fresh` — a generated name is a new one;
* `Statement.build_params_eq` — the parameters of a finished statement are its bindings, registered
  one after the other;
* `Statement.build_keeps_last_value` — what this makes of the value of one binding.
-/

namespace FluentSql

open FluentSql.Text Template

/-! ## Bindings -/

/-- **A binding**: a value and where its name comes from. -/
inductive Binding where
  /-- A value of a clause, under a generated name. -/
  | generated (slot : Slot)
  /-- A value of a raw fragment, under the caller's name. -/
  | given (name : String) (value : Value)
  deriving DecidableEq

namespace Binding

/-- The value that is bound. -/
def value : Binding → Value
  | .generated slot => slot.value
  | .given _ value => value

/-- Whether the name is a generated one. -/
def isGenerated : Binding → Bool
  | .generated _ => true
  | .given _ _ => false

/-- **The names that a binding can be registered under**: the caller's with its colon, or the generated
    one with any number. -/
def Fits (name : String) : Binding → Prop
  | .generated slot => ∃ n, name = Params.placeholderName slot.table slot.column n
  | .given called _ => name = Params.colonName called

end Binding

/-- The bindings that parameters bring. -/
def Params.bindings (ps : Params) : List Binding :=
  ps.entries.map fun (name, value) => .given name value

mutual

/-- **The bindings of a test** in a statement on `table`. -/
def Predicate.bindings (table : String) : Predicate → List Binding
  | .compare column _ operand => operand.values.map fun v => .generated ⟨table, column.text, v⟩
  | .raw _ params => params.bindings
  | .related _ _ _ _ => []
  | .subquery query _ => Select.bindings query
  | .group conditions => Conditions.bindings table conditions

/-- The bindings of conditions. -/
def Conditions.bindings (table : String) : List Condition → List Binding
  | [] => []
  | ⟨_, predicate⟩ :: conditions =>
    Predicate.bindings table predicate ++ Conditions.bindings table conditions

/-- **The bindings of a SELECT statement**; without a table it is not written, and there are none. -/
def Select.bindings : Select → List Binding
  | ⟨table, _, _, _, _, ⟨conditions, _⟩, _, havings, _, _, unions, limit, offset, _⟩ =>
    if table.isEmpty then []
    else
      Conditions.bindings table conditions ++ Conditions.bindings table havings
        ++ Select.bindingsOfBranches unions
        ++ (rowCountOperands table "limit" limit).map .generated
        ++ (rowCountOperands table "offset" offset).map .generated

/-- The bindings of union branches. -/
def Select.bindingsOfBranches : List UnionBranch → List Binding
  | [] => []
  | ⟨_, query⟩ :: unions => Select.bindings query ++ Select.bindingsOfBranches unions

end

/-- **The bindings of a statement**, from left to right. -/
def Statement.bindings : Statement → List Binding
  | .select q => q.bindings
  | .insert q => q.operands.map .generated
  | .update q =>
    if q.table.isEmpty then []
    else
      q.data.entries.map (fun (column, value) => .generated ⟨q.table, column, value⟩)
        ++ Conditions.bindings q.table q.wheres.conditions
  | .delete q => if q.table.isEmpty then [] else Conditions.bindings q.table q.wheres.conditions
  | .raw q => q.params.bindings

/-! ## Registering -/

namespace Params

/-- **One binding registered**: its placeholder and the parameters after it. -/
def register (ps : Params) : Binding → String × Params
  | .generated slot => ps.bind slot.table slot.column slot.value
  | .given name value => (colonName name, ps.add name value)

/-- The parameters after bindings were registered. -/
def registered (ps : Params) (bs : List Binding) : Params :=
  bs.foldl (fun ps b => (ps.register b).2) ps

/-- **Bindings with their placeholders**, after the parameters there are. -/
def placed (ps : Params) : List Binding → List (String × Binding)
  | [] => []
  | b :: bs => ((ps.register b).1, b) :: placed (ps.register b).2 bs

/-- **The value that a name was given last**; names count with or without their colon. -/
def lastValue (name : String) (placed : List (String × Binding)) : Option Value :=
  (placed.reverse.find? fun p => p.1 = colonName name).map (·.2.value)

theorem placed_append (ps : Params) (bs cs : List Binding) :
    ps.placed (bs ++ cs) = ps.placed bs ++ (ps.registered bs).placed cs := by
  induction bs generalizing ps with
  | nil => rfl
  | cons b bs ih => exact congrArg (((ps.register b).1, b) :: ·) (ih (ps.register b).2)

theorem map_snd_placed (ps : Params) (bs : List Binding) : (ps.placed bs).map Prod.snd = bs := by
  induction bs generalizing ps with
  | nil => rfl
  | cons b bs ih => exact congrArg (b :: ·) (ih (ps.register b).2)

/-! ## Names -/

theorem fits_register (ps : Params) (b : Binding) : b.Fits (ps.register b).1 := by
  cases b with
  | generated slot => exact ⟨ps.freshSuffix slot.table slot.column, rfl⟩
  | given name value => rfl

/-- Every placeholder fits its binding. -/
theorem fits_placed {ps : Params} {bs : List Binding} :
    ∀ p ∈ ps.placed bs, p.2.Fits p.1 := by
  induction bs generalizing ps with
  | nil =>
    intro p hp
    cases hp
  | cons b bs ih =>
    intro p hp
    rcases List.mem_cons.mp hp with rfl | hrest
    · exact fits_register ps b
    · exact ih p hrest

/-- A placeholder has its colon. -/
theorem colonName_of_fits {name : String} {b : Binding} (h : b.Fits name) :
    colonName name = name := by
  cases b with
  | generated slot =>
    obtain ⟨n, rfl⟩ := h
    exact colonName_of_cons (toList_placeholderName slot.table slot.column n)
  | given called value =>
    obtain rfl : name = colonName called := h
    exact colonName_colonName called

/-- Names stay where they are when a binding is registered, and its own is among them. -/
theorem names_register (ps : Params) (b : Binding) :
    ps.names <+: (ps.register b).2.names ∧ (ps.register b).1 ∈ (ps.register b).2.names := by
  cases b with
  | generated slot =>
    show ps.names <+: (ps.bind slot.table slot.column slot.value).2.names ∧
      (ps.bind slot.table slot.column slot.value).1 ∈
        (ps.bind slot.table slot.column slot.value).2.names
    rw [names_bind]
    exact ⟨List.prefix_append _ _, List.mem_append_right _ (List.mem_singleton_self _)⟩
  | given name value =>
    show ps.names <+: (ps.add name value).names ∧ colonName name ∈ (ps.add name value).names
    rw [names_add]
    refine ⟨prefix_withName ps.names name, ?_⟩
    unfold withName
    split
    · assumption
    · exact List.mem_append_right _ (List.mem_singleton_self _)

/-- **A generated name is a new one**: no parameter there was has it. -/
theorem placed_fresh {ps : Params} {bs : List Binding} :
    ∀ p ∈ ps.placed bs, p.2.isGenerated = true → p.1 ∉ ps.names := by
  induction bs generalizing ps with
  | nil =>
    intro p hp
    cases hp
  | cons b bs ih =>
    intro p hp hgenerated
    rcases List.mem_cons.mp hp with rfl | hrest
    · cases b with
      | generated slot => exact bind_fst_not_mem ps slot.table slot.column slot.value
      | given name value => cases hgenerated
    · intro hmem
      exact ih p hrest hgenerated ((names_register ps b).1.subset hmem)

/-- **No generated name was used before**, by a clause or by a raw fragment. -/
theorem ne_of_placed_eq_append {ps : Params} {bs : List Binding} {front back : List (String × Binding)}
    {p : String × Binding} (h : ps.placed bs = front ++ p :: back) (hp : p.2.isGenerated = true) :
    ∀ earlier ∈ front, earlier.1 ≠ p.1 := by
  induction front generalizing ps bs with
  | nil =>
    intro earlier hearlier
    cases hearlier
  | cons first front ih =>
    cases bs with
    | nil => cases h
    | cons b bs =>
      obtain ⟨rfl, hrest⟩ := List.cons.inj h
      intro earlier hearlier
      rcases List.mem_cons.mp hearlier with rfl | hfront
      · have hmem : p ∈ (ps.register b).2.placed bs := by
          rw [hrest]
          exact List.mem_append_right _ List.mem_cons_self
        intro heq
        exact placed_fresh p hmem hp (heq ▸ (names_register ps b).2)
      · exact ih hrest earlier hfront

/-! ## Values -/

theorem lookup_append_singleton (key name : String) (value : Value) (entries : List (String × Value)) :
    OrderedMap.lookup key (entries ++ [(name, value)]) =
      (OrderedMap.lookup key entries).or (if name = key then some value else none) := by
  induction entries with
  | nil => rfl
  | cons e entries ih =>
    obtain ⟨k, v⟩ := e
    by_cases hk : k = key
    · simp [OrderedMap.lookup, hk]
    · simp [OrderedMap.lookup, hk, ih]

/-- **What is found after one binding**: its value under its placeholder, the old values elsewhere. -/
theorem get?_register (ps : Params) (b : Binding) (name : String) :
    (ps.register b).2.get? name =
      if (ps.register b).1 = colonName name then some b.value else ps.get? name := by
  cases b with
  | given called value => exact OrderedMap.get?_insert ps.map (colonName called) (colonName name) value
  | generated slot =>
    have hfresh := bind_fst_not_mem ps slot.table slot.column slot.value
    have hlookup : (ps.register (.generated slot)).2.get? name =
        (ps.get? name).or (if (ps.register (.generated slot)).1 = colonName name
          then some slot.value else none) :=
      lookup_append_singleton (colonName name) _ slot.value ps.entries
    rw [hlookup]
    by_cases hname : (ps.register (.generated slot)).1 = colonName name
    · have hnone : ps.get? name = none := by
        refine Option.not_isSome_iff_eq_none.mp fun hsome => hfresh ?_
        show (ps.register (.generated slot)).1 ∈ ps.names
        rw [hname]
        exact (OrderedMap.lookup_isSome_iff (colonName name) ps.entries).mp hsome
      rw [if_pos hname, if_pos hname, hnone]
      rfl
    · rw [if_neg hname, if_neg hname, Option.or_none]

theorem lastValue_cons (name : String) (p : String × Binding) (placed : List (String × Binding)) :
    lastValue name (p :: placed) =
      (lastValue name placed).or (if p.1 = colonName name then some p.2.value else none) := by
  unfold lastValue
  rw [List.reverse_cons, List.find?_append, Option.map_or]
  by_cases hp : p.1 = colonName name <;> simp [hp]

/-- **A store maps a name to the value registered last**, or as it did before. -/
theorem get?_registered (ps : Params) (bs : List Binding) (name : String) :
    (ps.registered bs).get? name = (lastValue name (ps.placed bs)).or (ps.get? name) := by
  induction bs generalizing ps with
  | nil => rfl
  | cons b bs ih =>
    rw [placed, lastValue_cons]
    show ((ps.register b).2.registered bs).get? name = _
    rw [ih, get?_register, Option.or_assoc]
    congr 1
    by_cases hname : (ps.register b).1 = colonName name
    · rw [if_pos hname, if_pos hname]
      rfl
    · rw [if_neg hname, if_neg hname]
      rfl

/-- **Within one fragment**, too, the value that is given last under a name wins. -/
theorem get?_ofList (pairs : List (String × Value)) (name : String) :
    (ofList pairs).get? name =
      lastValue name (empty.placed (pairs.map fun (name, value) => .given name value)) := by
  have hregistered : ofList pairs =
      empty.registered (pairs.map fun (name, value) => .given name value) := by
    rw [registered, List.foldl_map]
    rfl
  rw [hregistered, get?_registered]
  exact Option.or_none

/-- A value stays if its placeholder is not used again. -/
theorem lastValue_of_forall_ne {front back : List (String × Binding)} {p : String × Binding}
    (hp : colonName p.1 = p.1) (hback : ∀ later ∈ back, later.1 ≠ p.1) :
    lastValue p.1 (front ++ p :: back) = some p.2.value := by
  have hnone : back.reverse.find? (fun q => q.1 = p.1) = none := by
    refine List.find?_eq_none.mpr fun later hlater heq => ?_
    exact hback later (List.mem_reverse.mp hlater) (of_decide_eq_true heq)
  rw [lastValue, hp, List.reverse_append, List.reverse_cons, List.find?_append, List.find?_append,
    hnone]
  simp

end Params

/-! ## Templates register the bindings of their statements -/

/-- The bindings that a symbol brings. -/
def Symbol.bindings : Symbol → List Binding
  | .char _ => []
  | .slot table column value => [.generated ⟨table, column, value⟩]
  | .given params => params.bindings

namespace Template

/-- **The bindings of a template**, in order. -/
def bindings (t : Template) : List Binding := t.flatMap Symbol.bindings

@[simp] theorem bindings_nil : bindings [] = [] := by
  rw [bindings, List.flatMap_nil]

theorem bindings_cons (a : Symbol) (t : Template) : bindings (a :: t) = a.bindings ++ bindings t :=
  List.flatMap_cons

@[simp] theorem bindings_slot (table column : String) (v : Value) :
    bindings [.slot table column v] = [.generated ⟨table, column, v⟩] := by
  rw [bindings_cons, bindings_nil, List.append_nil, Symbol.bindings]

@[simp] theorem bindings_append (s t : Template) : bindings (s ++ t) = bindings s ++ bindings t :=
  List.flatMap_append

@[simp] theorem bindings_text (s : String) : bindings (text s) = [] := by
  simp [bindings, text, Symbol.bindings, List.flatMap_map]

/-- Squeezing drops blanks and adds blanks, and a blank brings nothing. -/
@[simp] theorem bindings_squeeze (t : Template) : bindings t.squeeze = bindings t := by
  refine flatMap_squeeze rfl (fun a ha => ?_) false false t
  cases a with
  | char c => rfl
  | slot _ _ _ => cases ha
  | given _ => cases ha

@[simp] theorem bindings_joined (sep : String) (ts : List Template) :
    bindings (joined sep ts) = ts.flatMap bindings := by
  induction ts with
  | nil => rfl
  | cons t ts ih =>
    cases ts with
    | nil => simp [joined]
    | cons u us => simp [joined, ih]

@[simp] theorem bindings_headed (keyword : String) (body : Template) :
    bindings (headed keyword body) = bindings body := by
  unfold headed
  split <;> simp

@[simp] theorem bindings_enclosed (opening : String) (body : Template) :
    bindings (enclosed opening body) = bindings body := by
  unfold enclosed
  split <;> simp

/-- **Assembling registers the bindings** of a template, one after the other. -/
theorem assemble_snd_eq_registered (ps : Params) (t : Template) :
    (assemble ps t).2 = ps.registered (bindings t) := by
  induction t generalizing ps with
  | nil => rfl
  | cons a t ih =>
    rw [assemble_cons, ih, bindings_cons]
    cases a with
    | char c => rfl
    | slot table column v => rfl
    | given params =>
      rw [place_given, Params.registered, Params.registered, List.foldl_append]
      congr 1
      rw [Symbol.bindings, Params.bindings, List.foldl_map]
      rfl

/-- **The names in the text** are those of the generated bindings. -/
theorem slotNames_eq_placed (ps : Params) (t : Template) :
    slotNames ps t =
      ((ps.placed (bindings t)).filter fun p => p.2.isGenerated).map Prod.fst := by
  induction t generalizing ps with
  | nil => rfl
  | cons a t ih =>
    rw [bindings_cons, Params.placed_append, List.filter_append,
      List.map_append]
    cases a with
    | char c => exact ih ps
    | slot table column v =>
      rw [slotNames, ih]
      rfl
    | given params =>
      have hnone : ((ps.placed params.bindings).filter fun p => p.2.isGenerated) = [] := by
        refine List.filter_eq_nil_iff.mpr fun p hp => ?_
        have hmem : p.2 ∈ params.bindings := by
          rw [← Params.map_snd_placed ps params.bindings]
          exact List.mem_map_of_mem hp
        obtain ⟨e, -, he⟩ := List.mem_map.mp hmem
        rw [← he]
        exact Bool.false_ne_true
      have hmerge : ps.merge params = ps.registered params.bindings := by
        have := assemble_snd_eq_registered ps [.given params]
        simpa [assemble, bindings, Symbol.bindings] using this
      rw [slotNames, ih, Symbol.bindings, hnone, hmerge]
      rfl

theorem bindings_eq_map_slots {t : Template} (ht : IsBare t) :
    bindings t = (slots t).map .generated := by
  induction t with
  | nil => rfl
  | cons a t ih =>
    rw [bindings_cons, ih ht.tail]
    cases a with
    | char c => rfl
    | slot table column v => rfl
    | given params =>
      have hp : params = .empty := ht params (by simp)
      subst hp
      rfl

end Template

mutual

/-- The template of a test has the test's bindings. -/
theorem Predicate.bindings_template (st : Style) (kind : ClauseKind) (table : String) :
    ∀ predicate : Predicate,
      (predicate.template st kind table).bindings = predicate.bindings table
  | .compare column op operand => by
    simp only [Predicate.template, Predicate.bindings]
    rw [bindings_eq_map_slots (isBare_compareTemplate st kind table column op operand),
      slots_compareTemplate, List.map_map]
    rfl
  | .raw sql params => by
    simp only [Predicate.template, Predicate.bindings]
    show params.bindings ++ Template.bindings (text sql) = params.bindings
    rw [bindings_text, List.append_nil]
  | .related other column parent wanted => by simp [Predicate.template, Predicate.bindings]
  | .subquery query wanted => by
    simp only [Predicate.template, Predicate.bindings, bindings_enclosed]
    exact Select.bindings_template st query
  | .group conditions => by
    simp only [Predicate.template, Predicate.bindings, bindings_enclosed]
    exact Conditions.bindings_templateFrom st kind table false conditions

/-- The template of conditions has their bindings, whether something was written before or not. -/
theorem Conditions.bindings_templateFrom (st : Style) (kind : ClauseKind) (table : String)
    (started : Bool) : ∀ conditions : List Condition,
      (Conditions.templateFrom st kind table started conditions).bindings =
        Conditions.bindings table conditions
  | [] => rfl
  | ⟨joiner, predicate⟩ :: conditions => by
    have hp := Predicate.bindings_template st kind table predicate
    simp only [Conditions.templateFrom, Conditions.bindings]
    split
    · -- a fragment without text is not shown, but what it binds is registered
      rw [bindings_append, hp, Conditions.bindings_templateFrom st kind table started conditions]
    · rw [bindings_append, bindings_append, hp,
        Conditions.bindings_templateFrom st kind table true conditions]
      split <;> simp

/-- **The template of a SELECT statement** has the statement's bindings. -/
theorem Select.bindings_template (st : Style) : ∀ q : Select,
    (q.template st).bindings = q.bindings
  | ⟨table, called, columns, distinct, joins, ⟨conditions, inConditions⟩, groups, havings, orders,
      aggregates, unions, limit, offset, inTable⟩ => by
    have hw := Conditions.bindings_templateFrom st .wheres table false conditions
    have hh := Conditions.bindings_templateFrom st .having table false havings
    have hu := Select.bindings_branchTemplates st unions
    have hrows : ∀ (keyword column : String) (n : Option UInt64),
        (n.map (rowCountTemplate keyword table column)).toList.flatMap Template.bindings =
          (rowCountOperands table column n).map .generated := by
      intro keyword column n
      cases n <;> simp [rowCountTemplate, rowCountOperands]
    simp only [Select.template, Select.bindings]
    split
    · rfl
    · simp only [bindings_squeeze, bindings_joined, List.flatMap_append, List.flatMap_cons,
        List.flatMap_nil, bindings_text, bindings_headed, hrows, hw, hh, hu, List.nil_append,
        List.append_nil, List.append_assoc]

/-- The templates of union branches have their bindings; a branch without a table has none. -/
theorem Select.bindings_branchTemplates (st : Style) : ∀ unions : List UnionBranch,
    (Select.branchTemplates st unions).flatMap Template.bindings = Select.bindingsOfBranches unions
  | [] => rfl
  | ⟨all, query⟩ :: unions => by
    have hq := Select.bindings_template st query
    have hu := Select.bindings_branchTemplates st unions
    simp only [Select.branchTemplates, Select.bindingsOfBranches]
    split
    · rename_i hempty
      have htable : query.table.isEmpty = true := by
        rw [← Select.isEmpty_template st query]
        exact hempty
      have hnone : query.template st = [] := by
        rw [Select.template_eq_frame, if_pos htable]
      rw [hu, ← hq, hnone]
      rfl
    · rw [List.flatMap_cons, bindings_headed, hq, hu]

end

theorem WhereClause.bindings_template (st : Style) (table : String) (clause : WhereClause) :
    (clause.template st table).bindings = Conditions.bindings table clause.conditions := by
  rw [WhereClause.template, bindings_headed]
  exact Conditions.bindings_templateFrom st .wheres table false clause.conditions

/-- **The template of a statement has the statement's bindings.** -/
theorem Statement.bindings_template (st : Style) (s : Statement) :
    (s.template st).bindings = s.bindings := by
  cases s with
  | select q => exact Select.bindings_template st q
  | insert q =>
    show (q.template st).bindings = q.operands.map .generated
    rw [bindings_eq_map_slots (Insert.isBare_template st q), Insert.slots_template]
  | update q =>
    simp only [Statement.template, Statement.bindings, Update.template]
    split
    · rfl
    · simp only [bindings_squeeze, bindings_append, bindings_text, bindings_joined,
        List.flatMap_map, WhereClause.bindings_template, Update.assignmentTemplate, bindings_slot,
        List.nil_append, List.append_nil]
      rw [List.map_eq_flatMap]
  | delete q =>
    simp only [Statement.template, Statement.bindings, Delete.template]
    split
    · rfl
    · simp only [bindings_squeeze, bindings_append, bindings_text, WhereClause.bindings_template,
        List.nil_append]
  | raw q =>
    show q.params.bindings ++ Template.bindings (text q.sql) = q.params.bindings
    rw [bindings_text, List.append_nil]

/-! ## Finished statements -/

/-- **The bindings of a statement with their placeholders** in the finished statement. -/
def Statement.placed (s : Statement) : List (String × Binding) := Params.empty.placed s.bindings

/-- **The parameters of a finished statement** are its bindings, registered one after the other. -/
theorem Statement.build_params_eq (st : Style) (s : Statement) :
    (s.build st).params = Params.empty.registered s.bindings := by
  rw [← Statement.bindings_template st s]
  exact assemble_snd_eq_registered .empty (s.template st)

theorem Statement.get?_build (st : Style) (s : Statement) (name : String) :
    (s.build st).params.get? name = Params.lastValue name s.placed := by
  rw [Statement.build_params_eq, Params.get?_registered]
  exact Option.or_none

/-- **A binding keeps its value unless a raw fragment takes its name later.** Every binding of a
    statement is registered under a placeholder that fits it; the generated ones stand in the text, in
    order, between pieces of text. The store maps a name to the value that was registered under it last
    and knows no other name; so do the parameters of one raw fragment. A generated name is used by
    nothing before it, so only a later raw fragment with the same name replaces a value. -/
theorem Statement.build_keeps_last_value (st : Style) (s : Statement) :
    s.placed.map Prod.snd = s.bindings ∧
    (∀ p ∈ s.placed, p.2.Fits p.1) ∧
    (s.build st).sql.toList =
      weave (pieces (s.template st)) ((s.placed.filter fun p => p.2.isGenerated).map Prod.fst) ∧
    (∀ name, (s.build st).params.get? name = Params.lastValue name s.placed) ∧
    (∀ pairs name, (Params.ofList pairs).get? name =
      Params.lastValue name (Params.empty.placed (pairs.map fun (name, value) => .given name value))) ∧
    ∀ front p back, s.placed = front ++ p :: back →
      (p.2.isGenerated = true → ∀ earlier ∈ front, earlier.1 ≠ p.1) ∧
      ((∀ later ∈ back, later.2.isGenerated = false → later.1 ≠ p.1) →
        (s.build st).params.get? p.1 = some p.2.value) := by
  refine ⟨Params.map_snd_placed .empty s.bindings, Params.fits_placed, ?_,
    Statement.get?_build st s, Params.get?_ofList, ?_⟩
  · have hsql : (s.build st).sql.toList = (assemble .empty (s.template st)).1 :=
      String.toList_ofList
    rw [hsql, assemble_fst_eq_weave, slotNames_eq_placed, Statement.bindings_template]
    rfl
  · intro front p back hplaced
    refine ⟨Params.ne_of_placed_eq_append hplaced, fun hgiven => ?_⟩
    have hp : p ∈ s.placed := hplaced ▸ List.mem_append_right _ List.mem_cons_self
    have hback : ∀ later ∈ back, later.1 ≠ p.1 := by
      intro later hlater heq
      by_cases hgenerated : later.2.isGenerated = true
      · -- a generated name is no earlier one, and `p` is earlier
        obtain ⟨between, after, rfl⟩ := List.append_of_mem hlater
        have hsplit : s.placed = (front ++ p :: between) ++ later :: after := by simp [hplaced]
        exact Params.ne_of_placed_eq_append hsplit hgenerated p (by simp) heq.symm
      · exact hgiven later hlater (Bool.eq_false_iff.mpr hgenerated) heq
    rw [Statement.get?_build, hplaced]
    exact Params.lastValue_of_forall_ne (Params.colonName_of_fits (Params.fits_placed p hp)) hback

/-- A statement with two raw fragments that use one name, the second of them in a subquery, and with a
    raw fragment in a branch that uses a generated name. -/
def Statement.sharedNames : Statement :=
  .select (Select.ofSteps [
    .target "users",
    .filter (.raw .and "age >= :min" [(":min", .int 1)]),
    .filter (.compare .and (.name "name") .equal (.text "ann")),
    .filter (.subquery [.target "posts", .filter (.raw .and "stars >= :min" [("min", .int 5)])] true),
    .union false [.target "admins", .filter (.raw .and "id = :users_name_1" [("users_name_1", .int 9)])],
    .limit 3])

/-- The last fragment and the number of rows keep their values: nothing later has their names. -/
theorem Statement.sharedNames_keeps_last :
    sharedNames.placed.map Prod.fst =
        [":min", ":users_name_1", ":min", ":users_name_1", ":users_limit_2"] ∧
      (sharedNames.build { dialect := .sqlite }).params.get? ":min" = some (.int 5) ∧
      (sharedNames.build { dialect := .sqlite }).params.get? ":users_limit_2" = some (.int 3) := by
  have hplaced := (Statement.build_keeps_last_value { dialect := .sqlite } sharedNames).2.2.2.2.2
  refine ⟨rfl, ?_, ?_⟩
  · exact (hplaced [(":min", .given ":min" (.int 1)),
        (":users_name_1", .generated ⟨"users", "name", .text "ann"⟩)]
      (":min", .given ":min" (.int 5))
      [(":users_name_1", .given ":users_name_1" (.int 9)),
        (":users_limit_2", .generated ⟨"users", "limit", .int 3⟩)] rfl).2 (by decide)
  · exact (hplaced [(":min", .given ":min" (.int 1)),
        (":users_name_1", .generated ⟨"users", "name", .text "ann"⟩),
        (":min", .given ":min" (.int 5)), (":users_name_1", .given ":users_name_1" (.int 9))]
      (":users_limit_2", .generated ⟨"users", "limit", .int 3⟩) [] rfl).2 (by decide)

/-- The statement is valid, and two of its values are lost: that of the first fragment, and the one
    that was bound under the generated name. -/
theorem Statement.sharedNames_lose_values :
    sharedNames.misuse? = none ∧
      (¬ ∀ p ∈ sharedNames.placed,
        (sharedNames.build { dialect := .sqlite }).params.get? p.1 = some p.2.value) ∧
      (sharedNames.build { dialect := .sqlite }).params.entries =
        [(":min", .int 5), (":users_name_1", .int 9), (":users_limit_2", .int 3)] := by
  have hentries : (sharedNames.build { dialect := .sqlite }).params.entries =
      [(":min", .int 5), (":users_name_1", .int 9), (":users_limit_2", .int 3)] := by
    rw [Statement.build_params_eq]
    rfl
  refine ⟨rfl, ?_, hentries⟩
  intro hkept
  have hmem : (":min", .given ":min" (.int 1)) ∈ sharedNames.placed := List.mem_cons_self
  have hvalue := hkept _ hmem
  rw [Statement.build_params_eq] at hvalue
  exact absurd hvalue (by decide)

end FluentSql
