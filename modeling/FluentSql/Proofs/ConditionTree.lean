import FluentSql.Proofs.Nesting
import FluentSql.Proofs.Parsing
import FluentSql.Proofs.WhereClause
/-!
# `FluentSql.Proofs.ConditionTree` — a list of conditions reads back

The text of a list of conditions, read with identifiers in quotes as single tokens and parsed, is the
list again: its written tests in order, with their conjunctions and the nesting of its groups. What
is in an identifier stays in its token, so no identifier can add, remove or regroup a condition.

* `Predicate.tree`, `Conditions.entries` — the list as the parser is to see it;
* `Conditions.skeletonFrom` — how many entries there are and how they are grouped, which no name of a
  column has a say in;
* `Conditions.parse_compiled` — what the parser does see.
-/

namespace FluentSql

open FluentSql.Text Template Reading Parsing

/-! ## Lists built by pushing -/

/-- **Lists built by pushing**, and the lists in their groups. -/
inductive Conditions.IsPushed : Conditions → Prop where
  | nil : IsPushed []
  | push {conditions : Conditions} (h : IsPushed conditions) (joiner : Conjunction)
      (predicate : Predicate) (hgroup : ∀ inner, predicate = .group inner → IsPushed inner) :
      IsPushed (Conditions.push conditions joiner predicate)

mutual

/-- Whether conditions are joined to each other in the groups of a test. -/
def Predicate.isJoined : Predicate → Bool
  | .group conditions => Conditions.areJoined true conditions
  | _ => true

/-- Whether every condition but the first has a conjunction, in groups too. -/
def Conditions.areJoined (first : Bool) : List Condition → Bool
  | [] => true
  | ⟨joiner, predicate⟩ :: conditions =>
    (first || joiner.isSome) && Predicate.isJoined predicate
      && Conditions.areJoined false conditions

end

theorem Conditions.areJoined_append_singleton (first : Bool) (conditions : List Condition)
    (joiner : Option Conjunction) (predicate : Predicate) :
    areJoined first (conditions ++ [⟨joiner, predicate⟩]) =
      (areJoined first conditions && (first && conditions.isEmpty || joiner.isSome)
        && predicate.isJoined) := by
  induction conditions generalizing first with
  | nil => simp [areJoined]
  | cons c conditions ih =>
    obtain ⟨own, test⟩ := c
    simp [areJoined, ih, Bool.and_assoc]

theorem Conditions.IsPushed.areJoined {conditions : Conditions} (h : conditions.IsPushed) :
    Conditions.areJoined true conditions = true := by
  induction h with
  | nil => rfl
  | @push conditions _ joiner predicate hgroup ih ihgroup =>
    have hpredicate : predicate.isJoined = true := by
      cases predicate with
      | group inner => exact ihgroup inner rfl
      | _ => rfl
    have hjoiner : ((true && conditions.isEmpty) ||
        (if conditions.isEmpty then none else some joiner : Option Conjunction).isSome) = true := by
      cases conditions.isEmpty <;> rfl
    unfold Conditions.push
    split
    · exact ih
    · rw [areJoined_append_singleton, ih, hjoiner, hpredicate]
      rfl

/-! ## Ranges -/

/-- The operators that compare with two values. -/
def Operator.isRange : Operator → Bool
  | .between | .notBetween => true
  | _ => false

/-- Whether an operand is two values. -/
def Operand.isPair : Operand → Bool
  | .pair _ _ => true
  | _ => false

mutual

/-- Whether ranges are compared with pairs, and nothing else is. -/
def Predicate.fitsRanges : Predicate → Bool
  | .compare _ op operand => op.isRange == operand.isPair
  | .group conditions => Conditions.fitRanges conditions
  | _ => true

/-- Whether this is so in all tests. -/
def Conditions.fitRanges : List Condition → Bool
  | [] => true
  | ⟨_, predicate⟩ :: conditions =>
    Predicate.fitsRanges predicate && Conditions.fitRanges conditions

end

/-! ## What is to be read back -/

/-- One identifier; the empty one is not written. -/
def identTokens : List Char → List Token
  | [] => []
  | cs => [.quoted cs]

/-- A segment of a dotted identifier. -/
def segmentTokens (segment : List Char) : List Token :=
  if segment = ['*'] then [.mark '*'] else identTokens segment

/-- The segments of a dotted identifier. -/
def dottedTokens : List (List Char) → List Token
  | [] => []
  | [segment] => segmentTokens segment
  | segment :: segments => segmentTokens segment ++ .mark '.' :: dottedTokens segments

/-- **The column** of a condition. -/
def columnTokens (d : Dialect) : ClauseKind → Column → List Token
  | .wheres, .name s => dottedTokens (splitAt '.' s.toList)
  | .having, .name s => identTokens s.toList
  | _, .raw sql => tokens d sql.toList

/-- The placeholder of a value. -/
def slotToken (ps : Params) (table column : String) (value : Value) : Token :=
  .word (ps.bind table column value).1.toList

/-- The placeholders of a list of values, with commas between them. -/
def slotTokens (ps : Params) (table column : String) : List Value → List Token
  | [] => []
  | [value] => [slotToken ps table column value]
  | value :: values =>
    slotToken ps table column value :: .mark ','
      :: slotTokens (ps.bind table column value).2 table column values

/-- **What a column is compared with.** -/
def operandTokens (ps : Params) (table column : String) : Operand → List Token
  | .single value => [slotToken ps table column value]
  | .pair low high =>
    [slotToken ps table column low, word "AND",
      slotToken (ps.bind table column low).2 table column high]
  | .list values => .mark '(' :: (slotTokens ps table column values ++ [.mark ')'])
  | .null => [word "NULL"]

/-- **A comparison**; one with no values is a comparison of numbers. -/
def compareTokens (d : Dialect) (kind : ClauseKind) (ps : Params) (table : String) (column : Column)
    (op : Operator) : Operand → List Token
  | .list [] => tokens d (amongNothing op).toList
  | operand =>
    columnTokens d kind column
      ++ (tokens d op.sql.toList ++ operandTokens ps table column.text operand)

/-- The keywords of a test whether there are rows. -/
def existsWords (wanted : Bool) : List Token :=
  if wanted then [word "EXISTS"] else [word "NOT", word "EXISTS"]

/-- **A test whether there are rows**, around the tokens of the statement. -/
def existsTokens (wanted : Bool) (inner : List Token) : List Token :=
  existsWords wanted ++ .mark '(' :: (inner ++ [.mark ')'])

mutual

/-- **A test as the parser is to see it**, after the parameters there are. -/
def Predicate.tree (st : Style) (kind : ClauseKind) (table : String) (ps : Params) :
    Predicate → Tree
  | .compare column op operand =>
    .leaf (compareTokens st.dialect kind ps table column op operand)
  | .raw sql _ => .leaf (tokens st.dialect sql.toList)
  | .related other column parent wanted =>
    .leaf (existsTokens wanted
      (tokens st.dialect (relatedInnerSql st table other column parent).toList))
  | .subquery query wanted =>
    .leaf (existsTokens wanted (tokens st.dialect (assemble ps (query.template st)).1))
  | .group conditions => .group (Conditions.entriesFrom st kind table false ps conditions)

/-- Conditions as the parser is to see them, after something that is written (`started`) or after
    nothing. -/
def Conditions.entriesFrom (st : Style) (kind : ClauseKind) (table : String) (started : Bool)
    (ps : Params) : List Condition → List Entry
  | [] => []
  | ⟨joiner, predicate⟩ :: conditions =>
    if Predicate.isWritten predicate then
      ⟨if started then joiner else none, Predicate.tree st kind table ps predicate⟩
        :: Conditions.entriesFrom st kind table true
          (assemble ps (predicate.template st kind table)).2 conditions
    else
      Conditions.entriesFrom st kind table started
        (assemble ps (predicate.template st kind table)).2 conditions

end

/-- **A list of conditions as the parser is to see it.** -/
def Conditions.entries (st : Style) (kind : ClauseKind) (table : String) (ps : Params)
    (conditions : Conditions) : List Entry :=
  entriesFrom st kind table false ps conditions

mutual

/-- **The skeleton of a test**: whether it is a group, and of what. -/
def Predicate.skeleton : Predicate → Tree
  | .group conditions => .group (Conditions.skeletonFrom false conditions)
  | _ => .leaf []

/-- The skeletons of the conditions that are written. -/
def Conditions.skeletonFrom (started : Bool) : List Condition → List Entry
  | [] => []
  | ⟨joiner, predicate⟩ :: conditions =>
    if Predicate.isWritten predicate then
      ⟨if started then joiner else none, Predicate.skeleton predicate⟩
        :: Conditions.skeletonFrom true conditions
    else Conditions.skeletonFrom started conditions

end

mutual

theorem Predicate.skeleton_tree (st : Style) (kind : ClauseKind) (table : String) (ps : Params) :
    ∀ predicate : Predicate, (predicate.tree st kind table ps).skeleton = predicate.skeleton
  | .compare _ _ _ => by simp only [Predicate.tree, Tree.skeleton, Predicate.skeleton]
  | .raw _ _ => by simp only [Predicate.tree, Tree.skeleton, Predicate.skeleton]
  | .related _ _ _ _ => by simp only [Predicate.tree, Tree.skeleton, Predicate.skeleton]
  | .subquery _ _ => by simp only [Predicate.tree, Tree.skeleton, Predicate.skeleton]
  | .group conditions => by
    simp only [Predicate.tree, Tree.skeleton, Predicate.skeleton]
    rw [Conditions.skeletons_entriesFrom st kind table false ps conditions]

theorem Conditions.skeletons_entriesFrom (st : Style) (kind : ClauseKind) (table : String)
    (started : Bool) (ps : Params) : ∀ conditions : List Condition,
      Tree.skeletons (Conditions.entriesFrom st kind table started ps conditions) =
        Conditions.skeletonFrom started conditions
  | [] => rfl
  | ⟨joiner, predicate⟩ :: conditions => by
    simp only [Conditions.entriesFrom, Conditions.skeletonFrom]
    split
    · simp only [Tree.skeletons]
      rw [Predicate.skeleton_tree st kind table ps predicate,
        Conditions.skeletons_entriesFrom st kind table true _ conditions]
    · exact Conditions.skeletons_entriesFrom st kind table started _ conditions

end

/-! ## Identifiers and placeholders -/

theorem isRead_quoteChars (d : Dialect) (cs : List Char) :
    IsRead d (d.quoteChars cs) (identTokens cs) := by
  cases cs with
  | nil => exact isRead_nil
  | cons c cs => exact isRead_wrap (c :: cs)

theorem isRead_quoteSegment (d : Dialect) (segment : List Char) :
    IsRead d (d.quoteSegment segment) (segmentTokens segment) := by
  unfold Dialect.quoteSegment segmentTokens
  split
  · rename_i hstar
    rw [hstar]
    exact isRead_nil.marked (by decide) isRead_nil
  · exact isRead_quoteChars d segment

theorem isRead_dotted (d : Dialect) (segments : List (List Char)) :
    IsRead d (joinWith '.' (segments.map d.quoteSegment)) (dottedTokens segments) := by
  induction segments with
  | nil => exact isRead_nil
  | cons segment segments ih =>
    have hsegment := isRead_quoteSegment d segment
    cases segments with
    | nil => exact hsegment
    | cons next segments => exact hsegment.marked (by decide) ih

/-- **A column of a condition** is read as its identifiers. -/
theorem isRead_conditionColumn (st : Style) (kind : ClauseKind) {column : Column}
    (h : column.isRaw = false) :
    IsRead st.dialect (conditionColumn st kind column).toList
      (columnTokens st.dialect kind column) := by
  cases column with
  | raw sql => cases h
  | name s =>
    cases kind with
    | wheres =>
      show IsRead _ (String.ofList _).toList _
      rw [String.toList_ofList]
      exact isRead_dotted st.dialect (splitAt '.' s.toList)
    | having =>
      show IsRead _ (String.ofList _).toList _
      rw [String.toList_ofList]
      exact isRead_quoteChars st.dialect s.toList

/-- **A placeholder** is one word. -/
theorem isRead_placeholder (d : Dialect) (table column : String) (n : Nat) :
    IsRead d (Params.placeholderName table column n).toList
      [.word (Params.placeholderName table column n).toList] :=
  isRead_word (fun _ hc => inWord_of_mem_placeholderName hc)
    (toList_placeholderName_ne_nil table column n)

theorem isRead_bind (d : Dialect) (ps : Params) (table column : String) (v : Value) :
    IsRead d (ps.bind table column v).1.toList [slotToken ps table column v] :=
  isRead_placeholder d table column (ps.freshSuffix table column)

theorem isRead_slots (d : Dialect) (ps : Params) (table column : String) (v : Value)
    (values : List Value) :
    IsRead d
      (assemble ps (joined ", " ((v :: values).map fun w => [.slot table column w]))).1
      (slotTokens ps table column (v :: values)) := by
  induction values generalizing ps v with
  | nil =>
    have hname := isRead_bind d ps table column v
    simpa [joined, assemble_cons, slotTokens] using hname
  | cons w values ih =>
    have hname := isRead_bind d ps table column v
    have hrest := ih (ps.bind table column v).2 w
    have hall := hname.marked (c := ',') (by decide) (isRead_nil.spaced hrest)
    have htext : (assemble ps (joined ", "
        ((v :: w :: values).map fun w => [.slot table column w]))).1 =
          (ps.bind table column v).1.toList ++ ',' :: ([] ++ ' ' ::
            (assemble (ps.bind table column v).2
              (joined ", " ((w :: values).map fun w => [.slot table column w]))).1) := by
      simp [joined, assemble_append, assemble_text, assemble_cons]
    rw [htext]
    exact hall

/-! ## Comparisons -/

theorem isRead_operator (d : Dialect) (op : Operator) :
    IsRead d op.sql.toList (tokens d op.sql.toList) := by
  refine ⟨rfl, ?_⟩
  cases d <;> cases op <;> rfl

theorem isRead_keyword (d : Dialect) {s : String} (h : s.toList.all inWord = true)
    (hne : s.toList ≠ []) : IsRead d s.toList [word s] :=
  isRead_word (List.all_eq_true.mp h) hne

/-- **A comparison** is read as its column, its operator and its operand. -/
theorem isRead_compareTemplate (st : Style) (kind : ClauseKind) (table : String) (ps : Params)
    {column : Column} (h : column.isRaw = false) (op : Operator) (operand : Operand) :
    IsRead st.dialect (assemble ps (compareTemplate st kind table column op operand)).1
      (compareTokens st.dialect kind ps table column op operand) := by
  have hcolumn := isRead_conditionColumn st kind h
  have hop := isRead_operator st.dialect op
  have hslot := fun ps v => isRead_bind st.dialect ps table column.text v
  have htext : ∀ {cs us}, IsRead st.dialect cs us →
      IsRead st.dialect
        ((conditionColumn st kind column).toList ++ ' ' :: (op.sql.toList ++ ' ' :: cs))
        (columnTokens st.dialect kind column ++ (tokens st.dialect op.sql.toList ++ us)) :=
    fun hcs => hcolumn.spaced (hop.spaced hcs)
  cases operand with
  | single v =>
    have hall := htext (hslot ps v)
    simpa [compareTemplate, compareTokens, operandTokens, assemble_append, assemble_text,
      assemble_cons] using hall
  | pair low high =>
    have hand : IsRead st.dialect "AND".toList [word "AND"] :=
      isRead_keyword st.dialect (by decide) (by decide)
    have hall := htext ((hslot ps low).spaced
      (hand.spaced (hslot (ps.bind table column.text low).2 high)))
    simpa [compareTemplate, compareTokens, operandTokens, assemble_append, assemble_text,
      assemble_cons] using hall
  | list values =>
    cases values with
    | nil =>
      rw [compareTemplate, assemble_text]
      refine ⟨rfl, ?_⟩
      cases st.dialect <;> cases op <;> rfl
    | cons v values =>
      have hall := htext (isRead_slots st.dialect ps table column.text v values).parens
      simpa [compareTemplate, compareTokens, operandTokens, assemble_append, assemble_text]
        using hall
  | null =>
    have hnull : IsRead st.dialect "NULL".toList [word "NULL"] :=
      isRead_keyword st.dialect (by decide) (by decide)
    have hall := htext hnull
    simpa [compareTemplate, compareTokens, operandTokens, assemble_text] using hall

/-! ## Leaves -/

theorem isPlain_of_mem_identTokens {cs : List Char} {t : Token} (h : t ∈ identTokens cs) :
    isPlain t = true := by
  cases cs with
  | nil => cases h
  | cons c cs =>
    rw [List.mem_singleton.mp h]
    rfl

theorem isPlain_of_mem_segmentTokens {segment : List Char} {t : Token}
    (h : t ∈ segmentTokens segment) : isPlain t = true := by
  unfold segmentTokens at h
  split at h
  · rw [List.mem_singleton.mp h]
    rfl
  · exact isPlain_of_mem_identTokens h

theorem isPlain_of_mem_dottedTokens {segments : List (List Char)} {t : Token}
    (h : t ∈ dottedTokens segments) : isPlain t = true := by
  induction segments with
  | nil => cases h
  | cons segment segments ih =>
    cases segments with
    | nil => exact isPlain_of_mem_segmentTokens h
    | cons next segments =>
      rcases List.mem_append.mp h with h | h
      · exact isPlain_of_mem_segmentTokens h
      · rcases List.mem_cons.mp h with rfl | h
        · rfl
        · exact ih h

/-- **No name of a column** means anything to the parser. -/
theorem isPlain_of_mem_columnTokens {d : Dialect} {kind : ClauseKind} {column : Column}
    (hraw : column.isRaw = false) {t : Token} (h : t ∈ columnTokens d kind column) :
    isPlain t = true := by
  cases column with
  | raw sql => cases hraw
  | name s =>
    cases kind with
    | wheres => exact isPlain_of_mem_dottedTokens h
    | having => exact isPlain_of_mem_identTokens h

/-- A placeholder is no keyword, for it begins with a colon. -/
theorem isPlain_placeholder (table column : String) (n : Nat) :
    isPlain (.word (Params.placeholderName table column n).toList) = true := by
  rw [Params.toList_placeholderName]
  rfl

theorem isPlain_slotToken (ps : Params) (table column : String) (v : Value) :
    isPlain (slotToken ps table column v) = true :=
  isPlain_placeholder table column (ps.freshSuffix table column)

theorem isPlain_of_mem_slotTokens {ps : Params} {table column : String} {values : List Value}
    {t : Token} (h : t ∈ slotTokens ps table column values) : isPlain t = true := by
  induction values generalizing ps with
  | nil => cases h
  | cons v values ih =>
    cases values with
    | nil =>
      rw [List.mem_singleton.mp h]
      exact isPlain_slotToken ps table column v
    | cons w values =>
      rcases List.mem_cons.mp h with rfl | h
      · exact isPlain_slotToken ps table column v
      · rcases List.mem_cons.mp h with rfl | h
        · rfl
        · exact ih h

/-- An operator leaves a leaf waiting for an AND exactly if it compares with two values. -/
theorem keeps_operator (d : Dialect) (op : Operator) :
    Keeps false (tokens d op.sql.toList) op.isRange := by
  have hnot : Keeps false [word "NOT"] false := keeps_plain (by decide)
  cases op with
  | between => cases d <;> exact keeps_between
  | notBetween => cases d <;> exact hnot.append keeps_between
  | _ => exact keeps_plain (List.all_eq_true.mp (by cases d <;> rfl))

/-- An operand brings the AND that its operator waits for. -/
theorem keeps_operand (ps : Params) (table column : String) (operand : Operand) :
    Keeps operand.isPair (operandTokens ps table column operand) false := by
  have hslot : ∀ ps v between, Keeps between [slotToken ps table column v] between := by
    intro ps v between
    refine keeps_plain fun t ht => ?_
    rw [List.mem_singleton.mp ht]
    exact isPlain_slotToken ps table column v
  cases operand with
  | single v => exact hslot ps v false
  | pair low high => exact (hslot ps low true).append (keeps_and.append (hslot _ high false))
  | list values =>
    exact keeps_parens (foldlM_paren_of_plain (fun t ht => isPlain_of_mem_slotTokens ht) 0)
  | null =>
    have hnull : Keeps false [word "NULL"] false := keeps_plain (by decide)
    exact hnull

/-- **A comparison is one leaf**, if ranges are compared with pairs and nothing else is. -/
theorem isLeaf_compareTokens {d : Dialect} {kind : ClauseKind} {column : Column}
    (hraw : column.isRaw = false) (ps : Params) (table : String) {op : Operator} {operand : Operand}
    (hfits : (op.isRange == operand.isPair) = true) :
    IsLeaf (compareTokens d kind ps table column op operand) := by
  have hplain : ∀ t ∈ columnTokens d kind column, isPlain t = true :=
    fun t ht => isPlain_of_mem_columnTokens hraw ht
  have hop := keeps_operator d op
  rw [beq_iff_eq.mp hfits] at hop
  have hkeeps : Keeps false ((columnTokens d kind column ++ tokens d op.sql.toList)
      ++ operandTokens ps table column.text operand) false :=
    ((keeps_plain hplain).append hop).append (keeps_operand ps table column.text operand)
  -- the empty name has no tokens, and then the operator comes first
  have hfront : ∀ t ∈ columnTokens d kind column ++ tokens d op.sql.toList, t ≠ .mark '(' := by
    intro t ht
    rcases List.mem_append.mp ht with ht | ht
    · rintro rfl
      exact absurd (hplain _ ht) (by decide)
    · have hall : (tokens d op.sql.toList).all (· != .mark '(') = true := by
        cases d <;> cases op <;> rfl
      exact bne_iff_ne.mp (List.all_eq_true.mp hall t ht)
  have hne : columnTokens d kind column ++ tokens d op.sql.toList ≠ [] := by
    have hsome : tokens d op.sql.toList ≠ [] := by
      cases d <;> cases op <;> exact List.cons_ne_nil _ _
    exact fun h => hsome (List.append_eq_nil_iff.mp h).2
  have hall := isLeaf_of_keeps hne hfront hkeeps
  rw [List.append_assoc] at hall
  cases operand with
  | list values =>
    cases values with
    | nil =>
      have hnumbers : (tokens d (amongNothing op).toList).all isPlain = true := by
        cases d <;> cases op <;> rfl
      have hbegins : ∃ t us, tokens d (amongNothing op).toList = t :: us ∧ t ≠ .mark '(' := by
        cases d <;> cases op <;> exact ⟨_, _, rfl, by decide⟩
      exact ⟨hbegins, keeps_plain (List.all_eq_true.mp hnumbers)⟩
    | cons v values => exact hall
  | _ => exact hall

/-- **A test whether there are rows is one leaf**, whatever the statement is. -/
theorem isLeaf_existsTokens (wanted : Bool) {inner : List Token}
    (h : inner.foldlM paren 0 = some 0) : IsLeaf (existsTokens wanted inner) := by
  have hkeyword : Keeps false (existsWords wanted) false := by
    cases wanted <;> exact keeps_plain (by decide)
  have hne : existsWords wanted ≠ [] := by
    cases wanted <;> exact List.cons_ne_nil _ _
  have hfront : ∀ t ∈ existsWords wanted, t ≠ .mark '(' := by
    cases wanted <;> decide
  exact isLeaf_of_keeps hne hfront (hkeyword.append (keeps_parens h))

theorem isRead_existsTokens (d : Dialect) (wanted : Bool) {inner : List Char} {ts : List Token}
    (h : IsRead d inner ts) :
    IsRead d ((existsKeyword wanted).toList ++ ' ' :: '(' :: (inner ++ [')']))
      (existsTokens wanted ts) := by
  have hkeyword : IsRead d (existsKeyword wanted).toList (existsWords wanted) := by
    constructor <;> cases d <;> cases wanted <;> rfl
  exact hkeyword.spaced h.parens

theorem toList_relatedSql (st : Style) (current table : String) (column parent : Option String)
    (wanted : Bool) :
    (relatedSql st current table column parent wanted).toList =
      (existsKeyword wanted).toList
        ++ ' ' :: '(' :: ((relatedInnerSql st current table column parent).toList ++ [')']) := by
  unfold relatedSql relatedInnerSql
  dsimp only
  simp only [String.toList_append, List.append_assoc]
  rfl

/-! ## Conditions -/

theorem assemble_ne_nil (ps : Params) {t : Template} (h : t.isEmpty = false) :
    (assemble ps t).1 ≠ [] := by
  rw [isEmpty_eq_isEmpty_assemble ps] at h
  exact List.isEmpty_eq_false_iff.mp h

theorem Conditions.assemble_of_unwritten (st : Style) (kind : ClauseKind) (table : String)
    (started : Bool) (ps : Params) {predicate : Predicate} (h : predicate.isWritten = false)
    (joiner : Option Conjunction) (conditions : List Condition) :
    (assemble ps (templateFrom st kind table started (⟨joiner, predicate⟩ :: conditions))).1 =
      (assemble (assemble ps (predicate.template st kind table)).2
        (templateFrom st kind table started conditions)).1 := by
  have hempty : (predicate.template st kind table).isEmpty = true := by
    rw [Predicate.isEmpty_template, h]
    rfl
  have hnone : (assemble ps (predicate.template st kind table)).1 = [] := by
    rw [← List.isEmpty_iff, ← isEmpty_eq_isEmpty_assemble, hempty]
  simp only [templateFrom, hempty, ↓reduceIte, assemble_append, hnone, List.nil_append]

theorem Conditions.assemble_of_written (st : Style) (kind : ClauseKind) (table : String)
    (started : Bool) (ps : Params) {predicate : Predicate} (h : predicate.isWritten = true)
    (joiner : Option Conjunction) (conditions : List Condition) :
    (assemble ps (templateFrom st kind table started (⟨joiner, predicate⟩ :: conditions))).1 =
      (if started then (joinerText joiner).toList else [])
        ++ (assemble ps (predicate.template st kind table)).1
        ++ (assemble (assemble ps (predicate.template st kind table)).2
            (templateFrom st kind table true conditions)).1 := by
  have hempty : (predicate.template st kind table).isEmpty = false := by
    rw [Predicate.isEmpty_template, h]
    rfl
  simp only [templateFrom, hempty, Bool.false_eq_true, ↓reduceIte]
  cases started with
  | true => simp only [↓reduceIte, assemble_append, assemble_text]
  | false => simp only [Bool.false_eq_true, ↓reduceIte, List.nil_append, assemble_append]

mutual

/-- **A test that is written** is read as its tree. -/
theorem Predicate.isTest_template (st : Style) (kind : ClauseKind) (table : String) (ps : Params) :
    ∀ predicate : Predicate, predicate.isRawFree = true → predicate.isJoined = true →
      predicate.fitsRanges = true → predicate.isWritten = true →
      ∃ ts, IsRead st.dialect (assemble ps (predicate.template st kind table)).1 ts ∧
        IsTest ts (predicate.tree st kind table ps)
  | .compare column op operand, hraw, _, hfits, _ => by
    have hcolumn : column.isRaw = false := by simpa [Predicate.isRawFree] using hraw
    simp only [Predicate.template, Predicate.tree]
    exact ⟨_, isRead_compareTemplate st kind table ps hcolumn op operand,
      (isLeaf_compareTokens hcolumn ps table hfits).isTest⟩
  | .raw _ _, hraw, _, _, _ => by cases hraw
  | .related other column parent wanted, _, _, _, _ => by
    have hinner := (isBalanced_relatedInner st table other column parent).isRead ps
    simp only [assemble_text] at hinner
    simp only [Predicate.template, Predicate.tree, assemble_text, toList_relatedSql]
    exact ⟨_, isRead_existsTokens st.dialect wanted hinner.1,
      (isLeaf_existsTokens wanted hinner.2).isTest⟩
  | .subquery query wanted, hraw, _, _, hwritten => by
    have hinner := (Select.isBalanced_template st query hraw).isRead ps
    have hne : (assemble ps (query.template st)).1 ≠ [] := by
      refine assemble_ne_nil ps ?_
      rw [Select.isEmpty_template]
      simpa [Predicate.isWritten] using hwritten
    have hread := isRead_existsTokens st.dialect wanted hinner.1
    simp only [Predicate.template, Predicate.tree, assemble_enclosed, if_neg hne]
    refine ⟨_, ?_, (isLeaf_existsTokens wanted hinner.2).isTest⟩
    simpa using hread
  | .group conditions, hraw, hjoined, hfits, hwritten => by
    obtain ⟨ts, hread, hlist⟩ := Conditions.isList_templateFrom st kind table true ps conditions hraw
      hjoined hfits hwritten
    have hne : (assemble ps (Conditions.templateFrom st kind table false conditions)).1 ≠ [] := by
      refine assemble_ne_nil ps ?_
      rw [Conditions.isEmpty_templateFrom, Bool.not_eq_false']
      exact hwritten
    simp only [Predicate.template, Predicate.tree, assemble_enclosed, if_neg hne]
    exact ⟨_, hread.parens, hlist.isTest⟩

/-- **Conditions after a test that is written** are read as more of its list. -/
theorem Conditions.areMore_templateFrom (st : Style) (kind : ClauseKind) (table : String)
    (ps : Params) : ∀ conditions : List Condition, Conditions.areRawFree conditions = true →
      Conditions.areJoined false conditions = true → Conditions.fitRanges conditions = true →
      ∀ {front : List Char} {ts : List Token}, IsRead st.dialect front ts →
        ∃ us, IsRead st.dialect
            (front ++ (assemble ps (Conditions.templateFrom st kind table true conditions)).1)
            (ts ++ us) ∧
          AreMore us (Conditions.entriesFrom st kind table true ps conditions)
  | [], _, _, _, front, ts, hfront => by
    refine ⟨[], ?_, areMore_nil⟩
    simpa [Conditions.templateFrom] using hfront
  | ⟨joiner, predicate⟩ :: conditions, hraw, hjoined, hfits, front, ts, hfront => by
    obtain ⟨hp, hc⟩ := Bool.and_eq_true_iff.mp hraw
    simp only [Conditions.areJoined, Bool.and_eq_true, Bool.false_or] at hjoined
    obtain ⟨⟨hj, hjp⟩, hjc⟩ := hjoined
    obtain ⟨hfp, hfc⟩ := Bool.and_eq_true_iff.mp hfits
    cases hw : predicate.isWritten with
    | false =>
      rw [Conditions.assemble_of_unwritten st kind table true ps hw]
      simp only [Conditions.entriesFrom, hw, Bool.false_eq_true, ↓reduceIte]
      exact Conditions.areMore_templateFrom st kind table _ conditions hc hjc hfc hfront
    | true =>
      obtain ⟨own, rfl⟩ := Option.isSome_iff_exists.mp hj
      obtain ⟨vs, hbody, htest⟩ := Predicate.isTest_template st kind table ps predicate hp hjp hfp hw
      have hown : IsRead st.dialect own.sql.toList [word own.sql] :=
        isRead_keyword st.dialect (by cases own <;> decide) (by cases own <;> decide)
      -- the conditions after this one follow all that was read so far, this one included
      obtain ⟨us, hmore, hare⟩ := Conditions.areMore_templateFrom st kind table
        (assemble ps (predicate.template st kind table)).2 conditions hc hjc hfc
        (hfront.spaced (hown.spaced hbody))
      rw [Conditions.assemble_of_written st kind table true ps hw]
      simp only [Conditions.entriesFrom, hw, ↓reduceIte]
      refine ⟨word own.sql :: (vs ++ us), ?_, hare.cons htest own⟩
      simpa [joinerText] using hmore

/-- **A list of conditions** of which one is written is read as its entries. -/
theorem Conditions.isList_templateFrom (st : Style) (kind : ClauseKind) (table : String)
    (first : Bool) (ps : Params) : ∀ conditions : List Condition,
      Conditions.areRawFree conditions = true → Conditions.areJoined first conditions = true →
      Conditions.fitRanges conditions = true → Conditions.anyWritten conditions = true →
      ∃ ts, IsRead st.dialect
          (assemble ps (Conditions.templateFrom st kind table false conditions)).1 ts ∧
        IsList ts (Conditions.entriesFrom st kind table false ps conditions)
  | [], _, _, _, hwritten => by cases hwritten
  | ⟨joiner, predicate⟩ :: conditions, hraw, hjoined, hfits, hwritten => by
    obtain ⟨hp, hc⟩ := Bool.and_eq_true_iff.mp hraw
    simp only [Conditions.areJoined, Bool.and_eq_true] at hjoined
    obtain ⟨⟨hj, hjp⟩, hjc⟩ := hjoined
    obtain ⟨hfp, hfc⟩ := Bool.and_eq_true_iff.mp hfits
    cases hw : predicate.isWritten with
    | false =>
      -- the next one may have a conjunction, which is written no more than this test is
      have hrest : Conditions.anyWritten conditions = true := by
        simpa [Conditions.anyWritten, hw] using hwritten
      rw [Conditions.assemble_of_unwritten st kind table false ps hw]
      simp only [Conditions.entriesFrom, hw, Bool.false_eq_true, ↓reduceIte]
      exact Conditions.isList_templateFrom st kind table false _ conditions hc hjc hfc hrest
    | true =>
      obtain ⟨vs, hbody, htest⟩ := Predicate.isTest_template st kind table ps predicate hp hjp hfp hw
      obtain ⟨us, hmore, hare⟩ := Conditions.areMore_templateFrom st kind table
        (assemble ps (predicate.template st kind table)).2 conditions hc hjc hfc hbody
      rw [Conditions.assemble_of_written st kind table false ps hw]
      simp only [Conditions.entriesFrom, hw, Bool.false_eq_true, ↓reduceIte]
      exact ⟨vs ++ us, hmore, htest.isList hare⟩

end

/-! ### A condition at the end -/

theorem Conditions.areRawFree_append (conditions more : List Condition) :
    areRawFree (conditions ++ more) = (areRawFree conditions && areRawFree more) := by
  induction conditions with
  | nil => rfl
  | cons condition conditions ih =>
    obtain ⟨joiner, predicate⟩ := condition
    rw [List.cons_append, areRawFree, ih, areRawFree, Bool.and_assoc]

theorem Conditions.fitRanges_append (conditions more : List Condition) :
    fitRanges (conditions ++ more) = (fitRanges conditions && fitRanges more) := by
  induction conditions with
  | nil => rfl
  | cons condition conditions ih =>
    obtain ⟨joiner, predicate⟩ := condition
    rw [List.cons_append, fitRanges, ih, fitRanges, Bool.and_assoc]

theorem Conditions.anyWritten_append (conditions more : List Condition) :
    anyWritten (conditions ++ more) = (anyWritten conditions || anyWritten more) := by
  induction conditions with
  | nil => rfl
  | cons condition conditions ih =>
    obtain ⟨joiner, predicate⟩ := condition
    rw [List.cons_append, anyWritten, ih, anyWritten, Bool.or_assoc]

/-- The first condition is assembled before the others, and counts for them as written or not. -/
theorem Conditions.assemble_snd_cons (st : Style) (kind : ClauseKind) (table : String)
    (started : Bool) (ps : Params) (joiner : Option Conjunction) (predicate : Predicate)
    (conditions : List Condition) :
    (assemble ps (templateFrom st kind table started (⟨joiner, predicate⟩ :: conditions))).2 =
      (assemble (assemble ps (predicate.template st kind table)).2
        (templateFrom st kind table (started || predicate.isWritten) conditions)).2 := by
  have hempty := Predicate.isEmpty_template st kind table predicate
  simp only [templateFrom, hempty]
  cases predicate.isWritten with
  | true => cases started <;> simp [assemble_append, assemble_text]
  | false => simp [assemble_append]

/-- Conditions are assembled after those before them. -/
theorem Conditions.assemble_snd_append (st : Style) (kind : ClauseKind) (table : String)
    (started : Bool) (ps : Params) (conditions more : List Condition) :
    (assemble ps (templateFrom st kind table started (conditions ++ more))).2 =
      (assemble (assemble ps (templateFrom st kind table started conditions)).2
        (templateFrom st kind table (started || anyWritten conditions) more)).2 := by
  induction conditions generalizing started ps with
  | nil => simp [templateFrom, anyWritten]
  | cons condition conditions ih =>
    obtain ⟨joiner, predicate⟩ := condition
    rw [List.cons_append, assemble_snd_cons, ih, assemble_snd_cons, anyWritten, Bool.or_assoc]

theorem Conditions.entriesFrom_append (st : Style) (kind : ClauseKind) (table : String)
    (started : Bool) (ps : Params) (conditions more : List Condition) :
    entriesFrom st kind table started ps (conditions ++ more) =
      entriesFrom st kind table started ps conditions ++
        entriesFrom st kind table (started || anyWritten conditions)
          (assemble ps (templateFrom st kind table started conditions)).2 more := by
  induction conditions generalizing started ps with
  | nil => simp [entriesFrom, templateFrom, anyWritten]
  | cons condition conditions ih =>
    obtain ⟨joiner, predicate⟩ := condition
    rw [List.cons_append, assemble_snd_cons, anyWritten, ← Bool.or_assoc]
    simp only [entriesFrom]
    cases predicate.isWritten with
    | true => simp [ih]
    | false => simp [ih]

/-- **A condition at the end** is the last entry, after what the others bind. -/
theorem Conditions.entries_concat (st : Style) (kind : ClauseKind) (table : String) (ps : Params)
    (conditions : Conditions) (joiner : Option Conjunction) {predicate : Predicate}
    (hw : predicate.isWritten = true) :
    Conditions.entries st kind table ps (conditions ++ [⟨joiner, predicate⟩]) =
      conditions.entries st kind table ps ++
        [⟨if Conditions.anyWritten conditions then joiner else none,
          predicate.tree st kind table (assemble ps (conditions.template st kind table)).2⟩] := by
  rw [entries, entriesFrom_append, Bool.false_or]
  simp only [entriesFrom, hw, ↓reduceIte]
  rfl

/-! ### The whole list -/

theorem Conditions.entriesFrom_of_unwritten (st : Style) (kind : ClauseKind) (table : String)
    (started : Bool) (ps : Params) : ∀ conditions : List Condition,
      Conditions.anyWritten conditions = false →
        entriesFrom st kind table started ps conditions = []
  | [], _ => rfl
  | ⟨joiner, predicate⟩ :: conditions, h => by
    obtain ⟨hp, hc⟩ := Bool.or_eq_false_iff.mp h
    simp only [entriesFrom, hp, Bool.false_eq_true, ↓reduceIte]
    exact entriesFrom_of_unwritten st kind table started _ conditions hc

/-- **A list of conditions parses** to its entries; one that shows nothing is the empty list. -/
theorem Conditions.parse_template (st : Style) (kind : ClauseKind) (table : String) (ps : Params)
    {conditions : Conditions} (hjoined : Conditions.areJoined true conditions = true)
    (hraw : Conditions.areRawFree conditions = true)
    (hfits : Conditions.fitRanges conditions = true) :
    parse (tokens st.dialect (assemble ps (conditions.template st kind table)).1) =
      some (conditions.entries st kind table ps) := by
  cases hw : Conditions.anyWritten conditions with
  | true =>
    obtain ⟨ts, hread, hlist⟩ := Conditions.isList_templateFrom st kind table true ps conditions hraw
      hjoined hfits hw
    rw [Conditions.template, hread.tokens_eq]
    exact hlist.parse
  | false =>
    have hnone : (assemble ps (conditions.template st kind table)).1 = [] := by
      rw [Conditions.template, ← List.isEmpty_iff, ← isEmpty_eq_isEmpty_assemble,
        Conditions.isEmpty_templateFrom, hw]
      rfl
    rw [hnone, Conditions.entries, Conditions.entriesFrom_of_unwritten st kind table false ps _ hw]
    rfl

/-- **Conditions read back.** For every dialect, clause and table, the text of a list built by pushing,
    without raw SQL and with pairs for ranges only, parses to its written tests in order, with their
    conjunctions and the nesting of its groups. How many there are and how they are grouped is settled
    before any column has a name. -/
theorem Conditions.parse_compiled (st : Style) (kind : ClauseKind) (table : String) (ps : Params)
    {conditions : Conditions} (hpushed : conditions.IsPushed)
    (hraw : Conditions.areRawFree conditions = true)
    (hfits : Conditions.fitRanges conditions = true) :
    parse (tokens st.dialect (assemble ps (conditions.template st kind table)).1) =
        some (conditions.entries st kind table ps) ∧
      Tree.skeletons (conditions.entries st kind table ps) =
        Conditions.skeletonFrom false conditions :=
  ⟨Conditions.parse_template st kind table ps hpushed.areJoined hraw hfits,
    Conditions.skeletons_entriesFrom st kind table false ps conditions⟩

/-- A group whose first condition renders to nothing, on columns named like SQL. -/
def Conditions.hostileGroup : Conditions :=
  Conditions.push
    (Conditions.push
      (Conditions.push [] .and (.subquery .empty true))
      .or (.compare (.name "a\" OR (\"b") .notBetween (.pair (.int 1) (.int 2))))
    .and (.related "posts) AND (x" (some "user\" = 1 OR") none false)

/-- The group between two comparisons. -/
def Conditions.hostileNames : Conditions :=
  Conditions.push
    (Conditions.push
      (Conditions.push [] .and (.compare (.name "x AND y") .among (.list [.int 1, .int 2])))
      .or (.group hostileGroup))
    .and (.compare (.name ") OR 1 = 1 --") .is .null)

/-- It reads back as two leaves and the group of two leaves between them. -/
theorem Conditions.hostileNames_parse :
    hostileNames.IsPushed ∧ Conditions.areRawFree hostileNames = true ∧
      Conditions.fitRanges hostileNames = true ∧
      parse (tokens .ansi
          (assemble .empty (hostileNames.template { dialect := .ansi } .wheres "users")).1) =
        some (hostileNames.entries { dialect := .ansi } .wheres "users" .empty) ∧
      Tree.skeletons (hostileNames.entries { dialect := .ansi } .wheres "users" .empty) =
        [⟨none, .leaf []⟩, ⟨some .or, .group [⟨none, .leaf []⟩, ⟨some .and, .leaf []⟩]⟩,
          ⟨some .and, .leaf []⟩] := by
  have hgroup : hostileGroup.IsPushed := by
    refine .push (.push (.push .nil _ _ ?_) _ _ ?_) _ _ ?_ <;> rintro _ ⟨⟩
  have hpushed : hostileNames.IsPushed := by
    refine .push (.push (.push .nil _ _ ?_) _ _ ?_) _ _ ?_
    · rintro _ ⟨⟩
    · rintro _ ⟨⟩
      exact hgroup
    · rintro _ ⟨⟩
  have hraw : Conditions.areRawFree hostileNames = true := rfl
  have hfits : Conditions.fitRanges hostileNames = true := rfl
  obtain ⟨hparse, hskeleton⟩ :=
    parse_compiled { dialect := .ansi } .wheres "users" .empty hpushed hraw hfits
  exact ⟨hpushed, hraw, hfits, hparse, hskeleton.trans rfl⟩

end FluentSql
