import FluentSql.Proofs.RawFree
import FluentSql.Proofs.Tokens
/-!
# `FluentSql.Proofs.Nesting` — quotes and parentheses of statements without raw SQL

A balanced template (`IsBalanced`) closes every identifier and every parenthesis that it opens, and no
other. Blanks are neither, so squeezing changes nothing (`IsBalanced.squeeze`). Without raw SQL every
test and every SELECT statement is balanced, whatever its identifiers hold: what is quoted is closed
where it was meant to be closed (`balanced_wrap`).

* `Predicate.isBalanced_template`, `Conditions.isBalanced_templateFrom`, `Select.isBalanced_template`;
* `IsBalanced.isRead` — what this makes of the tokens of the text.
-/

namespace FluentSql

open FluentSql.Text Template Reading

/-! ## Balanced templates -/

namespace Reading

variable {d : Dialect}

/-- A symbol inside of something; names and parameters are no quotes and no parentheses. -/
def Nesting.read (d : Dialect) (n : Nesting) : Symbol → Option Nesting
  | .char c => n.char d c
  | _ => some n

/-- **A balanced template** closes what it opens, and nothing else. -/
def IsBalanced (d : Dialect) (t : Template) : Prop :=
  ∀ depth, t.foldlM (Nesting.read d) ⟨false, depth⟩ = some ⟨false, depth⟩

theorem isBalanced_nil : IsBalanced d [] := fun _ => rfl

theorem IsBalanced.append {s t : Template} (hs : IsBalanced d s) (ht : IsBalanced d t) :
    IsBalanced d (s ++ t) := by
  intro depth
  rw [foldlM_append_of (hs depth)]
  exact ht depth

theorem isBalanced_slot (table column : String) (v : Value) :
    IsBalanced d [.slot table column v] := fun _ => rfl

/-- **Parentheses** around a balanced template. -/
theorem IsBalanced.parens {t : Template} (ht : IsBalanced d t) :
    IsBalanced d (text "(" ++ t ++ text ")") := by
  intro depth
  have hopen : (text "(").foldlM (Nesting.read d) ⟨false, depth⟩ = some ⟨false, depth + 1⟩ := by
    cases d <;> rfl
  have hclose : (text ")").foldlM (Nesting.read d) ⟨false, depth + 1⟩ = some ⟨false, depth⟩ := by
    cases d <;> rfl
  rw [List.append_assoc, foldlM_append_of hopen, foldlM_append_of (ht (depth + 1)), hclose]

/-! ## Text -/

/-- The characters that are no quotes of identifiers and no parentheses. -/
def isLevelChar (c : Char) : Bool := c != '\x60' && c != '"' && c != '(' && c != ')'

/-- Text of such characters. -/
def isLevel (s : String) : Bool := s.toList.all isLevelChar

theorem char_of_isLevelChar {c : Char} (h : isLevelChar c = true) (n : Nesting) :
    n.char d c = some n := by
  have hne : ((c ≠ '\x60' ∧ c ≠ '"') ∧ c ≠ '(') ∧ c ≠ ')' := by
    simpa [isLevelChar] using h
  have hquote : c ≠ d.quoteChar := by
    cases d
    · exact hne.1.1.1
    · exact hne.1.1.2
    · exact hne.1.1.1
    · exact hne.1.1.2
  unfold Nesting.char
  rw [if_neg hquote, if_neg hne.1.2, if_neg hne.2]
  split <;> rfl

theorem foldlM_levelChars {cs : List Char} (h : ∀ c ∈ cs, isLevelChar c = true) (n : Nesting) :
    cs.foldlM (Nesting.char d) n = some n := by
  induction cs with
  | nil => rfl
  | cons c cs ih =>
    rw [foldlM_cons_of (char_of_isLevelChar (h c (by simp)) n)]
    exact ih fun b hb => h b (List.mem_cons_of_mem c hb)

theorem foldlM_map_char (cs : List Char) (n : Nesting) :
    (cs.map Symbol.char).foldlM (Nesting.read d) n = cs.foldlM (Nesting.char d) n := by
  rw [List.foldlM_map]
  rfl

theorem isBalanced_level {s : String} (h : isLevel s = true) : IsBalanced d (text s) := by
  intro depth
  rw [text, foldlM_map_char]
  exact foldlM_levelChars (List.all_eq_true.mp h) _

/-! ## Quoted identifiers -/

/-- Doubled quotes lead out of the identifier and back into it. -/
theorem foldlM_doubled (cs : List Char) (depth : Nat) :
    (doubled d.quoteChar cs).foldlM (Nesting.char d) ⟨true, depth⟩ = some ⟨true, depth⟩ := by
  induction cs with
  | nil => rfl
  | cons c cs ih =>
    by_cases hc : c = d.quoteChar
    · have hquote : ∀ quoted, Nesting.char d ⟨quoted, depth⟩ d.quoteChar = some ⟨!quoted, depth⟩ :=
        fun quoted => if_pos rfl
      rw [doubled, if_pos hc, foldlM_cons_of (hquote true), Bool.not_true,
        foldlM_cons_of (hquote false)]
      exact ih
    · have hinside : Nesting.char d ⟨true, depth⟩ c = some ⟨true, depth⟩ := by
        rw [Nesting.char, if_neg hc]
        rfl
      rw [doubled, if_neg hc, foldlM_cons_of hinside]
      exact ih

/-- **A text in quotes** is balanced, whatever it holds. -/
theorem balanced_wrap (cs : List Char) (depth : Nat) :
    (wrap d.quoteChar cs).foldlM (Nesting.char d) ⟨false, depth⟩ = some ⟨false, depth⟩ := by
  have hquote : ∀ quoted, Nesting.char d ⟨quoted, depth⟩ d.quoteChar = some ⟨!quoted, depth⟩ :=
    fun quoted => if_pos rfl
  rw [wrap, List.cons_append, foldlM_cons_of (hquote false), Bool.not_false,
    foldlM_append_of (foldlM_doubled cs depth), foldlM_cons_of (hquote true)]
  rfl

theorem isBalanced_quoteChars (cs : List Char) :
    IsBalanced d ((d.quoteChars cs).map .char) := by
  cases cs with
  | nil => exact isBalanced_nil
  | cons c cs =>
    intro depth
    rw [foldlM_map_char]
    exact balanced_wrap (c :: cs) depth

theorem isBalanced_quoteIdent (st : Style) (ident : String) :
    IsBalanced st.dialect (text (st.quoteIdent ident)) := by
  rw [text, Style.quoteIdent, Dialect.quoteIdent, String.toList_ofList]
  exact isBalanced_quoteChars ident.toList

theorem isBalanced_joinWith {segments : List (List Char)}
    (h : ∀ cs ∈ segments, IsBalanced d (cs.map .char)) :
    IsBalanced d ((joinWith '.' segments).map .char) := by
  induction segments with
  | nil => exact isBalanced_nil
  | cons cs segments ih =>
    have hcs := h cs (by simp)
    cases segments with
    | nil => exact hcs
    | cons ds segments =>
      have hrest := ih fun es hes => h es (List.mem_cons_of_mem cs hes)
      have hdot : IsBalanced d [.char '.'] := isBalanced_level (s := ".") (by decide)
      rw [joinWith_cons_of_ne_nil '.' cs (List.cons_ne_nil ds segments), List.map_append]
      exact hcs.append (hdot.append hrest)

/-- **A dotted identifier**, whatever quotes and parentheses it holds. -/
theorem isBalanced_quote (st : Style) (ident : String) :
    IsBalanced st.dialect (text (st.quote ident)) := by
  rw [text, Style.quote, Dialect.quote, String.toList_ofList]
  refine isBalanced_joinWith fun cs hcs => ?_
  obtain ⟨segment, -, rfl⟩ := List.mem_map.mp hcs
  unfold Dialect.quoteSegment
  split
  · rename_i hstar
    rw [hstar]
    exact isBalanced_level (s := "*") (by decide)
  · exact isBalanced_quoteChars segment

theorem isBalanced_quoteColumn (st : Style) {column : Column} (h : column.isRaw = false) :
    IsBalanced st.dialect (text (st.quoteColumn column)) := by
  cases column with
  | name s => exact isBalanced_quote st s
  | raw sql => cases h

theorem isBalanced_conditionColumn (st : Style) (kind : ClauseKind) {column : Column}
    (h : column.isRaw = false) :
    IsBalanced st.dialect (text (conditionColumn st kind column)) := by
  cases column with
  | raw sql => cases h
  | name s =>
    cases kind with
    | wheres => exact isBalanced_quote st s
    | having => exact isBalanced_quoteIdent st s

/-! ## Templates put together -/

theorem isBalanced_joined {sep : String} (hsep : isLevel sep = true) {ts : List Template}
    (hts : ∀ t ∈ ts, IsBalanced d t) : IsBalanced d (joined sep ts) := by
  induction ts with
  | nil => exact isBalanced_nil
  | cons t ts ih =>
    have ht := hts t (by simp)
    cases ts with
    | nil => exact ht
    | cons u us =>
      exact (ht.append (isBalanced_level hsep)).append
        (ih fun v hv => hts v (List.mem_cons_of_mem t hv))

theorem isBalanced_intercalate {sep : String} (hsep : isLevel sep = true) {items : List String}
    (hitems : ∀ s ∈ items, IsBalanced d (text s)) : IsBalanced d (text (sep.intercalate items)) := by
  rw [text_intercalate]
  refine isBalanced_joined hsep fun t ht => ?_
  obtain ⟨s, hs, rfl⟩ := List.mem_map.mp ht
  exact hitems s hs

theorem IsBalanced.headed {body : Template} (h : IsBalanced d body) {keyword : String}
    (hk : isLevel (keyword ++ " ") = true) : IsBalanced d (headed keyword body) := by
  unfold FluentSql.headed
  split
  · exact h
  · exact (isBalanced_level hk).append h

theorem IsBalanced.enclosed {body : Template} (h : IsBalanced d body) (front : String)
    (hfront : isLevel front = true) : IsBalanced d (enclosed (front ++ "(") body) := by
  unfold FluentSql.enclosed
  split
  · exact h
  · rw [text_append, List.append_assoc, List.append_assoc]
    exact (isBalanced_level hfront).append (by simpa using h.parens)

theorem isLevelChar_of_isBlank {c : Char} (h : isBlank c = true) : isLevelChar c = true := by
  simp only [isLevelChar, Bool.and_eq_true, bne_iff_ne]
  refine ⟨⟨⟨?_, ?_⟩, ?_⟩, ?_⟩ <;> rintro rfl <;> exact absurd h (by decide)

theorem read_of_blank {a : Symbol} (ha : a.look = .blank) (n : Nesting) : n.read d a = some n := by
  cases a with
  | char c =>
    have hblank : isBlank c = true := by
      by_cases hc : isBlank c = true
      · exact hc
      · have hsolid : charLook c = .solid := by simp [charLook, hc]
        exact absurd (hsolid.symm.trans ha) (by decide)
    exact char_of_isLevelChar (isLevelChar_of_isBlank hblank) n
  | slot _ _ _ => cases ha
  | given _ => cases ha

/-- Squeezing adds and drops blanks, and these open and close nothing. -/
theorem foldlM_squeeze (started pending : Bool) (n : Nesting) (t : Template) :
    (Text.squeeze Symbol.look (.char ' ') started pending t).foldlM (Nesting.read d) n =
      t.foldlM (Nesting.read d) n := by
  induction t generalizing started pending n with
  | nil => rfl
  | cons a t ih =>
    cases ha : a.look with
    | blank =>
      rw [squeeze_cons_blank ha, ih, foldlM_cons_of (read_of_blank ha n)]
    | invisible =>
      rw [squeeze_cons_invisible ha, List.foldlM_cons, List.foldlM_cons]
      simp only [ih]
    | solid =>
      have hspace : (if started && pending then [Symbol.char ' '] else []).foldlM
          (Nesting.read d) n = some n := by
        split
        · exact foldlM_cons_of (read_of_blank rfl n) []
        · rfl
      rw [squeeze_cons_solid ha, foldlM_append_of hspace, List.foldlM_cons, List.foldlM_cons]
      simp only [ih]

/-- **Squeezing keeps balance.** -/
theorem IsBalanced.squeeze {t : Template} (h : IsBalanced d t) : IsBalanced d t.squeeze := by
  intro depth
  rw [Template.squeeze, foldlM_squeeze]
  exact h depth

/-! ## The text of a balanced template -/

theorem isLevelChar_of_inWord {c : Char} (h : inWord c = true) : isLevelChar c = true := by
  simp only [isLevelChar, Bool.and_eq_true, bne_iff_ne]
  refine ⟨⟨⟨?_, ?_⟩, ?_⟩, ?_⟩ <;> rintro rfl <;> exact absurd h (by decide)

/-- The characters of a generated name are those of a word. -/
theorem inWord_of_mem_placeholderName {table column : String} {n : Nat} {c : Char}
    (h : c ∈ (Params.placeholderName table column n).toList) : inWord c = true := by
  rcases Params.mem_placeholderName h with rfl | hname
  · decide
  · simp [inWord, hname]

theorem inWord_of_mem_bind {ps : Params} {table column : String} {v : Value} {c : Char}
    (h : c ∈ (ps.bind table column v).1.toList) : inWord c = true :=
  inWord_of_mem_placeholderName h

/-- Assembling names the slots, and names open and close nothing. -/
theorem foldlM_assemble (ps : Params) (t : Template) (n : Nesting) :
    (assemble ps t).1.foldlM (Nesting.char d) n = t.foldlM (Nesting.read d) n := by
  induction t generalizing ps n with
  | nil => rfl
  | cons a t ih =>
    rw [assemble_cons, List.foldlM_append, List.foldlM_cons]
    simp only [ih]
    cases a with
    | char c =>
      show ((n.char d c).bind some).bind _ = (n.char d c).bind _
      cases n.char d c <;> rfl
    | slot table column v =>
      have hname : ((ps.bind table column v).1.toList).foldlM (Nesting.char d) n = some n :=
        foldlM_levelChars (fun c hc => isLevelChar_of_inWord (inWord_of_mem_bind hc)) n
      rw [place_slot, hname]
      rfl
    | given params => rfl

/-- **The tokens of a balanced template**: no identifier is left open, and every parenthesis is
    closed. -/
theorem IsBalanced.isRead {t : Template} (h : IsBalanced d t) (ps : Params) :
    IsRead d (assemble ps t).1 (tokens d (assemble ps t).1) ∧
      (tokens d (assemble ps t).1).foldlM paren 0 = some 0 := by
  have hchars : (assemble ps t).1.foldlM (Nesting.char d) ⟨false, 0⟩ = some ⟨false, 0⟩ := by
    rw [foldlM_assemble]
    exact h 0
  exact isRead_of_chars hchars

end Reading

/-! ## Clauses -/

open Reading

theorem isLevel_operator (op : Operator) : isLevel op.sql = true := by
  cases op <;> decide

/-- A column and an operator, set off by blanks. -/
theorem isBalanced_compared (st : Style) (kind : ClauseKind) {column : Column}
    (h : column.isRaw = false) (op : Operator) :
    IsBalanced st.dialect (text (conditionColumn st kind column ++ " " ++ op.sql ++ " ")) := by
  have hblank : IsBalanced st.dialect (text " ") := isBalanced_level (by decide)
  rw [text_append, text_append, text_append]
  exact (((isBalanced_conditionColumn st kind h).append hblank).append
    (isBalanced_level (isLevel_operator op))).append hblank

theorem isBalanced_compareTemplate (st : Style) (kind : ClauseKind) (table : String)
    {column : Column} (h : column.isRaw = false) (op : Operator) (operand : Operand) :
    IsBalanced st.dialect (compareTemplate st kind table column op operand) := by
  have hcompared := isBalanced_compared st kind h op
  have hslot : ∀ v, IsBalanced st.dialect [.slot table column.text v] :=
    fun v => isBalanced_slot table column.text v
  cases operand with
  | single v => exact hcompared.append (hslot v)
  | pair low high =>
    have hand : IsBalanced st.dialect (text " AND ") := isBalanced_level (by decide)
    exact ((hcompared.append (hslot low)).append hand).append (hslot high)
  | list values =>
    cases values with
    | nil => exact isBalanced_level (by cases op <;> decide)
    | cons v values =>
      have hvalues : IsBalanced st.dialect (joined ", "
          ((v :: values).map fun value => [.slot table column.text value])) := by
        refine isBalanced_joined (by decide) fun t ht => ?_
        obtain ⟨w, -, rfl⟩ := List.mem_map.mp ht
        exact hslot w
      have hparen : text " (" = text " " ++ text "(" := rfl
      have hall := hcompared.append hvalues.parens
      simp only [compareTemplate, text_append, hparen, List.append_assoc] at hall ⊢
      exact hall
  | null =>
    have hnull : IsBalanced st.dialect (text "NULL") := isBalanced_level (by decide)
    have hblank : text " NULL" = text " " ++ text "NULL" := rfl
    have hall := hcompared.append hnull
    simp only [compareTemplate, text_append, hblank, List.append_assoc] at hall ⊢
    exact hall

/-- What stands in the parentheses of a test for related rows. -/
def relatedInnerSql (st : Style) (current table : String) (column parent : Option String) : String :=
  "SELECT " ++ st.quote (column.getD (st.foreignKey current)) ++ " FROM " ++ st.quote table
    ++ " WHERE " ++ st.quote table ++ "." ++ st.quote (column.getD (st.foreignKey current)) ++ " = "
    ++ st.quote current ++ "." ++ st.quote (parent.getD "id")

theorem text_relatedSql (st : Style) (current table : String) (column parent : Option String)
    (wanted : Bool) :
    text (relatedSql st current table column parent wanted) =
      text (existsKeyword wanted ++ " ")
        ++ (text "(" ++ text (relatedInnerSql st current table column parent) ++ text ")") := by
  have hselect : text " (SELECT " = text " " ++ (text "(" ++ text "SELECT ") := rfl
  unfold relatedSql relatedInnerSql
  dsimp only
  simp only [text_append, hselect, List.append_assoc]

theorem isBalanced_relatedInner (st : Style) (current table : String)
    (column parent : Option String) :
    IsBalanced st.dialect (text (relatedInnerSql st current table column parent)) := by
  have hquote : ∀ ident, IsBalanced st.dialect (text (st.quote ident)) := isBalanced_quote st
  have hlevel : ∀ s, isLevel s = true → IsBalanced st.dialect (text s) :=
    fun s hs => isBalanced_level hs
  unfold relatedInnerSql
  simp only [text_append, List.append_assoc]
  refine (hlevel "SELECT " (by decide)).append ((hquote _).append ?_)
  refine (hlevel " FROM " (by decide)).append ((hquote _).append ?_)
  refine (hlevel " WHERE " (by decide)).append ((hquote _).append ?_)
  refine (hlevel "." (by decide)).append ((hquote _).append ?_)
  refine (hlevel " = " (by decide)).append ((hquote _).append ?_)
  exact (hlevel "." (by decide)).append (hquote _)

theorem isBalanced_relatedSql (st : Style) (current table : String) (column parent : Option String)
    (wanted : Bool) :
    IsBalanced st.dialect (text (relatedSql st current table column parent wanted)) := by
  rw [text_relatedSql]
  exact (isBalanced_level (by cases wanted <;> decide)).append
    (isBalanced_relatedInner st current table column parent).parens

/-- An alias behind what it stands for. -/
theorem isBalanced_alias (st : Style) {sql sep : String} (hsql : IsBalanced st.dialect (text sql))
    (hsep : isLevel sep = true) (called : String) :
    IsBalanced st.dialect (text (sql ++ sep ++ st.quoteIdent called)) := by
  rw [text_append, text_append]
  exact (hsql.append (isBalanced_level hsep)).append (isBalanced_quoteIdent st called)

theorem isBalanced_selectColumn (st : Style) {c : SelectColumn} (h : c.column.isRaw = false) :
    IsBalanced st.dialect (text (c.sql st)) := by
  have hcolumn := isBalanced_quoteColumn st h
  unfold SelectColumn.sql
  split
  · split
    · exact hcolumn
    · exact isBalanced_alias st hcolumn (by decide) _
  · exact hcolumn

theorem isBalanced_aggregate (st : Style) (fn : AggregateFn) (called : String) {column : Column}
    (h : column.isRaw = false) :
    IsBalanced st.dialect (text (AggregateClause.itemSql st fn called column)) := by
  have hname : IsBalanced st.dialect (text fn.sql) := isBalanced_level (by cases fn <;> decide)
  have hcall : IsBalanced st.dialect (text (fn.sql ++ "(" ++ st.quoteColumn column ++ ")")) := by
    have hparens := hname.append (isBalanced_quoteColumn st h).parens
    simpa only [text_append, List.append_assoc] using hparens
  unfold AggregateClause.itemSql
  dsimp only
  split
  · exact hcall
  · exact isBalanced_alias st hcall (by decide) called

theorem isBalanced_aggregates (st : Style) {clause : AggregateClause}
    (h : (clause.entries.all fun (_, c) => !c.isRaw) = true) :
    IsBalanced st.dialect (text (AggregateClause.sql st clause)) := by
  rw [AggregateClause.sql, AggregateClause.items_eq]
  refine isBalanced_intercalate (by decide) fun s hs => ?_
  obtain ⟨e, he, rfl⟩ := List.mem_map.mp hs
  have hentry := AggregateClause.mem_entries_of_mem_listed he
  exact isBalanced_aggregate st e.1 e.2.1 (by simpa using List.all_eq_true.mp h _ hentry)

/-- **The select list and the table.** -/
theorem isBalanced_selectListSql (st : Style) (table : String) (called : Option String)
    {columns : List SelectColumn} (hcolumns : (columns.all fun c => !c.column.isRaw) = true)
    (distinct : Bool) {aggregates : AggregateClause}
    (haggregates : (aggregates.entries.all fun (_, c) => !c.isRaw) = true) :
    IsBalanced st.dialect
      (text (selectListSql st table called columns distinct aggregates)) := by
  have hcolumn : ∀ c ∈ columns, IsBalanced st.dialect (text (c.sql st)) := fun c hc =>
    isBalanced_selectColumn st (by simpa using List.all_eq_true.mp hcolumns c hc)
  have hitems := forall_mem_selectItems (P := fun s => IsBalanced st.dialect (text s)) st hcolumn
    (isBalanced_aggregates st haggregates)
  have hlist : ∀ items : List String, (∀ s ∈ items, IsBalanced st.dialect (text s)) →
      IsBalanced st.dialect (text (if items.isEmpty then "*" else ", ".intercalate items)) := by
    intro items h
    split
    · exact isBalanced_level (by decide)
    · exact isBalanced_intercalate (by decide) h
  have hselect : IsBalanced st.dialect (text "SELECT ") := isBalanced_level (by decide)
  have hdistinct : IsBalanced st.dialect (text (if distinct then "DISTINCT " else "")) :=
    isBalanced_level (by cases distinct <;> decide)
  have hfrom : IsBalanced st.dialect (text " FROM ") := isBalanced_level (by decide)
  have hsql := (((hselect.append hdistinct).append (hlist _ hitems)).append hfrom).append
    (isBalanced_quote st table)
  simp only [← text_append] at hsql
  unfold selectListSql
  dsimp only
  split
  · exact isBalanced_alias st hsql (by decide) _
  · exact hsql

/-- A join predicate after a joined table. -/
theorem isBalanced_on (st : Style) {target : String} (ht : IsBalanced st.dialect (text target))
    {p : JoinPredicate} (h : p.isRawFree = true) :
    IsBalanced st.dialect (text (target ++ " ON " ++ st.quoteColumn p.near ++ " " ++ p.op.sql ++ " "
      ++ st.quoteColumn p.far)) := by
  have hraw : p.near.isRaw = false ∧ p.far.isRaw = false := by
    simpa [JoinPredicate.isRawFree] using h
  have hon : IsBalanced st.dialect (text " ON ") := isBalanced_level (by decide)
  have hblank : IsBalanced st.dialect (text " ") := isBalanced_level (by decide)
  have hop : IsBalanced st.dialect (text p.op.sql) := isBalanced_level (isLevel_operator p.op)
  simp only [text_append]
  exact (((((ht.append hon).append (isBalanced_quoteColumn st hraw.1)).append hblank).append
    hop).append hblank).append (isBalanced_quoteColumn st hraw.2)

theorem isBalanced_onDefault (st : Style) {target : String}
    (ht : IsBalanced st.dialect (text target)) (table name : String) :
    IsBalanced st.dialect
      (text (target ++ " ON " ++ Join.defaultPredicate st table name)) := by
  have hon : IsBalanced st.dialect (text " ON ") := isBalanced_level (by decide)
  have hequal : IsBalanced st.dialect (text " = ") := isBalanced_level (by decide)
  rw [Join.defaultPredicate, text_append, text_append, text_append, text_append]
  exact (ht.append hon).append
    (((isBalanced_quote st _).append hequal).append (isBalanced_quote st _))

theorem isBalanced_join (st : Style) (table : String) {j : Join}
    (h : j.predicate.all JoinPredicate.isRawFree = true) :
    IsBalanced st.dialect (text (j.sql st table)) := by
  have hkind : IsBalanced st.dialect (text j.kind.sql) :=
    isBalanced_level (by cases j.kind <;> decide)
  have hblank : IsBalanced st.dialect (text " ") := isBalanced_level (by decide)
  have htable : IsBalanced st.dialect (text (j.kind.sql ++ " " ++ st.quote j.table)) := by
    rw [text_append, text_append]
    exact (hkind.append hblank).append (isBalanced_quote st j.table)
  unfold Join.sql
  dsimp only
  cases j.called with
  | none =>
    split
    · exact htable
    · rename_i near op far hpredicate _
      rw [hpredicate] at h
      exact isBalanced_on st htable (p := ⟨near, op, far⟩) h
    · exact isBalanced_onDefault st htable table _
  | some called =>
    have haliased := isBalanced_alias st htable (show isLevel " " = true by decide) called
    split
    · exact haliased
    · rename_i near op far hpredicate _
      rw [hpredicate] at h
      exact isBalanced_on st haliased (p := ⟨near, op, far⟩) h
    · exact isBalanced_onDefault st haliased table _

theorem isBalanced_joins (st : Style) (table : String) {clause : JoinClause}
    (h : clause.isRawFree = true) : IsBalanced st.dialect (text (clause.sql st table)) := by
  refine isBalanced_intercalate (by decide) fun s hs => ?_
  obtain ⟨j, hj, rfl⟩ := List.mem_map.mp hs
  exact isBalanced_join st table (List.all_eq_true.mp h j hj)

theorem isBalanced_groups (st : Style) {clause : GroupClause}
    (h : (clause.columns.all fun c => !c.isRaw) = true) :
    IsBalanced st.dialect (text (clause.sql st)) := by
  unfold GroupClause.sql
  split
  · exact isBalanced_nil
  · rw [text_append]
    refine (isBalanced_level (by decide)).append (isBalanced_intercalate (by decide) fun s hs => ?_)
    obtain ⟨c, hc, rfl⟩ := List.mem_map.mp hs
    exact isBalanced_quoteColumn st (by simpa using List.all_eq_true.mp h c hc)

theorem isBalanced_orders (st : Style) {clause : OrderClause}
    (h : (clause.entries.all fun (c, _) => !c.isRaw) = true) :
    IsBalanced st.dialect (text (clause.sql st)) := by
  unfold OrderClause.sql
  split
  · exact isBalanced_nil
  · rw [text_append]
    refine (isBalanced_level (by decide)).append (isBalanced_intercalate (by decide) fun s hs => ?_)
    obtain ⟨⟨c, direction⟩, hc, rfl⟩ := List.mem_map.mp hs
    have hraw : c.isRaw = false := by simpa using List.all_eq_true.mp h _ hc
    have hblank : IsBalanced st.dialect (text " ") := isBalanced_level (by decide)
    dsimp only
    rw [text_append, text_append]
    exact ((isBalanced_quoteColumn st hraw).append hblank).append
      (isBalanced_level (by cases direction <;> decide))

theorem isBalanced_rowCountTemplate {d : Dialect} {keyword : String}
    (hk : isLevel (keyword ++ " ") = true) (table column : String) (n : Option UInt64) :
    ∀ t ∈ (n.map (rowCountTemplate keyword table column)).toList, IsBalanced d t := by
  intro t ht
  cases n with
  | none => exact absurd ht (by simp)
  | some n =>
    rw [List.mem_singleton.mp ht]
    exact (isBalanced_level hk).append (isBalanced_slot table column _)

/-! ## Statements -/

mutual

/-- **A test without raw SQL** is balanced. -/
theorem Predicate.isBalanced_template (st : Style) (kind : ClauseKind) (table : String) :
    ∀ predicate : Predicate, predicate.isRawFree = true →
      IsBalanced st.dialect (predicate.template st kind table)
  | .compare column op operand, h => by
    simp only [Predicate.template]
    exact isBalanced_compareTemplate st kind table (by simpa [Predicate.isRawFree] using h) op
      operand
  | .raw sql params, h => by cases h
  | .related other column parent wanted, _ => by
    simp only [Predicate.template]
    exact isBalanced_relatedSql st table other column parent wanted
  | .subquery query wanted, h => by
    have hquery := Select.isBalanced_template st query h
    simp only [Predicate.template]
    cases wanted with
    | true => exact hquery.enclosed "EXISTS " (by decide)
    | false => exact hquery.enclosed "NOT EXISTS " (by decide)
  | .group conditions, h => by
    have hconditions := Conditions.isBalanced_templateFrom st kind table false conditions h
    simp only [Predicate.template]
    exact hconditions.enclosed "" (by decide)

/-- Conditions without raw SQL are balanced. -/
theorem Conditions.isBalanced_templateFrom (st : Style) (kind : ClauseKind) (table : String)
    (started : Bool) : ∀ conditions : List Condition, Conditions.areRawFree conditions = true →
      IsBalanced st.dialect (Conditions.templateFrom st kind table started conditions)
  | [], _ => isBalanced_nil
  | ⟨joiner, predicate⟩ :: conditions, h => by
    obtain ⟨hp, hc⟩ := Bool.and_eq_true_iff.mp h
    have hbody := Predicate.isBalanced_template st kind table predicate hp
    have hjoiner : IsBalanced st.dialect (text (joinerText joiner)) := by
      rcases joiner with _ | (_ | _) <;> exact isBalanced_level (by decide)
    simp only [Conditions.templateFrom]
    split
    · exact hbody.append (Conditions.isBalanced_templateFrom st kind table started conditions hc)
    · refine (IsBalanced.append ?_ hbody).append
        (Conditions.isBalanced_templateFrom st kind table true conditions hc)
      split
      · exact hjoiner
      · exact isBalanced_nil

/-- **A SELECT statement without raw SQL** is balanced. -/
theorem Select.isBalanced_template (st : Style) : ∀ q : Select, q.isRawFree = true →
    IsBalanced st.dialect (q.template st)
  | ⟨table, called, columns, distinct, joins, ⟨conditions, inConditions⟩, groups, havings, orders,
      aggregates, unions, limit, offset, inTable⟩, h => by
    simp only [Select.isRawFree, Bool.and_eq_true] at h
    obtain ⟨⟨⟨⟨⟨⟨⟨hcolumns, hjoins⟩, hw⟩, hgroups⟩, hh⟩, horders⟩, haggregates⟩, hu⟩ := h
    have hwheres := Conditions.isBalanced_templateFrom st .wheres table false conditions hw
    have hhavings := Conditions.isBalanced_templateFrom st .having table false havings hh
    have hbranches := Select.isBalanced_branchTemplates st unions hu
    simp only [Select.template]
    split
    · exact isBalanced_nil
    · refine IsBalanced.squeeze (isBalanced_joined (by decide) fun t ht => ?_)
      simp only [List.mem_append, List.mem_cons, List.not_mem_nil, or_false] at ht
      rcases ht with (((rfl | rfl | rfl | rfl | rfl | rfl) | hb) | hl) | ho
      · exact isBalanced_selectListSql st table called hcolumns distinct haggregates
      · exact isBalanced_joins st table hjoins
      · exact hwheres.headed (by decide)
      · exact isBalanced_groups st hgroups
      · exact hhavings.headed (by decide)
      · exact isBalanced_orders st horders
      · exact hbranches t hb
      · exact isBalanced_rowCountTemplate (by decide) table "limit" limit t hl
      · exact isBalanced_rowCountTemplate (by decide) table "offset" offset t ho

/-- Union branches without raw SQL are balanced. -/
theorem Select.isBalanced_branchTemplates (st : Style) : ∀ unions : List UnionBranch,
    Select.areRawFreeBranches unions = true →
      ∀ t ∈ Select.branchTemplates st unions, IsBalanced st.dialect t
  | [], _ => fun t ht => absurd ht (by simp [Select.branchTemplates])
  | ⟨all, query⟩ :: unions, h => by
    obtain ⟨hq, hu⟩ := Bool.and_eq_true_iff.mp h
    have hbody := Select.isBalanced_template st query hq
    have hrest := Select.isBalanced_branchTemplates st unions hu
    exact Select.forall_mem_branchTemplates (hbody.headed (by cases all <;> decide)) hrest

end

end FluentSql
