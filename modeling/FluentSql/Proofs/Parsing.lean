import FluentSql.Operator
import FluentSql.Proofs.Tokens
/-!
# `FluentSql.Proofs.Parsing` — a parser for lists of conditions

The grammar is `list = test ((AND | OR) test)*`, where a test is a list in parentheses or a **leaf**.
A leaf is any other run of tokens, up to a conjunction or a closing parenthesis. What it puts in
parentheses itself stays inside of it, and so does the AND that belongs to its BETWEEN.

The parser knows nothing of what was written. It goes over the tokens once, with a stack of the lists
that are open. What a run of tokens is to it is said by three predicates, and every rule of the
grammar is one lemma about them:

* `IsTest` — a test: `IsLeaf.isTest`, `IsList.isTest`;
* `AreMore` — the rest of a list: `areMore_nil`, `AreMore.cons`;
* `IsList` — a list: `IsTest.isList`, `IsList.parse`.
-/

namespace FluentSql.Parsing

open Reading

/-! ## What is parsed -/

mutual

/-- **A test** as the parser sees it. -/
inductive Tree where
  | leaf (tokens : List Token)
  | group (entries : List Entry)

/-- **A test in a list**, with the conjunction before it. -/
structure Entry where
  joiner : Option Conjunction
  tree : Tree

end

mutual

/-- **The skeleton of a test**: all but the tokens of its leaves. -/
def Tree.skeleton : Tree → Tree
  | .leaf _ => .leaf []
  | .group entries => .group (Tree.skeletons entries)

/-- The skeletons of a list. -/
def Tree.skeletons : List Entry → List Entry
  | [] => []
  | ⟨joiner, tree⟩ :: entries => ⟨joiner, Tree.skeleton tree⟩ :: Tree.skeletons entries

end

/-- A keyword. -/
def word (s : String) : Token := .word s.toList

/-- The conjunction that a token is. -/
def conjunction? (t : Token) : Option Conjunction :=
  if t = word "AND" then some .and else if t = word "OR" then some .or else none

/-! ## Leaves -/

/-- **What was read of a leaf**: its tokens, how many of its parentheses are open, and whether it has
    a BETWEEN whose AND is still to come. -/
structure Leaf where
  tokens : List Token
  depth : Nat
  between : Bool

/-- A leaf of which nothing was read. -/
def Leaf.empty : Leaf := ⟨[], 0, false⟩

/-- **One more token of a leaf**, unless the leaf ends before it. -/
def Leaf.read (leaf : Leaf) (t : Token) : Option Leaf :=
  match leaf.depth, conjunction? t with
  | 0, some .and => if leaf.between then some ⟨leaf.tokens ++ [t], 0, false⟩ else none
  | 0, some .or => none
  | 0, none =>
    (paren 0 t).map fun depth => ⟨leaf.tokens ++ [t], depth, leaf.between || t = word "BETWEEN"⟩
  | depth, _ => (paren depth t).map fun depth => ⟨leaf.tokens ++ [t], depth, leaf.between⟩

/-- The test that a leaf is, if it can end here. -/
def Leaf.tree? (leaf : Leaf) : Option Tree :=
  if leaf.depth = 0 ∧ leaf.between = false then some (.leaf leaf.tokens) else none

/-! ## The parser -/

/-- **A list that is open**: its entries so far, and the conjunction before the next one. -/
structure Level where
  entries : List Entry
  joiner : Option Conjunction

/-- A list of which nothing was read. -/
def Level.empty : Level := ⟨[], none⟩

/-- A test at the end. -/
def Level.put (level : Level) (tree : Tree) : Level :=
  ⟨level.entries ++ [⟨level.joiner, tree⟩], none⟩

/-- **Where in a list** the parser is. -/
inductive Place where
  /-- A test has to begin. -/
  | start
  /-- In a leaf. -/
  | inside (leaf : Leaf)
  /-- After a test. -/
  | after

/-- **The state of the parser**: the innermost list that is open, and those around it. -/
structure State where
  place : Place
  level : Level
  outer : List Level

/-- A token after a test. -/
def follow (level : Level) (outer : List Level) (t : Token) : Option State :=
  match conjunction? t with
  | some joiner => some ⟨.start, ⟨level.entries, some joiner⟩, outer⟩
  | none =>
    match outer with
    | [] => none
    | above :: outer =>
      if t = .mark ')' then some ⟨.after, above.put (.group level.entries), outer⟩ else none

/-- **One token.** -/
def State.step (s : State) (t : Token) : Option State :=
  match s.place with
  | .start =>
    if t = .mark '(' then some ⟨.start, .empty, s.level :: s.outer⟩
    else (Leaf.empty.read t).map fun leaf => ⟨.inside leaf, s.level, s.outer⟩
  | .inside leaf =>
    match leaf.read t with
    | some leaf => some ⟨.inside leaf, s.level, s.outer⟩
    | none => leaf.tree?.bind fun tree => follow (s.level.put tree) s.outer t
  | .after => follow s.level s.outer t

/-- The list, if the text can end here. -/
def State.finish (s : State) : Option (List Entry) :=
  match s.outer, s.place with
  | [], .inside leaf => leaf.tree?.map fun tree => (s.level.put tree).entries
  | [], .after => some s.level.entries
  | _, _ => none

/-- The rest of the tokens. -/
def parseFrom (s : State) : List Token → Option (List Entry)
  | [] => s.finish
  | t :: ts => (s.step t).bind fun s => parseFrom s ts

/-- **Parsing a list.** No tokens are the empty list. -/
def parse (ts : List Token) : Option (List Entry) :=
  if ts.isEmpty then some [] else parseFrom ⟨.start, .empty, []⟩ ts

/-! ## Runs of tokens -/

theorem parseFrom_cons {s next : State} {t : Token} (h : s.step t = some next) (ts : List Token) :
    parseFrom s (t :: ts) = parseFrom next ts := by
  rw [parseFrom, h]
  rfl

/-- Whether a test ends before these tokens. -/
def Ends (ts : List Token) : Prop := ∀ t ∈ ts.head?, (conjunction? t).isSome ∨ t = .mark ')'

/-- **Tokens that are a test.** -/
def IsTest (ts : List Token) (tree : Tree) : Prop :=
  ∀ (level : Level) (outer : List Level) (rest : List Token), Ends rest →
    parseFrom ⟨.start, level, outer⟩ (ts ++ rest) = parseFrom ⟨.after, level.put tree, outer⟩ rest

/-- **Tokens that are the rest of a list** after a test. -/
structure AreMore (ts : List Token) (entries : List Entry) : Prop where
  ends : Ends ts
  parseFrom_eq : ∀ (before : List Entry) (outer : List Level) (rest : List Token), Ends rest →
    parseFrom ⟨.after, ⟨before, none⟩, outer⟩ (ts ++ rest) =
      parseFrom ⟨.after, ⟨before ++ entries, none⟩, outer⟩ rest

/-- **Tokens that are a list.** -/
def IsList (ts : List Token) (entries : List Entry) : Prop :=
  ∀ (outer : List Level) (rest : List Token), Ends rest →
    parseFrom ⟨.start, .empty, outer⟩ (ts ++ rest) = parseFrom ⟨.after, ⟨entries, none⟩, outer⟩ rest

theorem Ends.append {ts rest : List Token} (h : Ends ts) (hrest : Ends rest) :
    Ends (ts ++ rest) := by
  cases ts with
  | nil => exact hrest
  | cons t ts => exact h

theorem conjunction?_word (joiner : Conjunction) :
    conjunction? (word joiner.sql) = some joiner := by
  cases joiner <;> rfl

theorem areMore_nil : AreMore [] [] where
  ends := fun t ht => by cases ht
  parseFrom_eq := by
    intro before outer rest _
    rw [List.nil_append, List.append_nil]

/-- A conjunction and a test are more of a list. -/
theorem AreMore.cons {ts us : List Token} {tree : Tree} {entries : List Entry} (ht : IsTest ts tree)
    (hmore : AreMore us entries) (joiner : Conjunction) :
    AreMore (word joiner.sql :: (ts ++ us)) (⟨some joiner, tree⟩ :: entries) where
  ends := by
    intro t h
    cases h
    rw [conjunction?_word]
    exact .inl rfl
  parseFrom_eq := by
    intro before outer rest hrest
    have hstep : State.step ⟨.after, ⟨before, none⟩, outer⟩ (word joiner.sql) =
        some ⟨.start, ⟨before, some joiner⟩, outer⟩ := by
      simp only [State.step, follow, conjunction?_word]
    rw [List.cons_append, parseFrom_cons hstep, List.append_assoc,
      ht _ outer _ (hmore.ends.append hrest), Level.put, hmore.parseFrom_eq _ outer rest hrest,
      List.append_assoc]
    rfl

/-- A test and more of a list are a list. -/
theorem IsTest.isList {ts us : List Token} {tree : Tree} {entries : List Entry}
    (ht : IsTest ts tree) (hmore : AreMore us entries) : IsList (ts ++ us) (⟨none, tree⟩ :: entries) := by
  intro outer rest hrest
  rw [List.append_assoc, ht .empty outer _ (hmore.ends.append hrest), Level.put,
    hmore.parseFrom_eq _ outer rest hrest]
  rfl

/-- **A list in parentheses** is a test. -/
theorem IsList.isTest {ts : List Token} {entries : List Entry} (h : IsList ts entries) :
    IsTest (.mark '(' :: (ts ++ [.mark ')'])) (.group entries) := by
  intro level outer rest _
  have hopen : State.step ⟨.start, level, outer⟩ (.mark '(') =
      some ⟨.start, .empty, level :: outer⟩ := rfl
  have hclose : State.step ⟨.after, ⟨entries, none⟩, level :: outer⟩ (.mark ')') =
      some ⟨.after, level.put (.group entries), outer⟩ := rfl
  have hends : Ends ([.mark ')'] ++ rest) := by
    intro t ht
    cases ht
    exact .inr rfl
  rw [List.cons_append, parseFrom_cons hopen, List.append_assoc, h (level :: outer) _ hends]
  exact parseFrom_cons hclose rest

/-- **A list that is the whole text** is what the parser yields. -/
theorem IsList.parse {ts : List Token} {entries : List Entry} (h : IsList ts entries) :
    Parsing.parse ts = some entries := by
  have hwhole := h [] [] fun t ht => by cases ht
  rw [List.append_nil] at hwhole
  cases ts with
  | nil => cases hwhole
  | cons t ts => exact hwhole

/-! ## Leaves -/

/-- **Tokens that leave a leaf outside of parentheses** if they come where it is outside: whether an
    AND is awaited before them, and after them. -/
def Keeps (between : Bool) (ts : List Token) (after : Bool) : Prop :=
  ∀ read, ts.foldlM Leaf.read ⟨read, 0, between⟩ = some ⟨read ++ ts, 0, after⟩

theorem Keeps.append {a b c : Bool} {ts us : List Token} (hts : Keeps a ts b) (hus : Keeps b us c) :
    Keeps a (ts ++ us) c := by
  intro read
  rw [foldlM_append_of (hts read), hus, List.append_assoc]

/-- The tokens that mean nothing to the parser. -/
def isPlain (t : Token) : Bool :=
  (conjunction? t).isNone && t != word "BETWEEN" && t != .mark '(' && t != .mark ')'

theorem paren_of_ne {t : Token} (hopen : t ≠ .mark '(') (hclose : t ≠ .mark ')') (depth : Nat) :
    paren depth t = some depth := by
  cases t with
  | mark c =>
    have ho : c ≠ '(' := fun h => hopen (congrArg Token.mark h)
    have hc : c ≠ ')' := fun h => hclose (congrArg Token.mark h)
    simp only [paren, if_neg ho, if_neg hc]
  | quoted name => rfl
  | word cs => rfl

theorem of_isPlain {t : Token} (h : isPlain t = true) :
    conjunction? t = none ∧ t ≠ word "BETWEEN" ∧ ∀ depth, paren depth t = some depth := by
  have ht : ((conjunction? t = none ∧ t ≠ word "BETWEEN") ∧ t ≠ .mark '(') ∧ t ≠ .mark ')' := by
    simpa [isPlain] using h
  exact ⟨ht.1.1.1, ht.1.1.2, paren_of_ne ht.1.2 ht.2⟩

theorem keeps_plain {between : Bool} {ts : List Token} (hts : ∀ t ∈ ts, isPlain t = true) :
    Keeps between ts between := by
  induction ts with
  | nil =>
    intro read
    rw [List.append_nil]
    rfl
  | cons t ts ih =>
    intro read
    obtain ⟨hjoiner, hbetween, hparen⟩ := of_isPlain (hts t (by simp))
    have hstep : Leaf.read ⟨read, 0, between⟩ t = some ⟨read ++ [t], 0, between⟩ := by
      simp [Leaf.read, hjoiner, hbetween, hparen]
    rw [foldlM_cons_of hstep, ih (fun u hu => hts u (List.mem_cons_of_mem t hu)),
      List.append_assoc]
    rfl

theorem keeps_between : Keeps false [word "BETWEEN"] true := fun _ => rfl

theorem keeps_and : Keeps true [word "AND"] false := fun _ => rfl

theorem paren_add_one {t : Token} {depth next : Nat} (h : paren depth t = some next) :
    paren (depth + 1) t = some (next + 1) := by
  by_cases hopen : t = .mark '('
  · subst hopen
    cases h
    rfl
  · by_cases hclose : t = .mark ')'
    · subst hclose
      cases depth with
      | zero => cases h
      | succ depth =>
        cases h
        rfl
    · rw [paren_of_ne hopen hclose] at h ⊢
      cases h
      rfl

theorem foldlM_paren_of_plain {ts : List Token} (hts : ∀ t ∈ ts, isPlain t = true) (depth : Nat) :
    ts.foldlM paren depth = some depth := by
  induction ts with
  | nil => rfl
  | cons t ts ih =>
    rw [foldlM_cons_of ((of_isPlain (hts t (by simp))).2.2 depth)]
    exact ih fun u hu => hts u (List.mem_cons_of_mem t hu)

/-- Inside of parentheses a leaf reads on, one level deeper than what is read. -/
theorem foldlM_read_inside {ts : List Token} {depth after : Nat}
    (h : ts.foldlM paren depth = some after) (read : List Token) (between : Bool) :
    ts.foldlM Leaf.read ⟨read, depth + 1, between⟩ = some ⟨read ++ ts, after + 1, between⟩ := by
  induction ts generalizing depth read with
  | nil =>
    cases h
    rw [List.append_nil]
    rfl
  | cons t ts ih =>
    obtain ⟨next, hnext, hrest⟩ := Option.bind_eq_some_iff.mp h
    have hdeeper := paren_add_one hnext
    have hstep : Leaf.read ⟨read, depth + 1, between⟩ t =
        some ⟨read ++ [t], next + 1, between⟩ := by
      simp only [Leaf.read, hdeeper, Option.map_some]
    rw [foldlM_cons_of hstep, ih hrest, List.append_assoc]
    rfl

/-- **Parentheses of a leaf** stay inside of it, whatever they hold. -/
theorem keeps_parens {between : Bool} {ts : List Token} (h : ts.foldlM paren 0 = some 0) :
    Keeps between (.mark '(' :: (ts ++ [.mark ')'])) between := by
  intro read
  have hopen : Leaf.read ⟨read, 0, between⟩ (.mark '(') =
      some ⟨read ++ [.mark '('], 1, between⟩ := by
    cases between <;> rfl
  have hclose : ∀ read, Leaf.read ⟨read, 1, between⟩ (.mark ')') =
      some ⟨read ++ [.mark ')'], 0, between⟩ := fun _ => rfl
  rw [foldlM_cons_of hopen, foldlM_append_of (foldlM_read_inside h _ between),
    foldlM_cons_of (hclose _)]
  simp

/-- **Tokens that are a leaf**: they do not begin like a group, and nothing of them is open at their
    end. -/
structure IsLeaf (ts : List Token) : Prop where
  begins : ∃ t us, ts = t :: us ∧ t ≠ .mark '('
  keeps : Keeps false ts false

theorem isLeaf_of_keeps {front ts : List Token} (hne : front ≠ [])
    (hfront : ∀ t ∈ front, t ≠ .mark '(') (hkeeps : Keeps false (front ++ ts) false) :
    IsLeaf (front ++ ts) := by
  cases front with
  | nil => exact absurd rfl hne
  | cons t front => exact ⟨⟨t, front ++ ts, rfl, hfront t (by simp)⟩, hkeeps⟩

theorem parseFrom_inside {ts : List Token} {leaf after : Leaf}
    (h : ts.foldlM Leaf.read leaf = some after) (level : Level) (outer : List Level)
    (rest : List Token) :
    parseFrom ⟨.inside leaf, level, outer⟩ (ts ++ rest) =
      parseFrom ⟨.inside after, level, outer⟩ rest := by
  induction ts generalizing leaf with
  | nil =>
    cases h
    rfl
  | cons t ts ih =>
    obtain ⟨next, hnext, hrest⟩ := Option.bind_eq_some_iff.mp h
    have hstep : State.step ⟨.inside leaf, level, outer⟩ t = some ⟨.inside next, level, outer⟩ := by
      simp only [State.step, hnext]
    rw [List.cons_append, parseFrom_cons hstep]
    exact ih hrest

/-- A leaf of which nothing is open ends where a test ends. -/
theorem parseFrom_of_ends {rest : List Token} (h : Ends rest) (read : List Token) (level : Level)
    (outer : List Level) :
    parseFrom ⟨.inside ⟨read, 0, false⟩, level, outer⟩ rest =
      parseFrom ⟨.after, level.put (.leaf read), outer⟩ rest := by
  cases rest with
  | nil => cases outer <;> rfl
  | cons t rest =>
    have hend : Leaf.read ⟨read, 0, false⟩ t = none := by
      rcases h t rfl with hjoiner | rfl
      · obtain ⟨joiner, hj⟩ := Option.isSome_iff_exists.mp hjoiner
        cases joiner <;> simp [Leaf.read, hj]
      · rfl
    have htree : Leaf.tree? ⟨read, 0, false⟩ = some (.leaf read) := rfl
    simp only [parseFrom, State.step, hend, htree, Option.bind_some]

/-- **A leaf** is a test. -/
theorem IsLeaf.isTest {ts : List Token} (h : IsLeaf ts) : IsTest ts (.leaf ts) := by
  intro level outer rest hrest
  obtain ⟨t, us, rfl, ht⟩ := h.begins
  obtain ⟨leaf, hleaf, hus⟩ := Option.bind_eq_some_iff.mp (h.keeps [])
  have hstep : State.step ⟨.start, level, outer⟩ t = some ⟨.inside leaf, level, outer⟩ := by
    have hread : Leaf.empty.read t = some leaf := hleaf
    simp only [State.step, if_neg ht, hread, Option.map_some]
  rw [List.cons_append, parseFrom_cons hstep, parseFrom_inside hus, parseFrom_of_ends hrest]
  rfl

end FluentSql.Parsing
