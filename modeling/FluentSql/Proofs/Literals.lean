import FluentSql.Proofs.Bindings
import FluentSql.Proofs.Lexemes
import FluentSql.Proofs.Numbering
import FluentSql.Proofs.SpelledNumbers
/-!
# `FluentSql.Proofs.Literals` — literals in the place of placeholders

The text that is shown in a log has a literal in the place of each placeholder. A literal could in
principle merge with what stands around it, or hold what looks like a placeholder. It does not: it is
read, where it stands, as the lexemes that it is when it stands alone, and none of them is a placeholder.

* `Value.standsAlone_literal` — the literal of every value;
* `split_literal_text` — the literal of a text is one lexeme, whose contents are the text;
* `Template.splitFrom_assemble` — the lexemes with names and with literals, side by side;
* `Statement.rawSql_build` — the text with literals of a statement.
-/

namespace FluentSql

open FluentSql.Text FluentSql.Number Template Placeholder

/-! ## Texts that stand alone -/

/-- **A text that stands alone** holds no placeholder and merges with nothing behind it that does not
    begin with a quote. -/
structure Placeholder.StandsAlone (cs : List Char) : Prop where
  nameless : ∀ x ∈ split cs, x.name? = none
  apart : ∀ rest : List Char, (∀ c ∈ rest.head?, isQuote c = false) →
    split (cs ++ rest) = split cs ++ split rest

namespace Placeholder

theorem standsAlone_nil : StandsAlone [] where
  nameless := fun _ hx => absurd hx List.not_mem_nil
  apart := fun _ _ => rfl

/-- One lexeme that is no placeholder and needs nothing but that no quote stands behind it. -/
theorem standsAlone_lexeme {x : Lexeme} (hname : x.name? = none)
    (hends : ∀ rest : List Char, (∀ c ∈ rest.head?, isQuote c = false) → x.Ends rest) :
    StandsAlone x.text := by
  have halone : split x.text = [x] := by
    have h := split_append (hends [] fun c hc => by cases hc)
    rw [List.append_nil] at h
    exact h
  constructor
  · intro y hy
    rw [halone, List.mem_singleton] at hy
    rw [hy, hname]
  · intro rest hrest
    rw [halone, split_append (hends rest hrest)]
    rfl

/-- An inert character before a text that stands alone. -/
theorem StandsAlone.cons {c : Char} (hc : isInertChar c = true) {cs : List Char}
    (h : StandsAlone cs) : StandsAlone (c :: cs) := by
  rw [isInertChar, Bool.and_eq_true, Bool.not_eq_true', bne_iff_ne] at hc
  have hfirst : ∀ back, split (c :: back) = .other ⟨c, hc.1⟩ :: split back := by
    intro back
    have hends : (Lexeme.other ⟨c, hc.1⟩).Ends back := fun hcolon => absurd hcolon hc.2
    exact split_append hends
  constructor
  · intro x hx
    rw [hfirst] at hx
    rcases List.mem_cons.mp hx with rfl | hmem
    · rfl
    · exact h.nameless x hmem
  · intro rest hrest
    rw [List.cons_append, hfirst, hfirst, h.apart rest hrest]
    rfl

/-- **Inert text** stands alone. -/
theorem standsAlone_inert {cs : List Char} (h : ∀ c ∈ cs, isInertChar c = true) : StandsAlone cs := by
  induction cs with
  | nil => exact standsAlone_nil
  | cons c cs ih =>
    exact (ih fun d hd => h d (List.mem_cons_of_mem c hd)).cons (h c List.mem_cons_self)

/-- The quote of a text literal. -/
def textQuote : Quote := ⟨'\'', rfl⟩

/-- **A text in quotes** stands alone, whatever it holds. -/
theorem standsAlone_wrap (contents : List Char) : StandsAlone (wrap '\'' contents) := by
  refine standsAlone_lexeme (x := .quoted textQuote contents true) rfl fun rest hrest hhead => ?_
  have hquote := hrest textQuote.val hhead
  rw [textQuote.property] at hquote
  cases hquote

end Placeholder

/-! ## Literals -/

theorem isInertChar_of_isNameChar {c : Char} (h : Placeholder.isNameChar c = true) :
    isInertChar c = true := by
  have hquote : isQuote c = false := by
    cases hq : isQuote c with
    | false => rfl
    | true =>
      simp only [isQuote, Bool.or_eq_true, beq_iff_eq] at hq
      rcases hq with (rfl | rfl) | rfl <;> exact absurd h (by decide)
  have hcolon : c ≠ ':' := by
    rintro rfl
    exact absurd h (by decide)
  simp [isInertChar, hquote, hcolon]

theorem isInertChar_of_mem_toDigits {n : Nat} {c : Char} (h : c ∈ Nat.toDigits 10 n) :
    isInertChar c = true :=
  isInertChar_of_isNameChar (Params.isNameChar_of_mem_toDigits h)

theorem isInertChar_of_mem_int {i : Int} {c : Char} (h : c ∈ (toString i).toList) :
    isInertChar c = true := by
  rw [toList_toString] at h
  split at h
  · rcases List.mem_cons.mp h with rfl | hdigit
    · decide
    · exact isInertChar_of_mem_toDigits hdigit
  · exact isInertChar_of_mem_toDigits h

namespace Number

/-- The digits of a float are digits. -/
theorem isInertChar_of_mem_significant {d : Decimal} {c : Char} (h : c ∈ d.significant.1) :
    isInertChar c = true := by
  have hkept : c ∈ (Nat.toDigits 10 d.digits).reverse.dropWhile (· == '0') := List.mem_reverse.mp h
  exact isInertChar_of_mem_toDigits (List.mem_reverse.mp (List.dropWhile_subset _ hkept))

theorem isInertChar_of_ofBits {tie : Tie} {bits : UInt64} {negative : Bool} {digits : List Char}
    {exponent : Int} (h : FloatShape.ofBits tie bits = .finite negative digits exponent) {c : Char}
    (hc : c ∈ digits) : isInertChar c = true := by
  unfold FloatShape.ofBits at h
  dsimp only at h
  split at h
  · split at h <;> cases h
  · split at h
    · cases h
    · cases h
      exact isInertChar_of_mem_significant hc

/-- Digits around a point stay digits. -/
theorem mem_positional {digits : List Char} {exponent : Int} {c : Char}
    (h : c ∈ positional digits exponent []) : c ∈ digits ∨ c = '0' ∨ c = '.' := by
  unfold positional at h
  dsimp only at h
  split at h
  · rw [List.append_nil] at h
    rcases List.mem_append.mp h with hdigit | hzero
    · exact .inl hdigit
    · exact .inr (.inl (List.eq_of_mem_replicate hzero))
  · split at h
    · rcases List.mem_append.mp h with hfront | hback
      · exact .inl (List.mem_of_mem_take hfront)
      · rcases List.mem_cons.mp hback with rfl | hdigit
        · exact .inr (.inr rfl)
        · exact .inl (List.mem_of_mem_drop hdigit)
    · rcases List.mem_cons.mp h with rfl | hrest
      · exact .inr (.inl rfl)
      · rcases List.mem_cons.mp hrest with rfl | hrest
        · exact .inr (.inr rfl)
        · rcases List.mem_append.mp hrest with hzero | hdigit
          · exact .inr (.inl (List.eq_of_mem_replicate hzero))
          · exact .inl hdigit

theorem isInertChar_of_mem_signed {negative : Bool} {body : List Char}
    (h : ∀ c ∈ body, isInertChar c = true) :
    ∀ c ∈ (signed negative body).toList, isInertChar c = true := by
  intro c hc
  rw [signed, String.toList_ofList] at hc
  cases negative with
  | false => exact h c hc
  | true =>
    rcases List.mem_cons.mp hc with rfl | hbody
    · decide
    · exact h c hbody

/-- **A float in SQL** is inert text. -/
theorem isInertChar_of_mem_plain (x : Double) : ∀ c ∈ (plain x).toList, isInertChar c = true := by
  unfold plain
  split
  · exact List.all_eq_true.mp (by decide)
  · exact isInertChar_of_mem_signed (List.all_eq_true.mp (by decide))
  · exact isInertChar_of_mem_signed (List.all_eq_true.mp (by decide))
  · rename_i hshape
    refine isInertChar_of_mem_signed fun c hc => ?_
    rcases mem_positional hc with hdigit | rfl | rfl
    · exact isInertChar_of_ofBits hshape hdigit
    · decide
    · decide

end Number

/-- A text without quotes needs no doubling. -/
theorem Text.doubled_of_not_mem {q : Char} {cs : List Char} (h : q ∉ cs) : doubled q cs = cs := by
  induction cs with
  | nil => rfl
  | cons c cs ih =>
    have hc : c ≠ q := fun heq => h (heq ▸ List.mem_cons_self)
    rw [doubled, if_neg hc, ih fun hmem => h (List.mem_cons_of_mem c hmem)]

/-- No hexadecimal digit is a quote. -/
theorem Text.Hex.quote_not_mem_ofBytes (bytes : List UInt8) : '\'' ∉ Hex.ofBytes Hex.upperDigit bytes := by
  have hdigit : ∀ n : Fin 16, Hex.upperDigit n.val ≠ '\'' := by decide
  induction bytes with
  | nil => exact List.not_mem_nil
  | cons b bytes ih =>
    have hlt : b.toNat < 256 := b.toNat_lt
    intro h
    rcases List.mem_cons.mp h with hhigh | hrest
    · exact hdigit ⟨b.toNat / 16, by omega⟩ hhigh.symm
    · rcases List.mem_cons.mp hrest with hlow | hmem
      · exact hdigit ⟨b.toNat % 16, by omega⟩ hlow.symm
      · exact ih hmem

/-- The literal of a text is the text in quotes. -/
theorem Value.toList_literal_text (s : String) : (Value.text s).literal.toList = wrap '\'' s.toList := by
  rw [Value.literal, quoteWith, String.toList_ofList]

/-- The literal of bytes is their digits in quotes, behind a mark. -/
theorem Value.toList_literal_blob (bytes : List UInt8) :
    (Value.blob bytes).literal.toList = 'X' :: wrap '\'' (Hex.ofBytes Hex.upperDigit bytes) := by
  have hhex : (Hex.upper bytes).toList = Hex.ofBytes Hex.upperDigit bytes := String.toList_ofList
  rw [Value.literal, String.toList_append, String.toList_append, hhex, wrap,
    Text.doubled_of_not_mem (Text.Hex.quote_not_mem_ofBytes bytes)]
  rfl

/-- **The literal of every value** stands alone. -/
theorem Value.standsAlone_literal (v : Value) : StandsAlone v.literal.toList := by
  cases v with
  | null => exact standsAlone_inert (List.all_eq_true.mp (by decide))
  | bool b => cases b <;> exact standsAlone_inert (List.all_eq_true.mp (by decide))
  | int n => exact standsAlone_inert fun c hc => isInertChar_of_mem_int hc
  | float x => exact standsAlone_inert (isInertChar_of_mem_plain x)
  | text s =>
    rw [toList_literal_text]
    exact standsAlone_wrap s.toList
  | blob bytes =>
    rw [toList_literal_blob]
    exact (standsAlone_wrap _).cons (by decide)

/-- **The literal of a text** is one lexeme, and its contents are the text. -/
theorem split_literal_text (s : String) :
    split (Value.text s).literal.toList = [.quoted textQuote s.toList true] := by
  have hends : (Lexeme.quoted textQuote s.toList true).Ends [] := by
    intro h
    cases h
  have hlist : (Value.text s).literal.toList = (Lexeme.quoted textQuote s.toList true).text ++ [] := by
    rw [Value.toList_literal_text, List.append_nil]
    rfl
  rw [hlist, split_append hends]
  rfl

/-! ## Names and literals side by side -/

/-- **What is being read in a region.** Behind a placeholder nothing is, since nothing that stands there
    goes on with it. -/
inductive Region.Reads : Region → Pending → Prop where
  | plain : Reads .plain .plain
  | named : Reads .named .plain
  | quoted (q : Quote) (read : List Char) : Reads (.quoted q) (.quoted q read)
  | closed (q : Quote) (read : List Char) : Reads (.closed q) (.closing q read)

namespace Placeholder

/-- The lexemes of a placeholder's literal in its place, and all other lexemes as they are. -/
def Lexeme.expanded (valueOf : String → Value) (x : Lexeme) : List Lexeme :=
  match x.name? with
  | some name => split (valueOf name).literal.toList
  | none => [x]

theorem Lexeme.expanded_of_name?_eq_none (valueOf : String → Value) {x : Lexeme} (h : x.name? = none) :
    x.expanded valueOf = [x] := by
  rw [expanded, h]

/-- No lexeme in the place of a lexeme is a placeholder. -/
theorem Lexeme.name?_of_mem_expanded {valueOf : String → Value} {x y : Lexeme}
    (h : y ∈ x.expanded valueOf) : y.name? = none := by
  cases hname : x.name? with
  | none =>
    rw [expanded_of_name?_eq_none valueOf hname, List.mem_singleton] at h
    rw [h, hname]
  | some name =>
    rw [expanded, hname] at h
    exact (valueOf name).standsAlone_literal.nameless y h

/-- Lexemes without a placeholder stay. -/
theorem flatMap_expanded_of_nameless (valueOf : String → Value) {xs : List Lexeme}
    (h : ∀ x ∈ xs, x.name? = none) : xs.flatMap (Lexeme.expanded valueOf) = xs := by
  induction xs with
  | nil => rfl
  | cons x xs ih =>
    rw [List.flatMap_cons, Lexeme.expanded_of_name?_eq_none valueOf (h x List.mem_cons_self),
      ih fun y hy => h y (List.mem_cons_of_mem x hy)]
    rfl

theorem filterMap_name?_of_nameless {xs : List Lexeme} (h : ∀ x ∈ xs, x.name? = none) :
    xs.filterMap Lexeme.name? = [] :=
  List.filterMap_eq_nil_iff.mpr h

/-- A name is one lexeme, which ends where no name character follows. -/
theorem IsToken.exists_lexeme {name : String} (h : IsToken name) :
    ∃ x : Lexeme, x.name? = some name ∧ name.toList = x.text ∧
      ∀ rest : List Char, (∀ c ∈ rest.head?, isNameChar c = false) → x.Ends rest := by
  obtain ⟨c, word, hlist, hstart, hword⟩ := h
  obtain ⟨run, rfl⟩ := Lexeme.exists_word word hword
  refine ⟨.token ⟨c, hstart⟩ run, ?_, hlist, fun rest hrest => hrest⟩
  show some (String.ofList (':' :: c :: run.map Subtype.val)) = some name
  rw [← hlist, String.ofList_toList]

end Placeholder

namespace Region

variable {r next last : Region} {p : Pending}

/-- A character outside of quotes begins no placeholder. -/
theorem reads_start {c : Char} (h : outside c = some next) :
    next.Reads (Pending.start c).2 ∧ ∀ x ∈ (Pending.start c).1, x.name? = none := by
  unfold outside at h
  unfold Pending.start
  split at h
  · rename_i hquote
    cases h
    rw [dif_pos hquote]
    exact ⟨.quoted _ [], fun x hx => absurd hx List.not_mem_nil⟩
  · rename_i hquote
    split at h
    · cases h
    · rename_i hcolon
      cases h
      rw [dif_neg hquote, if_neg hcolon]
      refine ⟨.plain, fun x hx => ?_⟩
      rw [List.mem_singleton.mp hx]
      rfl

/-- What is being read in a region is no placeholder. -/
theorem Reads.nameless_flush (h : r.Reads p) : ∀ x ∈ p.flush, x.name? = none := by
  intro x hx
  cases h with
  | plain => cases hx
  | named => cases hx
  | quoted q read =>
    rw [List.mem_singleton.mp hx]
    rfl
  | closed q read =>
    rw [List.mem_singleton.mp hx]
    rfl

/-- **One character of the text** ends no placeholder, and the regions go on with what is being read. -/
theorem Reads.push (hreads : r.Reads p) {c : Char} (h : r.char c = some next) :
    next.Reads (p.push c).2 ∧ ∀ x ∈ (p.push c).1, x.name? = none := by
  cases hreads with
  | plain => exact reads_start h
  | named =>
    rw [char] at h
    split at h
    · cases h
    · exact reads_start h
  | quoted q read =>
    cases h
    rw [Pending.push]
    refine ⟨?_, fun x hx => absurd hx List.not_mem_nil⟩
    by_cases hc : c = q.val
    · rw [if_pos hc, if_pos hc]
      exact .closed q read
    · rw [if_neg hc, if_neg hc]
      exact .quoted q (c :: read)
  | closed q read =>
    rw [char] at h
    rw [Pending.push]
    by_cases hc : c = q.val
    · rw [if_pos hc] at h ⊢
      cases h
      exact ⟨.quoted q _, fun x hx => absurd hx List.not_mem_nil⟩
    · rw [if_neg hc] at h ⊢
      obtain ⟨hnext, hnames⟩ := reads_start h
      refine ⟨hnext, fun x hx => ?_⟩
      rcases List.mem_append.mp hx with hflush | hstart
      · exact (Reads.closed q read).nameless_flush x hflush
      · exact hnames x hstart

end Region

namespace Template

/-- **The lexemes with names and with literals.** With names, the placeholders are the names of the slots,
    in order. With literals there are the same lexemes, but for those of a literal in the place of each
    placeholder. -/
theorem splitFrom_assemble (valueOf : String → Value) (ps : Params) {t : Template} {r last : Region}
    {p : Pending} (hreads : r.Reads p) (h : t.foldlM Region.read r = some last)
    (htables : ∀ s ∈ slots t, startsWithDigit s.table = false) :
    (splitFrom p (assemble ps t).1).filterMap Lexeme.name? = slotNames ps t ∧
      splitFrom p (weave (pieces t) ((slotNames ps t).map fun name => (valueOf name).literal)) =
        (splitFrom p (assemble ps t).1).flatMap (Lexeme.expanded valueOf) := by
  -- the regions run along with what is being read, in the text with names and in the one with literals
  induction t generalizing ps r p with
  | nil =>
    have hflush := hreads.nameless_flush
    have hnil : weave (pieces []) ((slotNames ps []).map fun name => (valueOf name).literal) = [] := rfl
    rw [hnil]
    show p.flush.filterMap Lexeme.name? = [] ∧ p.flush = p.flush.flatMap (Lexeme.expanded valueOf)
    exact ⟨filterMap_name?_of_nameless hflush, (flatMap_expanded_of_nameless valueOf hflush).symm⟩
  | cons a t ih =>
    rw [List.foldlM_cons] at h
    obtain ⟨next, hnext, hrest⟩ := Option.bind_eq_some_iff.mp h
    rw [assemble_cons]
    cases a with
    | char c =>
      obtain ⟨hreads', hnames⟩ := hreads.push hnext
      obtain ⟨htokens, hlexemes⟩ := ih ps hreads' hrest htables
      rw [place_char, List.singleton_append, slotNames]
      show ((p.push c).1 ++ splitFrom (p.push c).2 (assemble ps t).1).filterMap Lexeme.name? = _ ∧
        (p.push c).1 ++ splitFrom (p.push c).2 (weave (pieces t) _) = List.flatMap _ (_ ++ _)
      rw [List.filterMap_append, filterMap_name?_of_nameless hnames, htokens, List.flatMap_append,
        flatMap_expanded_of_nameless valueOf hnames, hlexemes]
      exact ⟨rfl, rfl⟩
    | slot table column v =>
      obtain ⟨rfl, rfl⟩ := Region.eq_of_read_slot hnext
      cases hreads
      have hslots : ∀ s ∈ slots t, startsWithDigit s.table = false :=
        fun s hs => htables s (by rw [slots_slot]; exact List.mem_cons_of_mem _ hs)
      have htoken : IsToken (ps.bind table column v).1 :=
        isToken_bind ps (htables ⟨table, column, v⟩ (by simp)) column v
      obtain ⟨htokens, hlexemes⟩ := ih (ps.bind table column v).2 .named hrest hslots
      obtain ⟨x, hname, htext, hends⟩ := htoken.exists_lexeme
      have hhead := head_of_named (slotNames (ps.bind table column v).2 t) hrest
      rw [← assemble_fst_eq_weave] at hhead
      have hnamed : split ((ps.bind table column v).1.toList ++ (assemble (ps.bind table column v).2 t).1) =
          x :: split (assemble (ps.bind table column v).2 t).1 := by
        rw [htext]
        exact split_append (hends _ fun c hc => (hhead c hc).1)
      have hshown := (valueOf (ps.bind table column v).1).standsAlone_literal.apart
        (weave (pieces t) ((slotNames (ps.bind table column v).2 t).map fun n => (valueOf n).literal))
        fun c hc => (head_of_named _ hrest c hc).2
      rw [place_slot, slotNames, List.map_cons, pieces, weave_gap]
      show (split _).filterMap Lexeme.name? = _ ∧ split _ = (split _).flatMap _
      rw [hnamed, hshown, List.filterMap_cons_some hname, List.flatMap_cons, Lexeme.expanded, hname]
      exact ⟨congrArg (_ :: ·) htokens, congrArg (_ ++ ·) hlexemes⟩
    | given params => cases r <;> cases hnext

end Template

/-! ## Statements -/

/-- The value of a name in finished parameters. -/
def Built.valueOf (b : Built) (name : String) : Value :=
  (b.params.get? name).getD .null

/-- Every parameter is found under its name, and under no other. -/
theorem Params.get?_of_mem {ps : Params} (h : ps.names.Nodup) {name : String} (hname : IsToken name)
    {value : Value} (hmem : (name, value) ∈ ps.entries) : ps.get? name = some value := by
  obtain ⟨c, word, hlist, -⟩ := hname
  have hfound : ps.get? name = OrderedMap.lookup name ps.entries := by
    rw [Params.get?, Params.colonName_of_cons hlist]
    rfl
  rw [hfound]
  exact OrderedMap.lookup_of_mem h hmem

theorem Placeholder.isToken_of_mem_tokens {sql name : String} (h : name ∈ tokens sql) : IsToken name := by
  obtain ⟨x, -, hname⟩ := List.mem_filterMap.mp h
  exact (x.isToken_of_name? hname).1

/-- A text without placeholders is left as it is, whatever is asked. -/
theorem Placeholder.replaceM_of_tokens_eq_nil {m : Type → Type} [Monad m] [LawfulMonad m]
    (f : String → m (Option String)) {sql : String} (h : tokens sql = []) :
    replaceM f sql = pure sql := by
  have hpieces : weave (gaps (split sql.toList)) [] = sql.toList := by
    have hweave := weave_gaps (split sql.toList)
    rw [flatten_split] at hweave
    exact (congrArg (weave _) h.symm).trans hweave
  rw [replaceM_tokens, h, List.mapM_nil, map_pure, hpieces, String.ofList_toList]

/-- **The text with literals of a finished template** has the literal of its own value in each gap. -/
theorem Built.rawSql_ofTemplate {t : Template} (h : Leads Region.IsPlain t Region.IsOuter)
    (htables : ∀ s ∈ slots t, startsWithDigit s.table = false)
    (hfound : ∀ e ∈ (Built.ofTemplate t).params.entries,
      (Built.ofTemplate t).params.get? e.1 = some e.2) :
    (Built.ofTemplate t).rawSql.toList =
      weave (pieces t) ((slotNames .empty t).map fun name => ((Built.ofTemplate t).valueOf name).literal) := by
  let built : Built := Built.ofTemplate t
  let shown (name : String) : Option String := (built.params.get? name).map Value.literal
  have hnames : built.params.names = slotNames .empty t := (Built.params_ofTemplate h.isBare).1
  have hraw : built.rawSql =
      String.ofList (weave (pieces t) ((slotNames .empty t).map fun name => (shown name).getD name)) := by
    have hscan := Built.replaceM_ofTemplate (m := Id) (fun name => pure (shown name)) h htables
    have hwritten : written (m := Id) (fun name => pure (shown name)) =
        fun name => pure ((shown name).getD name) := rfl
    rw [hwritten, List.mapM_pure] at hscan
    exact hscan
  show built.rawSql.toList = _
  rw [hraw, String.toList_ofList]
  refine congrArg (weave (pieces t)) (List.map_congr_left fun name hname => ?_)
  rw [← hnames] at hname
  obtain ⟨e, he, rfl⟩ := List.mem_map.mp hname
  have hvalue : built.params.get? e.1 = some e.2 := hfound e he
  show ((built.params.get? e.1).map Value.literal).getD e.1 = ((built.params.get? e.1).getD .null).literal
  rw [hvalue]
  rfl

/-- **The text with literals**, for a statement without raw SQL whose operands are on tables that do not
    begin with a digit. The text of the statement is pieces with one name in each gap, the names are its
    placeholders, and the text with literals is the same pieces with the literal of the name's own value
    in each gap. Read as lexemes, it differs from the text of the statement in the lexemes of these
    literals only; the literal of a text is a single one, with the text as its contents. No placeholder
    is left, so that nothing is replaced in it again. -/
theorem Statement.rawSql_build (st : Style) (s : Statement) (h : s.isRawFree = true)
    (htables : ∀ o ∈ s.operands, startsWithDigit o.table = false) :
    let built := s.build st
    let values := s.operands.map Slot.value
    built.params.entries = built.params.names.zip values ∧
      built.params.names.length = values.length ∧
      (pieces (s.template st)).2.length = values.length ∧
      (∀ e ∈ built.params.entries, built.params.get? e.1 = some e.2) ∧
      tokens built.sql = built.params.names ∧
      built.sql.toList = weave (pieces (s.template st)) built.params.names ∧
      built.rawSql.toList = weave (pieces (s.template st)) (values.map Value.literal) ∧
      split built.rawSql.toList = (split built.sql.toList).flatMap (Lexeme.expanded built.valueOf) ∧
      (∀ text : String, split (Value.text text).literal.toList = [.quoted textQuote text.toList true]) ∧
      tokens built.rawSql = [] ∧
      ∀ {m : Type → Type} [Monad m] [LawfulMonad m] (f : String → m (Option String)),
        replaceM f built.rawSql = pure built.rawSql := by
  intro built values
  have hlead := Statement.leads_template st h
  obtain ⟨last, hlast, -⟩ := hlead .plain rfl
  have hslots : slots (s.template st) = s.operands := Statement.slots_template st s
  obtain ⟨hnames, hvalues⟩ := Built.params_ofTemplate hlead.isBare
  have htables' : ∀ o ∈ slots (s.template st), startsWithDigit o.table = false := hslots ▸ htables
  have hsql : built.sql.toList = (assemble .empty (s.template st)).1 := String.toList_ofList
  obtain ⟨htokens, hlexemes⟩ :=
    splitFrom_assemble built.valueOf .empty .plain hlast htables'
  rw [hslots] at hvalues
  have hlength : built.params.names.length = values.length := by
    show (Built.ofTemplate (s.template st)).params.names.length = _
    rw [hnames, length_slotNames, hslots]
    exact (List.length_map _).symm
  have hread : tokens built.sql = built.params.names := by
    rw [tokens, hsql]
    exact htokens.trans hnames.symm
  have hnodup : built.params.names.Nodup := by
    show (Built.ofTemplate (s.template st)).params.names.Nodup
    rw [hnames]
    exact (slotNames_fresh .empty _).1
  have hfound : ∀ e ∈ built.params.entries, built.params.get? e.1 = some e.2 := by
    intro e he
    have hmem : e.1 ∈ tokens built.sql := hread ▸ List.mem_map_of_mem he
    exact Params.get?_of_mem hnodup (isToken_of_mem_tokens hmem) he
  have hentries : built.params.entries = built.params.names.zip values := by
    show built.params.entries = (built.params.entries.map Prod.fst).zip (s.operands.map Slot.value)
    rw [← hvalues]
    exact List.zip_of_prod rfl rfl
  have hraw := Built.rawSql_ofTemplate hlead htables' hfound
  have hliterals : (slotNames .empty (s.template st)).map (fun name => (built.valueOf name).literal) =
      values.map Value.literal := by
    rw [← hnames]
    show (built.params.entries.map Prod.fst).map _ = (s.operands.map Slot.value).map Value.literal
    rw [← hvalues]
    show _ = (built.params.entries.map Prod.snd).map Value.literal
    rw [List.map_map, List.map_map]
    refine List.map_congr_left fun e he => ?_
    show ((built.params.get? e.1).getD .null).literal = e.2.literal
    rw [hfound e he]
    rfl
  have hsplit : split built.rawSql.toList =
      (split built.sql.toList).flatMap (Lexeme.expanded built.valueOf) := by
    rw [hsql]
    exact (congrArg split hraw).trans hlexemes
  have hnone : tokens built.rawSql = [] := by
    rw [tokens, hsplit]
    refine filterMap_name?_of_nameless fun y hy => ?_
    obtain ⟨x, -, hx⟩ := List.mem_flatMap.mp hy
    exact Lexeme.name?_of_mem_expanded hx
  refine ⟨hentries, hlength, ?_, hfound, hread, ?_, ?_, hsplit, split_literal_text, hnone, ?_⟩
  · rw [length_pieces, hslots]
    exact (List.length_map _).symm
  · rw [hsql, assemble_fst_eq_weave, ← hnames]
    rfl
  · rw [← hliterals]
    exact hraw
  · exact fun f => replaceM_of_tokens_eq_nil f hnone

/-- A text that closes its quotes and names another parameter, and names that begin alike. -/
def Statement.hostileTexts : Statement :=
  .select (Select.ofSteps [
    .target "t",
    .filter (.compare .and (.name "a") .equal (.text "' OR :t_x_1 = '' --")),
    .filter (.among .and (.name "x")
      (((List.range 9).map fun n => Value.text (":t_x_" ++ toString n)) ++ [.blob [39, 58], .int (-5)])
      true)])

theorem Statement.hostileTexts_kept :
    hostileTexts.isRawFree = true ∧
      (∀ o ∈ hostileTexts.operands, startsWithDigit o.table = false) ∧
      (hostileTexts.build { dialect := .mysql }).rawSql =
        "SELECT * FROM \x60t\x60 WHERE \x60a\x60 = ''' OR :t_x_1 = '''' --' AND \x60x\x60 IN"
          ++ " (':t_x_0', ':t_x_1', ':t_x_2', ':t_x_3', ':t_x_4', ':t_x_5', ':t_x_6', ':t_x_7',"
          ++ " ':t_x_8', X'273A', -5)" ∧
      tokens (hostileTexts.build { dialect := .mysql }).rawSql = [] := by
  have hraw : hostileTexts.isRawFree = true := rfl
  have htables : ∀ o ∈ hostileTexts.operands, startsWithDigit o.table = false := by
    decide
  obtain ⟨-, -, -, -, -, -, hshown, -, -, hnone, -⟩ :=
    rawSql_build { dialect := .mysql } hostileTexts hraw htables
  refine ⟨hraw, htables, ?_, hnone⟩
  apply String.toList_inj.mp
  rw [hshown]
  decide +kernel

end FluentSql
