import FluentSql.Placeholder
import FluentSql.Proofs.Assembly
/-!
# `FluentSql.Proofs.Scanning` — a scanner finds the slots of a template

A scanner of finished text has to find the placeholders that stand for the slots, and nothing else.
Which templates it reads rightly does not depend on the names of the slots: an automaton over
**regions** reads a template before it is assembled. `Leads p t q` says that the automaton gets
through `t` from each region in `p` and ends in one in `q`; such triples compose.

* `Leads.append` and its siblings — templates part by part;
* `Leads.squeeze` — squeezing blanks closes no quote and opens none;
* `replaceFrom_assemble` — the scanner asks for the name of each slot, in order, and for nothing else.
-/

namespace FluentSql

open FluentSql.Text Template

/-! ## Regions -/

/-- **A quote character.** -/
abbrev Quote := { c : Char // Placeholder.isQuote c = true }

/-- **Where in a text one is.** -/
inductive Region where
  /-- Outside of quotes. -/
  | plain
  /-- Behind a placeholder. -/
  | named
  /-- Inside quotes. -/
  | quoted (q : Quote)
  /-- Behind a quote that closes a region unless it is doubled. -/
  | closed (q : Quote)

namespace Region

/-- A character outside of quotes. A colon may begin a placeholder and is refused. -/
def outside (c : Char) : Option Region :=
  if h : Placeholder.isQuote c = true then some (.quoted ⟨c, h⟩)
  else if c = ':' then none
  else some .plain

/-- **A character of the text.** Behind a placeholder, one that would go on with its name is refused,
    and so is a quote, which would go on with a text literal in its place. -/
def char : Region → Char → Option Region
  | .plain, c => outside c
  | .named, c => if Placeholder.isNameChar c || Placeholder.isQuote c then none else outside c
  | .quoted q, c => some (if c = q.val then .closed q else .quoted q)
  | .closed q, c => if c = q.val then some (.quoted q) else outside c

/-- **A symbol of a template.** A slot has its place outside of quotes, with no quote and no other
    placeholder right before it; and parameters of a caller may stand for any text. -/
def read : Region → Symbol → Option Region
  | r, .char c => r.char c
  | .plain, .slot _ _ _ => some .named
  | _, .slot _ _ _ => none
  | _, .given _ => none

theorem eq_of_read_slot {r next : Region} {table column : String} {v : Value}
    (h : r.read (.slot table column v) = some next) : r = .plain ∧ next = .named := by
  cases r with
  | plain => exact ⟨rfl, (Option.some.inj h).symm⟩
  | named => cases h
  | quoted q => cases h
  | closed q => cases h

/-- Outside of quotes, with nothing right before. -/
def IsPlain (r : Region) : Prop := r = .plain

/-- Outside of quotes. -/
def IsOuter : Region → Prop
  | .quoted _ => False
  | _ => True

theorem isOuter_of_isPlain {r : Region} (h : r.IsPlain) : r.IsOuter := by
  rw [h]
  trivial

end Region

namespace Template

/-- **From each region in `p`** the template is read to its end, which is a region in `q`. -/
def Leads (p : Region → Prop) (t : Template) (q : Region → Prop) : Prop :=
  ∀ r, p r → ∃ r', t.foldlM Region.read r = some r' ∧ q r'

open Region (IsPlain IsOuter)

variable {p q r : Region → Prop} {s t : Template}

/-! ## Part after part -/

theorem Leads.nil (p : Region → Prop) : Leads p [] p := fun r hr => ⟨r, rfl, hr⟩

/-- **One part after the other.** -/
theorem Leads.append (hs : Leads p s q) (ht : Leads q t r) : Leads p (s ++ t) r := by
  intro a ha
  obtain ⟨b, hb, hqb⟩ := hs a ha
  obtain ⟨c, hc, hrc⟩ := ht b hqb
  refine ⟨c, ?_, hrc⟩
  rw [List.foldlM_append, hb]
  exact hc

/-- A template that ends with nothing right before may as well end with something. -/
theorem Leads.outer (h : Leads p t IsPlain) : Leads p t IsOuter := by
  intro a ha
  obtain ⟨b, hb, hplain⟩ := h a ha
  exact ⟨b, hb, Region.isOuter_of_isPlain hplain⟩

/-- A template that may follow anything may follow nothing. -/
theorem Leads.plain (h : Leads IsOuter t q) : Leads IsPlain t q :=
  fun a ha => h a (Region.isOuter_of_isPlain ha)

theorem leads_slot (table column : String) (v : Value) :
    Leads IsPlain [.slot table column v] IsOuter := by
  intro a ha
  rw [ha]
  exact ⟨.named, rfl, trivial⟩

/-! ## Plain text -/

/-- Characters that neither open quotes nor begin a placeholder. -/
def isInertChar (c : Char) : Bool := !Placeholder.isQuote c && c != ':'

/-- **Inert text** holds no quote and no colon. -/
def isInert (s : String) : Bool := s.toList.all isInertChar

/-- **A separator** is inert and begins with a character that goes on with no placeholder. -/
def isSeparator (s : String) : Bool :=
  isInert s && (s.toList.head?.any fun c => !Placeholder.isNameChar c)

theorem outside_of_isInertChar {c : Char} (h : isInertChar c = true) :
    Region.outside c = some .plain := by
  rw [isInertChar, Bool.and_eq_true, Bool.not_eq_true', bne_iff_ne] at h
  rw [Region.outside, dif_neg (by rw [h.1]; decide), if_neg h.2]

/-- A character that ends a placeholder is read the same from each region outside of quotes. -/
theorem char_of_isInertChar {c : Char} (h : isInertChar c = true)
    (hname : Placeholder.isNameChar c = false) {a : Region} (ha : a.IsOuter) :
    a.char c = some .plain := by
  cases a with
  | quoted q => exact ha.elim
  | plain => exact outside_of_isInertChar h
  | named =>
    have hquote : Placeholder.isQuote c = false := by
      rw [isInertChar, Bool.and_eq_true, Bool.not_eq_true'] at h
      exact h.1
    rw [Region.char, hname, hquote]
    exact outside_of_isInertChar h
  | closed q =>
    have hne : c ≠ q.val := by
      rintro rfl
      rw [isInertChar, q.property] at h
      cases h
    simp only [Region.char, if_neg hne]
    exact outside_of_isInertChar h

theorem text_append (a b : String) : text (a ++ b) = text a ++ text b := by
  simp [text]

theorem leads_char {c : Char} (h : ∀ a, p a → ∃ b, a.char c = some b ∧ q b) :
    Leads p [.char c] q := by
  intro a ha
  obtain ⟨b, hb, hq⟩ := h a ha
  refine ⟨b, ?_, hq⟩
  show (a.char c >>= fun b => some b) = some b
  rw [hb]
  rfl

theorem leads_inertChars {cs : List Char} (h : ∀ c ∈ cs, isInertChar c = true) :
    Leads IsPlain (cs.map .char) IsPlain := by
  induction cs with
  | nil => exact Leads.nil _
  | cons c cs ih =>
    have hfirst : Leads IsPlain [.char c] IsPlain := by
      refine leads_char fun a ha => ⟨.plain, ?_, rfl⟩
      rw [ha]
      exact outside_of_isInertChar (h c (by simp))
    exact hfirst.append (ih fun d hd => h d (List.mem_cons_of_mem c hd))

/-- Inert text after nothing. -/
theorem leads_inert {s : String} (h : isInert s = true) : Leads IsPlain (text s) IsPlain :=
  leads_inertChars (List.all_eq_true.mp h)

/-- **A separator** after anything. -/
theorem leads_separator {s : String} (h : isSeparator s = true) :
    Leads IsOuter (text s) IsPlain := by
  obtain ⟨hinert, hhead⟩ := Bool.and_eq_true_iff.mp h
  have hall : ∀ c ∈ s.toList, isInertChar c = true := List.all_eq_true.mp hinert
  rw [text]
  cases hs : s.toList with
  | nil =>
    rw [hs] at hhead
    cases hhead
  | cons c cs =>
    rw [hs] at hhead hall
    have hname : Placeholder.isNameChar c = false := by simpa using hhead
    have hfirst : Leads IsOuter [.char c] IsPlain :=
      leads_char fun a ha => ⟨.plain, char_of_isInertChar (hall c (by simp)) hname ha, rfl⟩
    exact hfirst.append (leads_inertChars fun d hd => hall d (List.mem_cons_of_mem c hd))

/-! ## Templates put together -/

/-- A part between two others. -/
theorem leads_joined {sep : String} (hsep : isSeparator sep = true) {ts : List Template}
    (hts : ∀ t ∈ ts, Leads IsPlain t IsOuter) : Leads IsPlain (joined sep ts) IsOuter := by
  induction ts with
  | nil => exact (Leads.nil _).outer
  | cons t ts ih =>
    have ht : Leads IsPlain t IsOuter := hts t (by simp)
    cases ts with
    | nil => exact ht
    | cons u us =>
      have hrest : Leads IsPlain (joined sep (u :: us)) IsOuter :=
        ih fun v hv => hts v (List.mem_cons_of_mem t hv)
      exact (ht.append (leads_separator hsep)).append hrest

/-- Texts between which a separator stands. -/
theorem text_intercalate (sep : String) (items : List String) :
    text (sep.intercalate items) = joined sep (items.map text) := by
  induction items with
  | nil => rfl
  | cons a items ih =>
    cases items with
    | nil => rfl
    | cons b items =>
      rw [String.intercalate_cons_cons, text_append, text_append, ih]
      rfl

theorem leads_intercalate {sep : String} (hsep : isSeparator sep = true) {items : List String}
    (hitems : ∀ s ∈ items, Leads IsPlain (text s) IsOuter) :
    Leads IsPlain (text (sep.intercalate items)) IsOuter := by
  rw [text_intercalate]
  refine leads_joined hsep fun t ht => ?_
  obtain ⟨s, hs, rfl⟩ := List.mem_map.mp ht
  exact hitems s hs

theorem Leads.headed {body : Template} (h : Leads IsPlain body IsOuter) {keyword : String}
    (hk : isInert (keyword ++ " ") = true) : Leads IsPlain (headed keyword body) IsOuter := by
  unfold FluentSql.headed
  split
  · exact h
  · exact (leads_inert hk).append h

theorem Leads.enclosed {body : Template} (h : Leads IsPlain body IsOuter) {opening : String}
    (ho : isInert opening = true) : Leads IsPlain (enclosed opening body) IsOuter := by
  unfold FluentSql.enclosed
  split
  · exact h
  · exact (((leads_inert ho).append h).append (leads_separator (by decide))).outer

/-- What is read and shows nothing is nothing. -/
theorem Leads.eq_nil (h : Leads IsPlain t q) (hempty : t.isEmpty = true) : t = [] := by
  obtain ⟨b, hb, -⟩ := h .plain rfl
  cases t with
  | nil => rfl
  | cons a t =>
    have ha : (!a.isVisible) = true := List.all_eq_true.mp hempty a (by simp)
    cases a with
    | char c => cases ha
    | slot _ _ _ => cases ha
    | given params => cases hb

/-! ## Quoted identifiers -/

/-- A doubled text stays inside its quotes, whatever it holds. -/
theorem leads_doubled (q : Quote) (cs : List Char) :
    Leads (· = .quoted q) ((doubled q.val cs).map .char) (· = .quoted q) := by
  induction cs with
  | nil => exact Leads.nil _
  | cons c cs ih =>
    by_cases hc : c = q.val
    · have hclose : Leads (· = .quoted q) [.char q.val] (· = .closed q) :=
        leads_char fun a ha => ⟨.closed q, by rw [ha, Region.char, if_pos rfl], rfl⟩
      have hopen : Leads (· = .closed q) [.char q.val] (· = .quoted q) :=
        leads_char fun a ha => ⟨.quoted q, by rw [ha, Region.char, if_pos rfl], rfl⟩
      rw [doubled, if_pos hc]
      exact hclose.append (hopen.append ih)
    · have hinside : Leads (· = .quoted q) [.char c] (· = .quoted q) :=
        leads_char fun a ha => ⟨.quoted q, by rw [ha, Region.char, if_neg hc], rfl⟩
      rw [doubled, if_neg hc]
      exact hinside.append ih

/-- **A text in quotes** ends where it was meant to end. -/
theorem leads_wrap (q : Quote) (cs : List Char) :
    Leads IsPlain ((wrap q.val cs).map .char) IsOuter := by
  have hopen : Leads IsPlain [.char q.val] (· = .quoted q) := by
    refine leads_char fun a ha => ⟨.quoted q, ?_, rfl⟩
    rw [ha, Region.char, Region.outside, dif_pos q.property]
  have hclose : Leads (· = .quoted q) [.char q.val] IsOuter :=
    leads_char fun a ha => ⟨.closed q, by rw [ha, Region.char, if_pos rfl], trivial⟩
  rw [wrap, List.cons_append, List.map_cons, List.map_append]
  exact hopen.append ((leads_doubled q cs).append hclose)

theorem isQuote_quoteChar (d : Dialect) : Placeholder.isQuote d.quoteChar = true := by
  cases d <;> rfl

theorem leads_quoteChars (d : Dialect) (cs : List Char) :
    Leads IsPlain ((d.quoteChars cs).map .char) IsOuter := by
  cases cs with
  | nil => exact (Leads.nil _).outer
  | cons c cs => exact leads_wrap ⟨d.quoteChar, isQuote_quoteChar d⟩ (c :: cs)

theorem leads_quoteIdent (st : Style) (ident : String) :
    Leads IsPlain (text (st.quoteIdent ident)) IsOuter := by
  rw [text, Style.quoteIdent, Dialect.quoteIdent, String.toList_ofList]
  exact leads_quoteChars st.dialect ident.toList

theorem leads_quoteSegment (d : Dialect) (segment : List Char) :
    Leads IsPlain ((d.quoteSegment segment).map .char) IsOuter := by
  unfold Dialect.quoteSegment
  split
  · rename_i hstar
    rw [hstar]
    refine (leads_inertChars fun c hc => ?_).outer
    rw [List.mem_singleton.mp hc]
    decide
  · exact leads_quoteChars d segment

theorem leads_joinWith {sep : Char} (hsep : isInertChar sep = true)
    (hname : Placeholder.isNameChar sep = false) {segments : List (List Char)}
    (h : ∀ cs ∈ segments, Leads IsPlain (cs.map .char) IsOuter) :
    Leads IsPlain ((joinWith sep segments).map .char) IsOuter := by
  induction segments with
  | nil => exact (Leads.nil _).outer
  | cons cs segments ih =>
    have hcs : Leads IsPlain (cs.map .char) IsOuter := h cs (by simp)
    cases segments with
    | nil => exact hcs
    | cons ds segments =>
      have hrest := ih fun es hes => h es (List.mem_cons_of_mem cs hes)
      have hbetween : Leads IsOuter [.char sep] IsPlain :=
        leads_char fun a ha => ⟨.plain, char_of_isInertChar hsep hname ha, rfl⟩
      rw [joinWith_cons_of_ne_nil sep cs (List.cons_ne_nil ds segments), List.map_append]
      exact hcs.append (hbetween.append hrest)

/-- **A quoted identifier**, whatever quotes, colons and blanks it holds. -/
theorem leads_quote (st : Style) (ident : String) :
    Leads IsPlain (text (st.quote ident)) IsOuter := by
  rw [text, Style.quote, Dialect.quote, String.toList_ofList]
  refine leads_joinWith (by decide) (by decide) fun cs hcs => ?_
  obtain ⟨segment, -, rfl⟩ := List.mem_map.mp hcs
  exact leads_quoteSegment st.dialect segment

end Template

/-! ## Squeezing -/

namespace Region

/-- The region behind some blanks. -/
def blanked : Region → Region
  | .quoted q => .quoted q
  | _ => .plain

theorem blanked_blanked (r : Region) : r.blanked.blanked = r.blanked := by
  cases r <;> rfl

theorem isOuter_blanked (r : Region) : r.blanked.IsOuter ↔ r.IsOuter := by
  cases r <;> rfl

/-- No blank is a quote. -/
theorem isBlank_of_isQuote {c : Char} (h : Placeholder.isQuote c = true) : isBlank c = false := by
  simp only [Placeholder.isQuote, Bool.or_eq_true, beq_iff_eq] at h
  rcases h with (rfl | rfl) | rfl <;> decide

/-- Every blank leads to the same region. -/
theorem char_of_isBlank (r : Region) {c : Char} (hc : isBlank c = true) :
    r.char c = some r.blanked := by
  have hquote : Placeholder.isQuote c = false := by
    cases h : Placeholder.isQuote c with
    | false => rfl
    | true => exact absurd (isBlank_of_isQuote h) (by simp [hc])
  have hcolon : c ≠ ':' := by
    rintro rfl
    revert hc
    decide
  have hname : Placeholder.isNameChar c = false := by
    cases h : Placeholder.isNameChar c with
    | false => rfl
    | true =>
      have hsolid := charLook_of_isNameChar h
      rw [charLook, if_pos hc] at hsolid
      cases hsolid
  have hinert : isInertChar c = true := by
    rw [isInertChar, hquote, Bool.not_false, Bool.true_and, bne_iff_ne]
    exact hcolon
  cases r with
  | quoted q =>
    have hne : c ≠ q.val := by
      rintro rfl
      rw [q.property] at hquote
      cases hquote
    rw [char, if_neg hne]
    rfl
  | plain => exact char_of_isInertChar hinert hname trivial
  | named => exact char_of_isInertChar hinert hname trivial
  | closed q => exact char_of_isInertChar hinert hname trivial

/-- **Squeezing follows a template.** The squeezed part is behind in the blanks that are pending, and
    has nothing to be behind in before the first solid symbol. -/
theorem foldlM_squeeze {started pending : Bool} {r ahead : Region}
    (hahead : ahead = if pending then r.blanked else r) (hstart : started = false → r = .plain)
    {t : Template} {last : Region} (h : t.foldlM read ahead = some last) :
    ∃ last', (Text.squeeze Symbol.look (.char ' ') started pending t).foldlM read r = some last' ∧
      (last.IsOuter → last'.IsOuter) := by
  induction t generalizing started pending r ahead with
  | nil =>
    cases h
    refine ⟨r, rfl, fun houter => ?_⟩
    rw [hahead] at houter
    split at houter
    · exact (isOuter_blanked r).mp houter
    · exact houter
  | cons a t ih =>
    rw [List.foldlM_cons] at h
    obtain ⟨next, hnext, hrest⟩ := Option.bind_eq_some_iff.mp h
    cases hlook : a.look with
    | invisible =>
      cases a with
      | char c =>
        simp only [Symbol.look, charLook] at hlook
        split at hlook <;> cases hlook
      | slot _ _ _ => cases hlook
      | given params => cases ahead <;> cases hnext
    | blank =>
      have hnext' : next = r.blanked := by
        cases a with
        | char c =>
          have hblank : isBlank c = true := by
            simp only [Symbol.look, charLook] at hlook
            split at hlook
            · assumption
            · cases hlook
          have hread : some ahead.blanked = some next :=
            (char_of_isBlank ahead hblank).symm.trans hnext
          rw [← Option.some.inj hread, hahead]
          split
          · exact blanked_blanked r
          · rfl
        | slot _ _ _ => cases hlook
        | given params => cases hlook
      rw [squeeze_cons_blank hlook]
      exact ih hnext' hstart hrest
    | solid =>
      rw [squeeze_cons_solid hlook]
      have hstarted : true = false → next = .plain := fun h => absurd h (by decide)
      obtain ⟨last', hlast, houter⟩ := @ih true false next next rfl hstarted hrest
      refine ⟨last', ?_, houter⟩
      by_cases hspace : (started && pending) = true
      · obtain ⟨-, rfl⟩ := Bool.and_eq_true_iff.mp hspace
        have hblank : r.read (.char ' ') = some ahead := by
          rw [hahead, if_pos rfl]
          exact char_of_isBlank r isBlank_space
        rw [if_pos hspace, List.singleton_append, List.foldlM_cons, hblank, Option.bind_eq_bind,
          Option.bind_some, List.foldlM_cons, hnext]
        exact hlast
      · have hr : r = ahead := by
          rw [hahead]
          cases pending with
          | false => rfl
          | true =>
            cases started with
            | false => rw [hstart rfl]; rfl
            | true => exact absurd rfl hspace
        rw [if_neg hspace, List.nil_append, List.foldlM_cons, hr, hnext]
        exact hlast

end Region

open Region (IsPlain IsOuter) in
/-- **Squeezing** opens no quotes and closes none. -/
theorem Template.Leads.squeeze {t : Template} (h : Leads IsPlain t IsOuter) :
    Leads IsPlain t.squeeze IsOuter := by
  intro r hr
  obtain ⟨last, hlast, houter⟩ := h r hr
  obtain ⟨last', hlast', hlast''⟩ :=
    @Region.foldlM_squeeze false false r r rfl (fun _ => hr) t last hlast
  exact ⟨last', hlast', hlast'' houter⟩

/-! ## The scanner -/

/-- What is open in a region; behind a placeholder nothing is. -/
def Region.scan : Region → Placeholder.Scan
  | .plain | .named => .plain
  | .quoted q => .quoted q.val
  | .closed q => .closing q.val

namespace Placeholder

variable {m : Type → Type} [Monad m]

/-- What is written for a placeholder: the answer, or itself. -/
def written (f : String → m (Option String)) (token : String) : m String := do
  let answer ← f token
  pure (answer.getD token)

/-- **A text that is one placeholder.** -/
def IsToken (name : String) : Prop :=
  ∃ c word, name.toList = ':' :: c :: word ∧ isNameStart c = true ∧
    ∀ d ∈ word, isNameChar d = true

theorem fresh_of_outside {c : Char} {next : Region} (h : Region.outside c = some next) :
    fresh c = ([c], next.scan) := by
  unfold Region.outside at h
  unfold fresh
  split at h
  · rename_i hquote
    rw [if_pos hquote]
    cases h
    rfl
  · rename_i hquote
    split at h
    · cases h
    · rename_i hcolon
      rw [if_neg hquote, if_neg (by simpa using hcolon)]
      cases h
      rfl

/-- **A character that is read** is written as it is. -/
theorem step_of_char (f : String → m (Option String)) {r next : Region} {c : Char}
    (h : r.char c = some next) : step f r.scan c = pure ([c], next.scan) := by
  cases r with
  | plain => exact congrArg pure (fresh_of_outside h)
  | named =>
    rw [Region.char] at h
    split at h
    · cases h
    · exact congrArg pure (fresh_of_outside h)
  | quoted q =>
    cases h
    by_cases hc : c = q.val
    · simp [Region.scan, step, hc]
    · simp [Region.scan, step, hc]
  | closed q =>
    rw [Region.char] at h
    by_cases hc : c = q.val
    · rw [if_pos hc] at h
      cases h
      simp [Region.scan, step, hc]
    · rw [if_neg hc] at h
      simp [Region.scan, step, hc, fresh_of_outside h]

variable [LawfulMonad m]

theorem replaceFrom_cons (f : String → m (Option String)) {s next : Scan} {c : Char}
    {out : List Char} (h : step f s c = pure (out, next)) (cs : List Char) :
    replaceFrom f s (c :: cs) = (out ++ ·) <$> replaceFrom f next cs := by
  rw [replaceFrom, h, pure_bind]
  exact (map_eq_pure_bind _ _).symm

/-- A placeholder is read to its end. -/
theorem replaceFrom_word (f : String → m (Option String)) (read : List Char) {word : List Char}
    (hword : ∀ c ∈ word, isNameChar c = true) (rest : List Char) :
    replaceFrom f (.token read) (word ++ rest) =
      replaceFrom f (.token (word.reverse ++ read)) rest := by
  induction word generalizing read with
  | nil => rfl
  | cons c word ih =>
    have hc : isNameChar c = true := hword c (by simp)
    have hstep : step f (.token read) c = pure ([], .token (c :: read)) := by
      simp [step, hc]
    rw [List.cons_append, replaceFrom_cons f hstep,
      ih (c :: read) fun d hd => hword d (List.mem_cons_of_mem c hd), List.reverse_cons,
      List.append_assoc, List.singleton_append]
    exact id_map _

/-- A placeholder ends where no name character follows, and the rest is read as if it stood alone. -/
theorem replaceFrom_token (f : String → m (Option String)) (read : List Char) {rest : List Char}
    (hrest : ∀ c ∈ rest.head?, isNameChar c = false) :
    replaceFrom f (.token read) rest =
      finish f read >>= fun name => (name ++ ·) <$> replaceFrom f .plain rest := by
  cases rest with
  | nil => simp [replaceFrom, stop]
  | cons c rest =>
    have hc : isNameChar c = false := hrest c rfl
    have hstep : step f (.token read) c =
        finish f read >>= fun name => pure (name ++ (fresh c).1, (fresh c).2) := by
      simp [step, hc]
    have hfresh : step f .plain c = pure ((fresh c).1, (fresh c).2) := rfl
    rw [replaceFrom, hstep, bind_assoc, replaceFrom_cons f hfresh rest]
    refine bind_congr fun name => ?_
    rw [pure_bind, Functor.map_map]
    dsimp only
    rw [← map_eq_pure_bind]
    exact congrArg (· <$> _) (funext fun cs => List.append_assoc name (fresh c).1 cs)

/-- **One placeholder** outside of quotes: it is asked for as a whole. -/
theorem replaceFrom_name (f : String → m (Option String)) {r : Region} (hr : r.IsOuter)
    {name : String} (hname : IsToken name) {rest : List Char}
    (hrest : ∀ c ∈ rest.head?, isNameChar c = false) :
    replaceFrom f r.scan (name.toList ++ rest) =
      written f name >>= fun name => (name.toList ++ ·) <$> replaceFrom f .plain rest := by
  obtain ⟨c, word, hlist, hstart, hword⟩ := hname
  have hcolon : step f r.scan ':' = pure ([], .colon) := by
    cases r with
    | quoted q => exact hr.elim
    | plain => rfl
    | named => rfl
    | closed q =>
      have hne : ':' ≠ q.val := fun h => absurd (h ▸ q.property) (by decide)
      simp [Region.scan, step, hne, fresh, isQuote]
  have hbegin : step f .colon c = pure ([], .token [c]) := by
    have hne : c ≠ ':' := by
      rintro rfl
      revert hstart
      decide
    simp [step, hne, hstart]
  have htoken : tokenText (word.reverse ++ [c]) = name := by
    rw [tokenText, List.reverse_append, List.reverse_reverse]
    show String.ofList (':' :: c :: word) = name
    rw [← hlist, String.ofList_toList]
  calc replaceFrom f r.scan (name.toList ++ rest)
      = replaceFrom f .colon (c :: (word ++ rest)) := by
        rw [hlist]
        exact (replaceFrom_cons f hcolon _).trans (id_map _)
    _ = replaceFrom f (.token [c]) (word ++ rest) :=
        (replaceFrom_cons f hbegin _).trans (id_map _)
    _ = finish f (word.reverse ++ [c]) >>= fun name => (name ++ ·) <$> replaceFrom f .plain rest := by
        rw [replaceFrom_word f [c] hword, replaceFrom_token f _ hrest]
    _ = _ := by rw [finish, htoken, written, bind_assoc, bind_assoc]; simp

end Placeholder

namespace Template

open Placeholder

/-- Whether a text begins with a digit. -/
def startsWithDigit (s : String) : Bool := s.toList.head?.any Char.isDigit

/-- **A generated name is one placeholder** if its table does not begin with a digit. -/
theorem isToken_bind (ps : Params) {table : String} (htable : startsWithDigit table = false)
    (column : String) (v : Value) : IsToken (ps.bind table column v).1 := by
  have hlist : (ps.bind table column v).1.toList = _ :=
    Params.toList_placeholderName table column (ps.freshSuffix table column)
  -- the first character is that of the table, or the underscore after an empty table
  obtain ⟨c, cs, hcs, hc⟩ : ∃ c cs, table.toList ++ '_' :: column.toList = c :: cs ∧
      c.isDigit = false := by
    rw [startsWithDigit] at htable
    cases ht : table.toList with
    | nil => exact ⟨'_', column.toList, rfl, by decide⟩
    | cons c cs =>
      rw [ht] at htable
      exact ⟨c, cs ++ '_' :: column.toList, rfl, htable⟩
  rw [hcs, Params.sanitize, List.map_cons] at hlist
  refine ⟨_, _, hlist, ?_, fun d hd => ?_⟩
  · split
    · rename_i hname
      simp only [Params.isNameChar, Char.isAlphanum, hc, Bool.or_false] at hname
      exact hname
    · decide
  · rcases List.mem_append.mp hd with hs | hn
    · exact Params.isNameChar_of_mem_sanitize hs
    · rcases List.mem_cons.mp hn with rfl | hdigit
      · decide
      · exact Params.isNameChar_of_mem_toDigits hdigit

/-- Neither a name character nor a quote stands behind a placeholder, whatever the other words are. -/
theorem head_of_named (words : List String) {t : Template} {last : Region}
    (h : t.foldlM Region.read .named = some last) :
    ∀ c ∈ (weave (pieces t) words).head?,
      Placeholder.isNameChar c = false ∧ Placeholder.isQuote c = false := by
  intro c hc
  cases t with
  | nil =>
    have hnil : weave (pieces []) words = [] := by simp [weave, pieces]
    rw [hnil] at hc
    cases hc
  | cons a t =>
    rw [List.foldlM_cons] at h
    obtain ⟨next, hnext, -⟩ := Option.bind_eq_some_iff.mp h
    cases a with
    | char d =>
      cases hc
      rw [Region.read, Region.char] at hnext
      split at hnext
      · cases hnext
      · rename_i hrefused
        exact Bool.or_eq_false_iff.mp (Bool.eq_false_iff.mpr hrefused)
    | slot table column v => cases hnext
    | given params => cases hnext

variable {m : Type → Type} [Monad m] [LawfulMonad m]

/-- **The scanner finds the slots.** It asks for the name of each slot, in order, and for nothing
    else; all that stands between the names is written as it is. -/
theorem replaceFrom_assemble (f : String → m (Option String)) (ps : Params) {t : Template}
    {r last : Region} (h : t.foldlM Region.read r = some last) (houter : last.IsOuter)
    (htables : ∀ s ∈ slots t, startsWithDigit s.table = false) :
    replaceFrom f r.scan (assemble ps t).1 =
      (weave (pieces t)) <$> (slotNames ps t).mapM (written f) := by
  induction t generalizing ps r with
  | nil =>
    cases h
    have hstop : stop f last.scan = pure [] := by
      cases last with
      | quoted q => exact houter.elim
      | plain => rfl
      | named => rfl
      | closed q => rfl
    simp [assemble, replaceFrom, hstop, slotNames, weave, pieces]
  | cons a t ih =>
    rw [List.foldlM_cons] at h
    obtain ⟨next, hnext, hrest⟩ := Option.bind_eq_some_iff.mp h
    rw [assemble_cons]
    cases a with
    | char c =>
      have hstep : step f r.scan c = pure ([c], next.scan) := step_of_char f hnext
      rw [place_char, List.singleton_append, replaceFrom_cons f hstep, ih ps hrest htables,
        slotNames, pieces, Functor.map_map]
      rfl
    | slot table column v =>
      obtain ⟨rfl, rfl⟩ := Region.eq_of_read_slot hnext
      have hr : Region.plain.IsOuter := trivial
      have htoken : IsToken (ps.bind table column v).1 :=
        isToken_bind ps (htables ⟨table, column, v⟩ (by simp)) column v
      have hslots : ∀ s ∈ slots t, startsWithDigit s.table = false :=
        fun s hs => htables s (by rw [slots_slot]; exact List.mem_cons_of_mem _ hs)
      have hhead : ∀ c ∈ (assemble (ps.bind table column v).2 t).1.head?,
          Placeholder.isNameChar c = false := by
        rw [assemble_fst_eq_weave]
        exact fun c hc => (head_of_named _ hrest c hc).1
      have hread := ih (ps.bind table column v).2 hrest hslots
      rw [Region.scan] at hread
      rw [place_slot, replaceFrom_name f hr htoken hhead, hread, slotNames, pieces, List.mapM_cons]
      simp [weave]
    | given params => cases r <;> cases hnext

end Template

end FluentSql
