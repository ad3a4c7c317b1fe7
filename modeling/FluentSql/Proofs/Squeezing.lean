import FluentSql.Text.Blank
/-!
# `FluentSql.Proofs.Squeezing` — laws of squeezing

Squeezing runs over symbols from left to right with two flags. `flagsAfter` are the flags that a part
leaves, so that the rest can be squeezed on its own (`squeeze_append`). What is done to the symbols
one by one, without a change of their looks, can be done before or after (`squeeze_map`), and what is
read off solid and invisible symbols is the same before and after (`filterMap_squeeze`). Words with
one space between each two are settled (`IsSettled`): they stay as they are. Text that follows a word
is set off from it by one space (`setOff`).
-/

namespace FluentSql.Text

variable {α β : Type} {look : α → Look} {space : α}

/-! ## Part after part -/

/-- **The flags after a part**: whether a solid symbol was passed, and whether a blank since. -/
def flagsAfter (look : α → Look) (started pending : Bool) : List α → Bool × Bool
  | [] => (started, pending)
  | a :: as =>
    match look a with
    | .blank => flagsAfter look started true as
    | .invisible => flagsAfter look started pending as
    | .solid => flagsAfter look true false as

/-- **Part after part**: the second part is squeezed with the flags that the first one leaves. -/
theorem squeeze_append (started pending : Bool) (as bs : List α) :
    squeeze look space started pending (as ++ bs) =
      squeeze look space started pending as
        ++ squeeze look space (flagsAfter look started pending as).1
            (flagsAfter look started pending as).2 bs := by
  induction as generalizing started pending with
  | nil => rfl
  | cons a as ih =>
    rw [List.cons_append]
    cases h : look a with
    | blank => simp only [squeeze_cons_blank h, flagsAfter, h, ih]
    | invisible => simp only [squeeze_cons_invisible h, flagsAfter, h, ih, List.cons_append]
    | solid =>
      simp only [squeeze_cons_solid h, flagsAfter, h, ih, List.append_assoc, List.cons_append]

theorem flagsAfter_append (started pending : Bool) (as bs : List α) :
    flagsAfter look started pending (as ++ bs) =
      flagsAfter look (flagsAfter look started pending as).1
        (flagsAfter look started pending as).2 bs := by
  induction as generalizing started pending with
  | nil => rfl
  | cons a as ih =>
    rw [List.cons_append]
    cases h : look a <;> simp only [flagsAfter, h, ih]

/-- Once something solid was passed, it was passed. -/
theorem flagsAfter_started (pending : Bool) (as : List α) :
    (flagsAfter look true pending as).1 = true := by
  induction as generalizing pending with
  | nil => rfl
  | cons a as ih =>
    cases h : look a <;> simp only [flagsAfter, h, ih]

/-- A solid symbol anywhere sets the first flag. -/
theorem flagsAfter_started_of_mem {started pending : Bool} {as : List α} {a : α} (ha : a ∈ as)
    (h : look a = .solid) : (flagsAfter look started pending as).1 = true := by
  obtain ⟨front, back, rfl⟩ := List.append_of_mem ha
  rw [flagsAfter_append]
  simp only [flagsAfter, h]
  exact flagsAfter_started false back

/-- **A solid word** stays as it is, set off from what stands before. -/
theorem squeeze_word {word : List α} (hword : ∀ a ∈ word, look a = .solid) (hne : word ≠ [])
    (started pending : Bool) (as : List α) :
    squeeze look space started pending (word ++ as) =
      (if started && pending then [space] else []) ++ word
        ++ squeeze look space true false as := by
  induction word generalizing started pending with
  | nil => exact absurd rfl hne
  | cons a word ih =>
    rw [List.cons_append, squeeze_cons_solid (hword a (by simp))]
    by_cases hw : word = []
    · subst hw
      simp
    · rw [ih (fun b hb => hword b (List.mem_cons_of_mem a hb)) hw]
      simp

/-! ## What squeezing keeps -/

theorem mem_of_mem_squeeze {started pending : Bool} {as : List α} {a : α}
    (h : a ∈ squeeze look space started pending as) : a = space ∨ a ∈ as := by
  induction as generalizing started pending with
  | nil => exact absurd h (by simp)
  | cons b as ih =>
    cases hb : look b with
    | blank =>
      rw [squeeze_cons_blank hb] at h
      exact (ih h).imp_right (List.mem_cons_of_mem b)
    | invisible =>
      rw [squeeze_cons_invisible hb, List.mem_cons] at h
      rcases h with rfl | h
      · exact .inr (by simp)
      · exact (ih h).imp_right (List.mem_cons_of_mem b)
    | solid =>
      rw [squeeze_cons_solid hb, List.mem_append, List.mem_cons] at h
      rcases h with hs | rfl | h
      · split at hs
        · exact .inl (List.mem_singleton.mp hs)
        · exact absurd hs (by simp)
      · exact .inr (by simp)
      · exact (ih h).imp_right (List.mem_cons_of_mem b)

/-- **Symbols changed one by one** without a change of their looks. -/
theorem squeeze_map {look' : β → Look} {f : α → β} (hf : ∀ a, look' (f a) = look a)
    (started pending : Bool) (as : List α) :
    squeeze look' (f space) started pending (as.map f) =
      (squeeze look space started pending as).map f := by
  induction as generalizing started pending with
  | nil => rfl
  | cons a as ih =>
    rw [List.map_cons]
    cases h : look a with
    | blank => rw [squeeze_cons_blank h, squeeze_cons_blank ((hf a).trans h), ih]
    | invisible =>
      rw [squeeze_cons_invisible h, squeeze_cons_invisible ((hf a).trans h), ih, List.map_cons]
    | solid =>
      rw [squeeze_cons_solid h, squeeze_cons_solid ((hf a).trans h), ih, List.map_append,
        List.map_cons]
      split <;> rfl

/-- **What is read off** symbols that are no blanks is the same before and after. -/
theorem filterMap_squeeze {f : α → Option β} (hspace : f space = none)
    (hblank : ∀ a, look a = .blank → f a = none) (started pending : Bool) (as : List α) :
    (squeeze look space started pending as).filterMap f = as.filterMap f := by
  induction as generalizing started pending with
  | nil => rfl
  | cons a as ih =>
    cases h : look a with
    | blank => rw [squeeze_cons_blank h, ih, List.filterMap_cons_none (hblank a h)]
    | invisible => rw [squeeze_cons_invisible h, List.filterMap_cons, List.filterMap_cons, ih]
    | solid =>
      rw [squeeze_cons_solid h, List.filterMap_append, List.filterMap_cons, List.filterMap_cons, ih]
      split <;> simp [hspace]

/-- The same for symbols that bring any number of things. -/
theorem flatMap_squeeze {f : α → List β} (hspace : f space = [])
    (hblank : ∀ a, look a = .blank → f a = []) (started pending : Bool) (as : List α) :
    (squeeze look space started pending as).flatMap f = as.flatMap f := by
  induction as generalizing started pending with
  | nil => rfl
  | cons a as ih =>
    cases h : look a with
    | blank => rw [squeeze_cons_blank h, ih, List.flatMap_cons, hblank a h, List.nil_append]
    | invisible => rw [squeeze_cons_invisible h, List.flatMap_cons, List.flatMap_cons, ih]
    | solid =>
      rw [squeeze_cons_solid h, List.flatMap_append, List.flatMap_cons, List.flatMap_cons, ih]
      split <;> simp [hspace]

/-- Something solid is still there after squeezing. -/
theorem mem_squeeze_of_solid {started pending : Bool} {as : List α} {a : α} (ha : a ∈ as)
    (h : look a = .solid) : a ∈ squeeze look space started pending as := by
  obtain ⟨front, back, rfl⟩ := List.append_of_mem ha
  rw [squeeze_append, squeeze_cons_solid h]
  simp

/-! ## Squeezing twice -/

/-- Behind a solid symbol, what was squeezed stays as it is. -/
theorem squeeze_squeeze (hspace : look space = .blank) (pending : Bool) (as : List α) :
    squeeze look space true false (squeeze look space true pending as) =
      squeeze look space true pending as := by
  induction as generalizing pending with
  | nil => rfl
  | cons a as ih =>
    cases h : look a with
    | blank => rw [squeeze_cons_blank h, ih]
    | invisible => rw [squeeze_cons_invisible h, squeeze_cons_invisible h, ih]
    | solid =>
      rw [squeeze_cons_solid h]
      cases pending with
      | false => exact (squeeze_cons_solid h true false _).trans (congrArg (a :: ·) (ih false))
      | true =>
        show squeeze look space true false (space :: a :: _) = space :: a :: _
        rw [squeeze_cons_blank hspace, squeeze_cons_solid h, ih]
        rfl

/-- **What begins with a solid symbol** and was squeezed is set off from what stands before, and
    stays as it is. -/
theorem squeeze_squeeze_of_solid (hspace : look space = .blank) {a : α} (h : look a = .solid)
    (started pending : Bool) (as : List α) :
    squeeze look space started pending (squeeze look space false false (a :: as)) =
      (if started && pending then [space] else [])
        ++ squeeze look space false false (a :: as) := by
  rw [squeeze_cons_solid h false false as]
  show squeeze look space started pending (a :: squeeze look space true false as) = _
  rw [squeeze_cons_solid h, squeeze_squeeze hspace]
  rfl

/-! ## What is settled -/

/-- **What is settled** is set off from what stands before it, and stays as it is. -/
def IsSettled (look : α → Look) (space : α) (as : List α) : Prop :=
  ∀ started pending, squeeze look space started pending as =
    (if started && pending then [space] else []) ++ as

/-- A solid word in front of what is settled. -/
theorem IsSettled.prepend {as : List α} (h : IsSettled look space as) {word : List α}
    (hword : ∀ a ∈ word, look a = .solid) : IsSettled look space (word ++ as) := by
  intro started pending
  cases word with
  | nil => exact h started pending
  | cons a word =>
    rw [squeeze_word hword (List.cons_ne_nil a word), h true false]
    exact List.append_assoc _ _ _

theorem isSettled_word {word : List α} (hword : ∀ a ∈ word, look a = .solid) (hne : word ≠ []) :
    IsSettled look space word := by
  intro started pending
  have hsqueeze : squeeze look space started pending (word ++ []) =
      (if started && pending then [space] else []) ++ word ++ [] :=
    squeeze_word hword hne started pending []
  rw [List.append_nil, List.append_nil] at hsqueeze
  exact hsqueeze

/-- A solid word and one blank in front of what is settled. -/
theorem IsSettled.spaced (hspace : look space = .blank) {as : List α}
    (h : IsSettled look space as) {word : List α} (hword : ∀ a ∈ word, look a = .solid)
    (hne : word ≠ []) : IsSettled look space (word ++ space :: as) := by
  intro started pending
  rw [squeeze_word hword hne, squeeze_cons_blank hspace, h true true]
  exact List.append_assoc _ _ _

/-! ## Text after a word -/

/-- **A text set off from the word before it**: nothing if there is nothing but blanks, else a space
    and the squeezed text. -/
def setOff (cs : List Char) : List Char :=
  if squeezeChars cs = [] then [] else ' ' :: squeezeChars cs

theorem charLook_ne_invisible (c : Char) : charLook c ≠ .invisible := by
  unfold charLook
  split <;> exact nofun

/-- The characters of a text without blanks are solid. -/
theorem charLook_of_all {cs : List Char} (h : (cs.all fun c => !isBlank c) = true) :
    ∀ c ∈ cs, charLook c = .solid := by
  intro c hc
  have hblank : isBlank c = false := (Bool.not_eq_true' _).mp (List.all_eq_true.mp h c hc)
  unfold charLook
  rw [if_neg (Bool.not_eq_true _ ▸ hblank)]

/-- Before the first solid symbol a blank changes nothing. -/
theorem squeeze_unstarted (pending : Bool) (as : List α) :
    squeeze look space false pending as = squeeze look space false false as := by
  induction as generalizing pending with
  | nil => rfl
  | cons a as ih =>
    cases h : look a with
    | blank => rw [squeeze_cons_blank h, squeeze_cons_blank h]
    | invisible => rw [squeeze_cons_invisible h, squeeze_cons_invisible h, ih]
    | solid =>
      rw [squeeze_cons_solid h, squeeze_cons_solid h]
      rfl

/-- A solid character was passed exactly if something is left. -/
theorem flagsAfter_started_eq (pending : Bool) (cs : List Char) :
    (flagsAfter charLook false pending cs).1 = !(squeeze charLook ' ' false pending cs).isEmpty := by
  induction cs generalizing pending with
  | nil => rfl
  | cons c cs ih =>
    cases h : charLook c with
    | blank =>
      rw [squeeze_cons_blank h]
      simp only [flagsAfter, h, ih]
    | invisible => exact absurd h (charLook_ne_invisible c)
    | solid =>
      rw [squeeze_cons_solid h]
      simp only [flagsAfter, h, flagsAfter_started]
      rfl

/-- **What is settled after a text and a blank** is set off from the squeezed text, if there is any. -/
theorem squeezeChars_settled (cs : List Char) {ts : List Char} (h : IsSettled charLook ' ' ts) :
    squeezeChars (cs ++ ' ' :: ts) =
      (if squeezeChars cs = [] then [] else squeezeChars cs ++ [' ']) ++ ts := by
  unfold squeezeChars
  rw [squeeze_append, squeeze_cons_blank (by decide), h, flagsAfter_started_eq]
  cases squeeze charLook ' ' false false cs with
  | nil => rfl
  | cons b bs => simp

theorem squeeze_after_blank (cs : List Char) :
    squeeze charLook ' ' true true cs = setOff cs := by
  induction cs with
  | nil => rfl
  | cons c cs ih =>
    cases h : charLook c with
    | blank =>
      have hcs : squeezeChars (c :: cs) = squeezeChars cs := by
        rw [squeezeChars, squeeze_cons_blank h, squeeze_unstarted]
        rfl
      rw [squeeze_cons_blank h, ih, setOff, setOff, hcs]
    | invisible => exact absurd h (charLook_ne_invisible c)
    | solid =>
      have hcs : squeezeChars (c :: cs) = c :: squeeze charLook ' ' true false cs := by
        rw [squeezeChars, squeeze_cons_solid h]
        rfl
      rw [squeeze_cons_solid h, setOff, hcs]
      rfl

/-- **A blank at the end** of something solid leaves both flags set. -/
theorem flagsAfter_blank {started pending : Bool} {as : List α} {a b : α} (ha : a ∈ as)
    (hsolid : look a = .solid) (hblank : look b = .blank) :
    flagsAfter look started pending (as ++ [b]) = (true, true) := by
  rw [flagsAfter_append, flagsAfter_started_of_mem ha hsolid]
  simp only [flagsAfter, hblank]

end FluentSql.Text
