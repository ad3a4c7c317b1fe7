import FluentSql.Config.Reference
import Mathlib.Data.List.Infix
/-!
# `FluentSql.Proofs.ExpandedTexts` — texts with their references replaced

A text is made of literals and references: a reference is a dollar sign and a name in braces that runs to
the first closing brace, and everything else is literal. Each text is made of pieces in exactly one way,
and its expansion is read off the pieces: the first piece with a fault decides, and without one every piece
gives way to what it stands for.

* `Splits` — the pieces of a text, said without a scanner;
* `exists_splits`, `Splits.unique` — every text has pieces, and no others;
* `expand_pieces` — the expansion of a text by its pieces.
-/

namespace FluentSql.Config

/-! ## Pieces -/

/-- **A piece of a text.** -/
inductive Piece where
  /-- Text that stands for itself. -/
  | literal (text : List Char)
  /-- A dollar sign and a name in braces. -/
  | reference (name : List Char)
  /-- A dollar sign, an opening brace and no closing one. -/
  | unclosed (name : List Char)
  deriving DecidableEq, Repr

namespace Piece

/-- **What is wrong with a piece**, if anything is. -/
def fault? (env : Environment) : Piece → Option ConfigFault
  | literal _ => none
  | reference name =>
    if name = [] then some .emptyReference
    else if (env (String.ofList name)).isNone then some (.undefinedVariable (String.ofList name))
    else none
  | unclosed name => some (.unterminatedReference (String.ofList name))

/-- **What a piece stands for**, if nothing is wrong with it. -/
def value (env : Environment) : Piece → List Char
  | literal text => text
  | reference name => ((env (String.ofList name)).getD "").toList
  | unclosed _ => []

end Piece

/-- The two characters that begin a reference. -/
def opening : List Char := ['$', '\x7b']

/-- **Where a literal ends**: at the end of the text or the beginning of a reference. -/
def EndsLiteral (rest : List Char) : Prop := rest = [] ∨ ∃ back, rest = opening ++ back

/-- **A text and its pieces** from left to right. A literal runs to the next reference, and a name to the
    first closing brace. -/
inductive Splits : List Char → List Piece → Prop where
  | nil : Splits [] []
  | literal {text rest : List Char} {pieces : List Piece} (nonempty : text ≠ [])
      (plain : ¬ opening <:+: text) (ends : EndsLiteral rest) (back : Splits rest pieces) :
      Splits (text ++ rest) (.literal text :: pieces)
  | reference {name rest : List Char} {pieces : List Piece} (unbraced : '\x7d' ∉ name)
      (back : Splits rest pieces) :
      Splits (opening ++ (name ++ '\x7d' :: rest)) (.reference name :: pieces)
  | unclosed {name : List Char} (unbraced : '\x7d' ∉ name) :
      Splits (opening ++ name) [.unclosed name]

/-- **The outcome of pieces**: the first fault, or what all of them stand for. -/
def outcome (env : Environment) (pieces : List Piece) : Except ConfigFault (List Char) :=
  match pieces.findSome? (Piece.fault? env) with
  | some fault => .error fault
  | none => .ok (pieces.flatMap (Piece.value env))

variable {env : Environment} {cs text name rest : List Char} {pieces : List Piece}

/-- The pieces are looked at from left to right. -/
theorem outcome_cons (env : Environment) (piece : Piece) (pieces : List Piece) :
    outcome env (piece :: pieces) =
      match piece.fault? env with
      | some fault => .error fault
      | none => (outcome env pieces).map (piece.value env ++ ·) := by
  unfold outcome
  rw [List.findSome?_cons]
  cases piece.fault? env with
  | some fault => rfl
  | none => cases pieces.findSome? (Piece.fault? env) <;> rfl

/-! ## Every text has pieces -/

/-- A reference begins at a character or behind it. -/
theorem opening_isInfix_cons {c : Char} :
    opening <:+: c :: text ↔ (c = '$' ∧ text.head? = some '\x7b') ∨ opening <:+: text := by
  rw [List.infix_cons_iff, opening, List.cons_prefix_cons, List.cons_prefix_iff]
  simp [eq_comm, List.head?_eq_some_iff]

/-- **A text up to its first reference.** -/
theorem exists_literal (cs : List Char) :
    ∃ text rest, cs = text ++ rest ∧ ¬ opening <:+: text ∧ EndsLiteral rest := by
  induction cs with
  | nil => exact ⟨[], [], rfl, by decide, .inl rfl⟩
  | cons c cs ih =>
    by_cases hopening : opening <+: c :: cs
    · obtain ⟨back, hback⟩ := hopening
      exact ⟨[], c :: cs, rfl, by decide, .inr ⟨back, hback.symm⟩⟩
    · obtain ⟨text, rest, rfl, htext, hrest⟩ := ih
      refine ⟨c :: text, rest, rfl, ?_, hrest⟩
      rw [opening_isInfix_cons, or_iff_left htext]
      rintro ⟨rfl, hhead⟩
      obtain ⟨back, rfl⟩ := List.head?_eq_some_iff.mp hhead
      exact hopening ⟨back ++ rest, rfl⟩

/-- **A text has pieces.** -/
theorem exists_splits (cs : List Char) : ∃ pieces, Splits cs pieces := by
  -- by the length of the text, a literal and the reference behind it at a time
  induction hlength : cs.length using Nat.strongRecOn generalizing cs with
  | ind length ih =>
    obtain ⟨text, rest, rfl, htext, hrest⟩ := exists_literal cs
    have hback : ∃ pieces, Splits rest pieces := by
      obtain rfl | ⟨back, rfl⟩ := id hrest
      · exact ⟨[], .nil⟩
      · by_cases hbrace : '\x7d' ∈ back
        · obtain ⟨name, rest, rfl, hname⟩ := List.eq_append_cons_of_mem hbrace
          have hshorter : rest.length < length := by
            simp only [List.length_append, List.length_cons] at hlength
            omega
          obtain ⟨pieces, hpieces⟩ := ih rest.length hshorter rest rfl
          exact ⟨_, .reference hname hpieces⟩
        · exact ⟨_, .unclosed hbrace⟩
    obtain ⟨pieces, hpieces⟩ := hback
    cases text with
    | nil => exact ⟨pieces, hpieces⟩
    | cons c text => exact ⟨_, .literal (List.cons_ne_nil c text) htext hrest hpieces⟩

/-! ## No text has others -/

/-- A literal cannot be longer: what would be added begins a reference, so it would be part of one inside
    the literal or overlap the one that ends it. -/
theorem eq_nil_of_endsLiteral {more : List Char} (h : ¬ opening <:+: text ++ more)
    (hends : EndsLiteral rest) (hmore : EndsLiteral (more ++ rest)) : more = [] := by
  match more with
  | [] => rfl
  | [c] =>
    obtain hnil | ⟨back, hback⟩ := hmore
    · cases hnil
    · obtain ⟨-, hrest⟩ := List.cons_eq_cons.mp hback
      obtain rfl | ⟨back', rfl⟩ := hends
      · cases hrest
      · exact absurd (List.cons_eq_cons.mp hrest).1 (by decide)
  | c :: d :: more =>
    obtain hnil | ⟨back, hback⟩ := hmore
    · cases hnil
    · obtain ⟨rfl, hbehind⟩ := List.cons_eq_cons.mp hback
      obtain ⟨rfl, -⟩ := List.cons_eq_cons.mp hbehind
      exact absurd ⟨text, more, List.append_assoc text opening more⟩ h

/-- **Where a literal ends is determined** by the text. -/
theorem literal_inj {text' rest' : List Char} (h : ¬ opening <:+: text) (h' : ¬ opening <:+: text')
    (hends : EndsLiteral rest) (hends' : EndsLiteral rest') (heq : text ++ rest = text' ++ rest') :
    text = text' ∧ rest = rest' := by
  obtain ⟨more, rfl, rfl⟩ | ⟨more, rfl, rfl⟩ := List.append_eq_append_iff.mp heq
  · obtain rfl := eq_nil_of_endsLiteral h' hends' hends
    exact ⟨(List.append_nil text).symm, rfl⟩
  · obtain rfl := eq_nil_of_endsLiteral h hends hends'
    exact ⟨List.append_nil text', rfl⟩

/-- **Where a name ends is determined** by the text. -/
theorem name_inj {name' rest' : List Char} (h : '\x7d' ∉ name) (h' : '\x7d' ∉ name')
    (heq : name ++ '\x7d' :: rest = name' ++ '\x7d' :: rest') : name = name' ∧ rest = rest' := by
  obtain ⟨more, rfl, hrest⟩ | ⟨more, rfl, hrest⟩ := List.append_eq_append_iff.mp heq
  · cases more with
    | nil => exact ⟨(List.append_nil name).symm, (List.cons_eq_cons.mp hrest).2⟩
    | cons c more =>
      obtain ⟨rfl, -⟩ := List.cons_eq_cons.mp hrest
      exact absurd (List.mem_append_right name List.mem_cons_self) h'
  · cases more with
    | nil => exact ⟨List.append_nil name', (List.cons_eq_cons.mp hrest).2.symm⟩
    | cons c more =>
      obtain ⟨rfl, -⟩ := List.cons_eq_cons.mp hrest
      exact absurd (List.mem_append_right name' List.mem_cons_self) h

namespace Splits

/-- The empty text has no pieces. -/
theorem nil_inv (h : Splits [] pieces) : pieces = [] := by
  generalize hcs : ([] : List Char) = cs at h
  cases h with
  | nil => rfl
  | literal nonempty => exact absurd (List.append_eq_nil_iff.mp hcs.symm).1 nonempty
  | reference => cases hcs
  | unclosed => cases hcs

/-- A text that begins with a literal has it as its first piece. -/
theorem literal_inv (h : Splits cs pieces) (hcs : cs = text ++ rest) (htext : text ≠ [])
    (hplain : ¬ opening <:+: text) (hends : EndsLiteral rest) :
    ∃ back, pieces = .literal text :: back ∧ Splits rest back := by
  have hnone : ¬ opening <:+: ([] : List Char) := by decide
  cases h with
  | nil => exact absurd (List.append_eq_nil_iff.mp hcs.symm).1 htext
  | literal _ plain ends back =>
    obtain ⟨rfl, rfl⟩ := literal_inj plain hplain ends hends hcs
    exact ⟨_, rfl, back⟩
  | reference =>
    exact absurd (literal_inj hnone hplain (.inr ⟨_, rfl⟩) hends hcs).1.symm htext
  | unclosed =>
    exact absurd (literal_inj hnone hplain (.inr ⟨_, rfl⟩) hends hcs).1.symm htext

/-- A text that begins with a reference begins with no literal. -/
theorem opening_inv (h : Splits cs pieces) (hcs : cs = opening ++ rest) :
    (∃ name rest' back, pieces = .reference name :: back ∧ '\x7d' ∉ name ∧
        rest = name ++ '\x7d' :: rest' ∧ Splits rest' back) ∨
      pieces = [.unclosed rest] ∧ '\x7d' ∉ rest := by
  have hnone : ¬ opening <:+: ([] : List Char) := by decide
  cases h with
  | nil => cases hcs
  | literal nonempty plain ends back =>
    exact absurd (literal_inj plain hnone ends (.inr ⟨_, rfl⟩) hcs).1 nonempty
  | reference unbraced back => exact .inl ⟨_, _, _, rfl, unbraced, (List.append_cancel_left hcs).symm, back⟩
  | unclosed unbraced =>
    obtain rfl := List.append_cancel_left hcs
    exact .inr ⟨rfl, unbraced⟩

/-- **The pieces of a text are unique.** -/
theorem unique (h : Splits cs pieces) {others : List Piece} (hothers : Splits cs others) :
    pieces = others := by
  induction h generalizing others with
  | nil => exact hothers.nil_inv.symm
  | literal nonempty plain ends _ ih =>
    obtain ⟨back, rfl, hback⟩ := hothers.literal_inv rfl nonempty plain ends
    rw [ih hback]
  | reference unbraced _ ih =>
    obtain ⟨name, rest, back, rfl, hname, hcs, hback⟩ | ⟨-, hbrace⟩ := hothers.opening_inv rfl
    · obtain ⟨rfl, rfl⟩ := name_inj unbraced hname hcs
      rw [ih hback]
    · exact absurd (List.mem_append_right _ List.mem_cons_self) hbrace
  | unclosed unbraced =>
    obtain ⟨name, rest, back, -, -, rfl, -⟩ | ⟨rfl, -⟩ := hothers.opening_inv rfl
    · exact absurd (List.mem_append_right _ List.mem_cons_self) unbraced
    · rfl

end Splits

/-! ## Expanding pieces -/

/-- A character that begins no reference stands for itself. -/
theorem expandFrom_cons (env : Environment) {c : Char} (h : ¬ (c = '$' ∧ cs.head? = some '\x7b')) :
    expandFrom env none (c :: cs) = (expandFrom env none cs).map (c :: ·) := by
  apply expandFrom.eq_4
  rintro back rfl rfl
  exact h ⟨rfl, rfl⟩

/-- **A literal is kept**, up to the reference or the end behind it. -/
theorem expandFrom_literal (env : Environment) (hplain : ¬ opening <:+: text) (hends : EndsLiteral rest) :
    expandFrom env none (text ++ rest) = (expandFrom env none rest).map (text ++ ·) := by
  induction text with
  | nil =>
    rw [List.nil_append]
    cases expandFrom env none rest <;> rfl
  | cons c text ih =>
    rw [opening_isInfix_cons, not_or] at hplain
    obtain ⟨hc, htext⟩ := hplain
    have hhead : ¬ (c = '$' ∧ (text ++ rest).head? = some '\x7b') := by
      cases text with
      | cons d text => exact hc
      | nil =>
        obtain rfl | ⟨back, rfl⟩ := hends
        · simp
        · simp [opening]
    rw [List.cons_append, expandFrom_cons env hhead, ih htext]
    cases expandFrom env none rest <;> rfl

/-- **A name is read** up to its closing brace. -/
theorem expandFrom_name (env : Environment) (hname : '\x7d' ∉ name) (read : List Char) :
    expandFrom env (some read) (name ++ rest) = expandFrom env (some (name.reverse ++ read)) rest := by
  induction name generalizing read with
  | nil => rfl
  | cons c name ih =>
    rw [List.mem_cons, not_or] at hname
    obtain ⟨hc, hname⟩ := hname
    rw [List.cons_append, expandFrom, if_neg (Ne.symm hc), ih hname, List.reverse_cons, List.append_assoc,
      List.singleton_append]

/-- The value of a variable is what a reference to it stands for. -/
theorem resolve_reverse (env : Environment) (name : List Char) :
    resolve env name.reverse =
      match (Piece.reference name).fault? env with
      | some fault => .error fault
      | none => .ok ((Piece.reference name).value env) := by
  cases name with
  | nil => rfl
  | cons c name =>
    simp only [resolve, Piece.fault?, Piece.value, List.reverse_reverse, List.isEmpty_reverse,
      List.isEmpty_cons, reduceCtorEq, if_false]
    cases env (String.ofList (c :: name)) <;> rfl

/-- **A closed reference** gives way to the value of its variable, if nothing is wrong with it. -/
theorem expandFrom_reference (env : Environment) (hname : '\x7d' ∉ name) :
    expandFrom env none (opening ++ (name ++ '\x7d' :: rest)) =
      match (Piece.reference name).fault? env with
      | some fault => .error fault
      | none => (expandFrom env none rest).map ((Piece.reference name).value env ++ ·) := by
  show expandFrom env (some []) (name ++ '\x7d' :: rest) = _
  rw [expandFrom_name env hname, expandFrom, if_pos rfl, List.append_nil, resolve_reverse]
  cases (Piece.reference name).fault? env with
  | some fault => rfl
  | none => cases expandFrom env none rest <;> rfl

/-- A reference that is not closed is a fault. -/
theorem expandFrom_unclosed (env : Environment) (hname : '\x7d' ∉ name) :
    expandFrom env none (opening ++ name) = .error (.unterminatedReference (String.ofList name)) := by
  have hread : expandFrom env (some []) (name ++ []) = expandFrom env (some (name.reverse ++ [])) [] :=
    expandFrom_name env hname []
  rw [List.append_nil, List.append_nil] at hread
  show expandFrom env (some []) name = _
  rw [hread, expandFrom, List.reverse_reverse]

/-- **The scanner has the outcome of the pieces.** -/
theorem Splits.expandFrom_eq (env : Environment) (h : Splits cs pieces) :
    expandFrom env none cs = outcome env pieces := by
  induction h with
  | nil => rfl
  | literal _ plain ends _ ih =>
    rw [expandFrom_literal env plain ends, ih, outcome_cons]
    rfl
  | reference unbraced _ ih => rw [expandFrom_reference env unbraced, ih, outcome_cons]
  | unclosed unbraced => exact expandFrom_unclosed env unbraced

/-! ## The expansion of a text -/

/-- **A text expands to what its pieces stand for.** There is one way to take a text apart into literals and
    references. If every reference is closed, names something and is set, the expansion is the literals as
    they are with the values in between; else it is the fault of the first reference for which this is not
    so. -/
theorem expand_pieces (env : Environment) (s : String) :
    ∃ pieces, Splits s.toList pieces ∧ (∀ others, Splits s.toList others → others = pieces) ∧
      expand env s =
        match pieces.findSome? (Piece.fault? env) with
        | some fault => .error fault
        | none => .ok (String.ofList (pieces.flatMap (Piece.value env))) := by
  obtain ⟨pieces, hpieces⟩ := exists_splits s.toList
  refine ⟨pieces, hpieces, fun others hothers => hothers.unique hpieces, ?_⟩
  rw [expand, hpieces.expandFrom_eq env, outcome]
  cases pieces.findSome? (Piece.fault? env) <;> rfl

/-- One variable is set, to a text that looks like a reference. -/
def oneVariable : Environment
  | "a" => some "$\x7bb\x7d"
  | _ => none

/-- A dollar sign is kept before a reference and before a letter, a value is not looked at again, and of two
    faults the first is reported. -/
theorem expand_oneVariable :
    expand oneVariable "$$\x7ba\x7d$c" = .ok "$$\x7bb\x7d$c" ∧
      expand oneVariable "$\x7ba\x7d$\x7bb\x7d$\x7b" = .error (.undefinedVariable "b") := by
  have ha : '\x7d' ∉ ['a'] := by decide
  constructor
  · obtain ⟨pieces, -, hunique, hexpand⟩ := expand_pieces oneVariable "$$\x7ba\x7d$c"
    have hdollar : ¬ opening <:+: ['$'] := by decide
    have hletter : ¬ opening <:+: ['$', 'c'] := by decide
    have hend : Splits (['$', 'c'] ++ []) [.literal ['$', 'c']] :=
      .literal (List.cons_ne_nil _ _) hletter (.inl rfl) .nil
    have hreference : Splits (opening ++ ['a', '\x7d', '$', 'c']) [.reference ['a'], .literal ['$', 'c']] :=
      .reference ha hend
    have hsplits : Splits (['$'] ++ (opening ++ ['a', '\x7d', '$', 'c']))
        [.literal ['$'], .reference ['a'], .literal ['$', 'c']] :=
      .literal (List.cons_ne_nil _ _) hdollar (.inr ⟨_, rfl⟩) hreference
    rw [hexpand, ← hunique _ hsplits]
    rfl
  · obtain ⟨pieces, -, hunique, hexpand⟩ := expand_pieces oneVariable "$\x7ba\x7d$\x7bb\x7d$\x7b"
    have hb : '\x7d' ∉ ['b'] := by decide
    have hend : Splits ['$', '\x7b'] [.unclosed []] := .unclosed List.not_mem_nil
    have hreference : Splits ['$', '\x7b', 'b', '\x7d', '$', '\x7b'] [.reference ['b'], .unclosed []] :=
      .reference hb hend
    rw [hexpand, ← hunique _ (.reference ha hreference)]
    rfl

end FluentSql.Config
