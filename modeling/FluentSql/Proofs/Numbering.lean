import FluentSql.Postgres.Positional
import FluentSql.Proofs.RawFree
import FluentSql.Statement
/-!
# `FluentSql.Proofs.Numbering` — numbered placeholders of a finished statement

A server that numbers its parameters gets the text with the first placeholder as `$1`, the second as
`$2` and so on, and the values in this order. The numbering passes over finished text; what it takes
for placeholders are the names of the slots, since the scanner finds these and nothing else.

* `Numbering.run_visits` — one number after the other for names that are new and bound;
* `Postgres.positional_ofTemplate`, `Statement.positional_build` — the text and the values that are
  sent.
-/

namespace FluentSql

open Template Placeholder

/-! ## Visiting placeholders -/

namespace Postgres.Numbering

/-- **A new placeholder with a value** gets the next number. -/
theorem run_visit {binds : List Bind} {met : Numbering} {name : String} {value : Value}
    (hnew : name ∉ met.bound.map Prod.fst)
    (hbound : binds.find? (fun b => b.placeholder = name) = some ⟨name, value⟩) :
    (visit binds name).run met =
      (some (mark (met.bound.length + 1)),
        { met with bound := met.bound ++ [(name, value)] }) := by
  simp only [visit, StateT.run_bind, StateT.run_get, pure_bind]
  split
  · rename_i i hi
    obtain ⟨hlt, hname, -⟩ := List.findIdx?_eq_some_iff_getElem.mp hi
    exact absurd (List.mem_map.mpr ⟨met.bound[i], List.getElem_mem hlt, of_decide_eq_true hname⟩) hnew
  · rw [hbound]
    rfl

/-- **One number after the other**, for placeholders that are new, differ and have values. -/
theorem run_visits {binds : List Bind} {met : Numbering} {entries : List (String × Value)}
    (hnew : ((met.bound ++ entries).map Prod.fst).Nodup)
    (hbound : ∀ e ∈ entries, binds.find? (fun b => b.placeholder = e.1) = some ⟨e.1, e.2⟩) :
    ((entries.map Prod.fst).mapM (written (visit binds))).run met =
      ((List.range' (met.bound.length + 1) entries.length).map mark,
        { met with bound := met.bound ++ entries }) := by
  induction entries generalizing met with
  | nil =>
    rw [List.append_nil]
    rfl
  | cons e entries ih =>
    obtain ⟨name, value⟩ := e
    have hname : name ∉ met.bound.map Prod.fst := by
      rw [List.map_append, List.map_cons, List.nodup_append] at hnew
      exact fun hmem => hnew.2.2 name hmem name (by simp) rfl
    have hwritten : (written (visit binds) name).run met =
        (mark (met.bound.length + 1), { met with bound := met.bound ++ [(name, value)] }) := by
      rw [written, StateT.run_bind, run_visit hname (hbound (name, value) (by simp))]
      rfl
    have hnext : (((met.bound ++ [(name, value)]) ++ entries).map Prod.fst).Nodup := by
      rw [List.append_assoc]
      exact hnew
    have hrest := @ih { met with bound := met.bound ++ [(name, value)] } hnext
      fun e he => hbound e (List.mem_cons_of_mem _ he)
    rw [List.map_cons, List.mapM_cons, StateT.run_bind, hwritten]
    show ((entries.map Prod.fst).mapM (written (visit binds)) >>= fun marks =>
      pure (mark (met.bound.length + 1) :: marks)).run _ = _
    rw [StateT.run_bind, hrest, List.length_append, List.length_singleton, List.append_assoc,
      List.length_cons, List.range'_succ]
    rfl

end Postgres.Numbering

/-! ## The values of binds -/

/-- The value that is given for a placeholder. -/
def Bind.valueOf? (binds : List Bind) (name : String) : Option Value :=
  (binds.find? fun b => b.placeholder = name).map Bind.value

theorem Bind.find?_of_valueOf? {binds : List Bind} {name : String} {value : Value}
    (h : valueOf? binds name = some value) :
    binds.find? (fun b => b.placeholder = name) = some ⟨name, value⟩ := by
  obtain ⟨b, hb, rfl⟩ := Option.map_eq_some_iff.mp h
  have hname : b.placeholder = name := by simpa using List.find?_some hb
  rw [hb, ← hname]

/-- Under distinct names a value is given if its bind is there. -/
theorem Bind.valueOf?_eq_some_iff {binds : List Bind} (h : (binds.map Bind.placeholder).Nodup)
    {name : String} {value : Value} : valueOf? binds name = some value ↔ ⟨name, value⟩ ∈ binds := by
  constructor
  · intro hvalue
    exact List.mem_of_find?_eq_some (find?_of_valueOf? hvalue)
  · intro hmem
    induction binds with
    | nil => cases hmem
    | cons b binds ih =>
      obtain ⟨hfirst, hrest⟩ := List.nodup_cons.mp h
      rcases List.mem_cons.mp hmem with rfl | hmem
      · rw [valueOf?, List.find?_cons_of_pos (by simp)]
        rfl
      · have hne : ¬b.placeholder = name := by
          rintro rfl
          exact hfirst (List.mem_map.mpr ⟨_, hmem, rfl⟩)
        rw [valueOf?, List.find?_cons_of_neg (by simpa using hne)]
        exact ih hrest hmem

/-- The value of a name among the binds of parameters under different names. -/
theorem Bind.find?_ofParams {ps : Params} (h : ps.names.Nodup) {e : String × Value}
    (he : e ∈ ps.entries) :
    (Bind.ofParams ps).find? (fun b => b.placeholder = e.1) = some ⟨e.1, e.2⟩ := by
  have hnodup : ((ofParams ps).map Bind.placeholder).Nodup := by
    rw [ofParams, List.map_map]
    exact h
  have hmem : ⟨e.1, e.2⟩ ∈ ofParams ps := List.mem_map_of_mem he
  exact find?_of_valueOf? ((valueOf?_eq_some_iff hnodup).mpr hmem)

/-! ## Finished statements -/

/-- What is read brings no parameters of its own. -/
theorem Template.Leads.isBare {t : Template} {q : Region → Prop} (h : Leads Region.IsPlain t q) :
    IsBare t := by
  intro params hmem
  obtain ⟨front, back, rfl⟩ := List.append_of_mem hmem
  obtain ⟨last, hlast, -⟩ := h .plain rfl
  rw [List.foldlM_append] at hlast
  obtain ⟨r, -, hr⟩ := Option.bind_eq_some_iff.mp hlast
  cases r <;> cases hr

/-- **The placeholders of a finished template** are the names of its slots: each is asked for once,
    in order, and all else is written as it is. -/
theorem Built.replaceM_ofTemplate {m : Type → Type} [Monad m] [LawfulMonad m]
    (f : String → m (Option String)) {t : Template} (h : Leads Region.IsPlain t Region.IsOuter)
    (htables : ∀ s ∈ slots t, startsWithDigit s.table = false) :
    replaceM f (Built.ofTemplate t).sql =
      (fun names => String.ofList (weave (pieces t) names)) <$>
        (slotNames .empty t).mapM (written f) := by
  obtain ⟨last, hlast, houter⟩ := h .plain rfl
  have hread := replaceFrom_assemble f .empty hlast houter htables
  have hsql : (Built.ofTemplate t).sql.toList = (assemble .empty t).1 := String.toList_ofList
  rw [Region.scan] at hread
  rw [replaceM, hsql, hread, ← map_eq_pure_bind, Functor.map_map]

/-- **The parameters of a finished bare template** are its slots under their names. -/
theorem Built.params_ofTemplate {t : Template} (h : IsBare t) :
    (Built.ofTemplate t).params.names = slotNames .empty t ∧
      (Built.ofTemplate t).params.map.values = (slots t).map Slot.value := by
  have hentries : (Built.ofTemplate t).params.entries =
      (slotNames .empty t).zip ((slots t).map Slot.value) := entries_assemble .empty h
  have hlength : (slotNames .empty t).length = ((slots t).map Slot.value).length := by
    rw [length_slotNames, List.length_map]
  constructor
  · show (Built.ofTemplate t).params.entries.map Prod.fst = _
    rw [hentries, List.map_fst_zip (Nat.le_of_eq hlength)]
  · show (Built.ofTemplate t).params.entries.map Prod.snd = _
    rw [hentries, List.map_snd_zip (Nat.le_of_eq hlength.symm)]

/-- **A template that is read to its end**, as a numbering server gets it: numbers in the gaps, and
    the values of all slots. -/
theorem Postgres.positional_ofTemplate {t : Template} (h : Leads Region.IsPlain t Region.IsOuter)
    (htables : ∀ s ∈ slots t, startsWithDigit s.table = false) :
    positional (Built.ofTemplate t).sql (Bind.ofParams (Built.ofTemplate t).params) =
      .ok (String.ofList (weave (pieces t) ((List.range' 1 (slots t).length).map Numbering.mark)),
        (slots t).map Slot.value) := by
  let params : Params := (Built.ofTemplate t).params
  obtain ⟨hnames, hvalues⟩ := Built.params_ofTemplate h.isBare
  have hnodup : params.names.Nodup := by
    rw [hnames]
    exact (slotNames_fresh .empty t).1
  have hlength : params.entries.length = (slots t).length := by
    rw [← length_slotNames .empty t, ← hnames]
    exact (List.length_map _).symm
  -- the names of the slots are visited one by one, and each of them is new and bound
  have hvisits : (params.names.mapM (written (Numbering.visit (Bind.ofParams params)))).run {} =
      ((List.range' 1 params.entries.length).map Numbering.mark, { bound := params.entries }) :=
    @Numbering.run_visits (Bind.ofParams params) {} params.entries hnodup
      fun e he => Bind.find?_ofParams hnodup he
  have hscan := Built.replaceM_ofTemplate (Numbering.visit (Bind.ofParams params)) h htables
  have hrun : (replaceM (Numbering.visit (Bind.ofParams params)) (Built.ofTemplate t).sql).run {} =
      (String.ofList (weave (pieces t) ((List.range' 1 (slots t).length).map Numbering.mark)),
        { bound := params.entries }) := by
    rw [hscan, ← hnames, StateT.run_map, hvisits, hlength]
    rfl
  rw [positional, hrun, ← hvalues]
  rfl

/-- **The text and the values that a numbering server gets**, for a statement without raw SQL whose
    operands are on tables that do not begin with a digit. The text of the statement is pieces with
    one name in each gap; the numbered text is the same pieces with the number `$k` in the gap that
    holds the name of the `k`-th parameter. All values are sent, in the order of the parameters. -/
theorem Statement.positional_build (st : Style) (s : Statement) (h : s.isRawFree = true)
    (htables : ∀ o ∈ s.operands, startsWithDigit o.table = false) :
    let built := s.build st
    let marks := (List.range' 1 s.operands.length).map Postgres.Numbering.mark
    Postgres.positional built.sql (Bind.ofParams built.params) =
        .ok (String.ofList (weave (pieces (s.template st)) marks), built.params.map.values) ∧
      built.sql.toList = weave (pieces (s.template st)) built.params.names ∧
      built.params.map.values = s.operands.map Slot.value ∧
      built.params.names.length = s.operands.length ∧
      (pieces (s.template st)).2.length = s.operands.length := by
  intro built marks
  have hlead := Statement.leads_template st h
  have hslots : slots (s.template st) = s.operands := Statement.slots_template st s
  obtain ⟨hnames, hvalues⟩ := Built.params_ofTemplate hlead.isBare
  have hnumbered := Postgres.positional_ofTemplate hlead (hslots ▸ htables)
  have hsql : built.sql.toList = (assemble .empty (s.template st)).1 := String.toList_ofList
  rw [hslots] at hvalues hnumbered
  refine ⟨?_, ?_, hvalues, ?_, ?_⟩
  · show Postgres.positional built.sql _ = .ok (_, (Built.ofTemplate (s.template st)).params.map.values)
    rw [hvalues]
    exact hnumbered
  · rw [hsql, assemble_fst_eq_weave, ← hnames]
    rfl
  · show (Built.ofTemplate (s.template st)).params.names.length = _
    rw [hnames, length_slotNames, hslots]
  · rw [length_pieces, hslots]

/-- Quotes, colons and blanks in every identifier, in a subquery too. -/
def Statement.oddIdentifiers : Statement :=
  .select (Select.ofSteps [
    .target "odd \"table\" of :us",
    .columns [⟨.name "it's :mine", some "a  \"b"⟩],
    .filter (.compare .and (.name ":id_0\"") .equal (.int 1)),
    .filter (.subquery [.target "other.\x60:x\x60",
      .filter (.among .and (.name "y '") [.int 2, .int 3] true)] true),
    .limit 4])

theorem Statement.oddIdentifiers_numbered :
    oddIdentifiers.isRawFree = true ∧
      (∀ o ∈ oddIdentifiers.operands, startsWithDigit o.table = false) ∧
      Postgres.positional (oddIdentifiers.build { dialect := .postgres }).sql
          (Bind.ofParams (oddIdentifiers.build { dialect := .postgres }).params) =
        .ok ("SELECT \"it's :mine\" AS \"a \"\"b\" FROM \"odd \"\"table\"\" of :us\""
            ++ " WHERE \":id_0\"\"\" = $1 AND EXISTS (SELECT * FROM \"other\".\"\x60:x\x60\""
            ++ " WHERE \"y '\" IN ($2, $3)) LIMIT $4",
          [.int 1, .int 2, .int 3, .int 4]) := by
  have hraw : oddIdentifiers.isRawFree = true := rfl
  have htables : ∀ o ∈ oddIdentifiers.operands, startsWithDigit o.table = false := by
    decide
  refine ⟨hraw, htables, ?_⟩
  obtain ⟨hnumbered, -⟩ := positional_build { dialect := .postgres } oddIdentifiers hraw htables
  rw [hnumbered]
  refine congrArg Except.ok (Prod.ext ?_ ?_)
  · decide +kernel
  · decide +kernel

end FluentSql
