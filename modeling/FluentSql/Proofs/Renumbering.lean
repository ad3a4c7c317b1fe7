import FluentSql.Proofs.Lexemes
import FluentSql.Proofs.Numbering
import Mathlib.Data.List.Forall2
/-!
# `FluentSql.Proofs.Renumbering` — numbered placeholders of any text

`Numbering` numbers the placeholders of finished statements, which are all different. A text of a caller
may hold a placeholder more than once, placeholders that begin alike, and placeholders that no value is
given for; and values may be given that it does not ask for. The number of a placeholder is its place
among the **distinct** ones in the order of their first appearance.

* `Numbering.run_visit_known`, `run_visit_unbound` — beside `run_visit`, what one placeholder does;
* `Numbering.run_visits_bound`, `missing_visits` — what all placeholders of a text do;
* `Postgres.positional_iff` — when a text is numbered, what is sent, and what is reported otherwise.
-/

namespace FluentSql

open Template Placeholder

/-- The distinct placeholders of a text, in the order of their first appearance. -/
def Placeholder.distinct (sql : String) : List String :=
  (tokens sql).eraseDups

theorem Bind.find?_of_valueOf?_eq_none {binds : List Bind} {name : String}
    (h : valueOf? binds name = none) : binds.find? (fun b => b.placeholder = name) = none :=
  Option.map_eq_none_iff.mp h

/-- If no placeholder is without a value, each has one. -/
theorem Bind.valueOf?_of_find?_eq_none {binds : List Bind} {names : List String}
    (h : (names.find? fun t => (valueOf? binds t).isNone) = none) {name : String} (hname : name ∈ names) :
    valueOf? binds name = some ((valueOf? binds name).getD .null) := by
  have hsome := List.find?_eq_none.mp h name hname
  cases hvalue : valueOf? binds name with
  | none =>
    rw [hvalue] at hsome
    exact absurd rfl hsome
  | some value => rfl

/-! ## One placeholder -/

namespace Postgres.Numbering

/-- The placeholders that have a number. -/
def names (met : Numbering) : List String := met.bound.map Prod.fst

theorem findIdx?_names {entries : List (String × Value)} {name : String}
    (h : name ∈ entries.map Prod.fst) :
    entries.findIdx? (fun e => e.1 = name) = some ((entries.map Prod.fst).idxOf name) := by
  induction entries with
  | nil => cases h
  | cons e entries ih =>
    rw [List.findIdx?_cons, List.map_cons]
    by_cases he : e.1 = name
    · rw [he, List.idxOf_cons_self]
      simp
    · have hmem : name ∈ entries.map Prod.fst := by
        rcases List.mem_cons.mp h with rfl | hmem
        · exact absurd rfl he
        · exact hmem
      rw [ih hmem, List.idxOf_cons_ne _ he]
      simp [he]

/-- **A placeholder that was met** keeps its number. -/
theorem run_visit_known (binds : List Bind) {met : Numbering} {name : String} (h : name ∈ met.names) :
    (visit binds name).run met = (some (mark (met.names.idxOf name + 1)), met) := by
  have hfound : met.bound.findIdx? (fun e => e.1 = name) = some (met.names.idxOf name) :=
    findIdx?_names h
  simp only [visit, StateT.run_bind, StateT.run_get, pure_bind]
  rw [hfound]
  rfl

/-- **A placeholder without a value** stays, and is reported unless one was before it. -/
theorem run_visit_unbound {binds : List Bind} {met : Numbering} {name : String}
    (hnew : name ∉ met.names) (h : Bind.valueOf? binds name = none) :
    (visit binds name).run met = (none, { met with missing := met.missing.or (some name) }) := by
  have hfound : met.bound.findIdx? (fun e => e.1 = name) = none := by
    apply List.findIdx?_eq_none_iff.mpr
    intro e he
    apply decide_eq_false
    rintro rfl
    exact hnew (List.mem_map_of_mem he)
  simp only [visit, StateT.run_bind, StateT.run_get, pure_bind, Bind.find?_of_valueOf?_eq_none h]
  rw [hfound]
  rfl

/-! ## All placeholders -/

/-- The placeholders that texts bring for the first time, in order. -/
def arrivals (met : Numbering) (texts : List String) : List String :=
  (texts.filter fun t => t ∉ met.names).eraseDups

theorem arrivals_cons_of_mem {met : Numbering} {name : String} (h : name ∈ met.names)
    (texts : List String) : met.arrivals (name :: texts) = met.arrivals texts := by
  rw [arrivals, List.filter_cons_of_neg (by simpa using h), arrivals]

/-- A new placeholder comes first, and is no longer new behind it. -/
theorem arrivals_cons {met : Numbering} {name : String} (h : name ∉ met.names) (value : Value)
    (texts : List String) :
    met.arrivals (name :: texts) =
      name :: arrivals { met with bound := met.bound ++ [(name, value)] } texts := by
  have hnames : names { met with bound := met.bound ++ [(name, value)] } = met.names ++ [name] :=
    List.map_append
  rw [arrivals, List.filter_cons_of_pos (by simpa using h), List.eraseDups_cons, List.filter_filter,
    arrivals, hnames]
  congr 2
  refine List.filter_congr fun t _ => ?_
  rw [Bool.eq_iff_iff]
  simp [and_comm]

/-- **Placeholders that all have values** are written as their numbers, and those that are new are bound
    to their values. -/
theorem run_visits_bound {binds : List Bind} {valueOf : String → Value} {texts : List String}
    {met : Numbering} (h : ∀ t ∈ texts, Bind.valueOf? binds t = some (valueOf t)) :
    (texts.mapM (written (visit binds))).run met =
      (texts.map fun t => mark ((met.names ++ met.arrivals texts).idxOf t + 1),
        { met with bound := met.bound ++ (met.arrivals texts).map fun t => (t, valueOf t) }) := by
  induction texts generalizing met with
  | nil =>
    show (pure [] : StateM Numbering (List String)).run met = ([], { met with bound := met.bound ++ [] })
    rw [List.append_nil]
    rfl
  | cons t texts ih =>
    have hrest : ∀ u ∈ texts, Bind.valueOf? binds u = some (valueOf u) :=
      fun u hu => h u (List.mem_cons_of_mem t hu)
    rw [List.mapM_cons, StateT.run_bind]
    -- a placeholder that was met is no arrival; a new one is the first of them
    by_cases hmet : t ∈ met.names
    · have hwritten : (written (visit binds) t).run met = (mark (met.names.idxOf t + 1), met) := by
        rw [written, StateT.run_bind, run_visit_known binds hmet]
        rfl
      have hidx : (met.names ++ met.arrivals texts).idxOf t = met.names.idxOf t :=
        List.idxOf_append_of_mem hmet
      rw [hwritten, arrivals_cons_of_mem hmet, List.map_cons, hidx]
      show (texts.mapM (written (visit binds)) >>= fun marks => pure (_ :: marks)).run met = _
      rw [StateT.run_bind, ih hrest]
      rfl
    · let next : Numbering := { met with bound := met.bound ++ [(t, valueOf t)] }
      have hwritten : (written (visit binds) t).run met = (mark (met.bound.length + 1), next) := by
        rw [written, StateT.run_bind, run_visit hmet (Bind.find?_of_valueOf? (h t List.mem_cons_self))]
        rfl
      have hnames : met.names ++ met.arrivals (t :: texts) = next.names ++ next.arrivals texts := by
        rw [arrivals_cons hmet (valueOf t), names, names, List.map_append, List.append_assoc]
        rfl
      have hidx : (met.names ++ met.arrivals (t :: texts)).idxOf t = met.bound.length := by
        rw [arrivals_cons hmet (valueOf t), List.idxOf_append_of_notMem hmet, List.idxOf_cons_self, names,
          List.length_map, Nat.add_zero]
      rw [hwritten, List.map_cons, hidx]
      show (texts.mapM (written (visit binds)) >>= fun marks => pure (_ :: marks)).run next = _
      rw [StateT.run_bind, ih hrest, hnames, arrivals_cons hmet (valueOf t), List.map_cons,
        ← List.append_cons]
      rfl

/-- **The first placeholder without a value** is the one that is reported. -/
theorem missing_visits {binds : List Bind} {met : Numbering}
    (hmet : ∀ name ∈ met.names, (Bind.valueOf? binds name).isSome) (texts : List String) :
    ((texts.mapM (written (visit binds))).run met).2.missing =
      met.missing.or (texts.find? fun t => (Bind.valueOf? binds t).isNone) := by
  induction texts generalizing met with
  | nil => exact (Option.or_none).symm
  | cons t texts ih =>
    have hstep : ∀ {mark : String} {next : Numbering}, (written (visit binds) t).run met = (mark, next) →
        (((t :: texts).mapM (written (visit binds))).run met).2.missing =
          ((texts.mapM (written (visit binds))).run next).2.missing := by
      intro mark next h
      rw [List.mapM_cons, StateT.run_bind, h]
      rfl
    cases hvalue : Bind.valueOf? binds t with
    | none =>
      have hnew : t ∉ met.names := by
        intro hmem
        have hsome := hmet t hmem
        rw [hvalue] at hsome
        cases hsome
      have hwritten : (written (visit binds) t).run met =
          (t, { met with missing := met.missing.or (some t) }) := by
        rw [written, StateT.run_bind, run_visit_unbound hnew hvalue]
        rfl
      have hfirst : ((t :: texts).find? fun u => (Bind.valueOf? binds u).isNone) = some t :=
        List.find?_cons_of_pos (by rw [hvalue]; rfl)
      rw [hstep hwritten, @ih { met with missing := met.missing.or (some t) } hmet, hfirst,
        Option.or_assoc]
      rfl
    | some value =>
      rw [List.find?_cons_of_neg (by simp [hvalue])]
      by_cases hknown : t ∈ met.names
      · have hwritten : (written (visit binds) t).run met = (mark (met.names.idxOf t + 1), met) := by
          rw [written, StateT.run_bind, run_visit_known binds hknown]
          rfl
        rw [hstep hwritten, ih hmet]
      · let next : Numbering := { met with bound := met.bound ++ [(t, value)] }
        have hwritten : (written (visit binds) t).run met = (mark (met.bound.length + 1), next) := by
          rw [written, StateT.run_bind, run_visit hknown (Bind.find?_of_valueOf? hvalue)]
          rfl
        have hnext : ∀ name ∈ next.names, (Bind.valueOf? binds name).isSome := by
          intro name hname
          rw [names, List.map_append] at hname
          rcases List.mem_append.mp hname with hold | hnew
          · exact hmet name hold
          · rw [List.mem_singleton.mp hnew, hvalue]
            rfl
        rw [hstep hwritten, ih hnext]

end Postgres.Numbering

/-! ## The text and the values -/

namespace Postgres

open Postgres.Numbering

/-- **Numbering a text**: the first placeholder without a value is reported; if there is none, the
    placeholders are written as their numbers and the values of the distinct ones are sent. -/
theorem positional_eq (sql : String) (binds : List Bind) :
    positional sql binds =
      match (tokens sql).find? fun t => (Bind.valueOf? binds t).isNone with
      | some name => .error (.misuse (.unbound name))
      | none => .ok
          (String.ofList (weave (gaps (split sql.toList))
            ((tokens sql).map fun t => mark ((distinct sql).idxOf t + 1))),
          (distinct sql).map fun t => (Bind.valueOf? binds t).getD .null) := by
  let visits : StateM Numbering (List String) := (tokens sql).mapM (written (visit binds))
  have hrun : (replaceM (visit binds) sql).run {} =
      (String.ofList (weave (gaps (split sql.toList)) (visits.run {}).1), (visits.run {}).2) := by
    rw [replaceM_tokens, StateT.run_map]
    rfl
  have hmissing : (visits.run {}).2.missing =
      (tokens sql).find? fun t => (Bind.valueOf? binds t).isNone :=
    @missing_visits binds {} (fun name hname => absurd hname List.not_mem_nil) (tokens sql)
  unfold positional
  rw [hrun]
  dsimp only
  rw [hmissing]
  cases hfirst : (tokens sql).find? fun t => (Bind.valueOf? binds t).isNone with
  | some name => rfl
  | none =>
    have hbound : ∀ t ∈ tokens sql,
        Bind.valueOf? binds t = some ((Bind.valueOf? binds t).getD .null) :=
      fun t ht => Bind.valueOf?_of_find?_eq_none hfirst ht
    have harrivals : arrivals {} (tokens sql) = distinct sql := by
      rw [arrivals, List.filter_eq_self.mpr (by simp [names]), distinct]
    have hvisits := @run_visits_bound binds _ (tokens sql) {} hbound
    rw [harrivals] at hvisits
    rw [hvisits]
    simp [names]

/-- **Numbering any text.** Let the placeholders of the values have distinct names. A text is numbered if
    and only if every placeholder of the text has a value. Then the values that are sent are those of
    the distinct placeholders, in the order of their first appearance; the text is its pieces with the
    number of its placeholder in each gap; and every gap gets the same value by its number as by its
    placeholder, however values are written. Otherwise the first placeholder without a value is reported. -/
theorem positional_iff (sql : String) (binds : List Bind) (h : (binds.map Bind.placeholder).Nodup) :
    let pieces := gaps (split sql.toList)
    let numbers := (tokens sql).map fun name => (distinct sql).idxOf name + 1
    sql.toList = weave pieces (tokens sql) ∧
      ((∃ sent, positional sql binds = .ok sent) ↔ ∀ name ∈ tokens sql, ∃ value, ⟨name, value⟩ ∈ binds) ∧
      (∀ text values, positional sql binds = .ok (text, values) →
        List.Forall₂ (fun name value => ⟨name, value⟩ ∈ binds) (distinct sql) values ∧
        text.toList = weave pieces (numbers.map mark) ∧
        ∀ write : Option Value → String,
          weave pieces (numbers.map fun i => write values[i - 1]?) =
            weave pieces ((tokens sql).map fun name => write (Bind.valueOf? binds name))) ∧
      ∀ e, positional sql binds = .error e →
        ∃ front name back, tokens sql = front ++ name :: back ∧
          (∀ t ∈ front, ∃ value, ⟨t, value⟩ ∈ binds) ∧ (∀ value, ⟨name, value⟩ ∉ binds) ∧
          e = .misuse (.unbound name) ∧
          e.message = "Invalid argument: placeholder " ++ name ++ " has no bound value" := by
  intro pieces numbers
  have hgiven : ∀ {name value}, Bind.valueOf? binds name = some value ↔ ⟨name, value⟩ ∈ binds :=
    Bind.valueOf?_eq_some_iff h
  have htext : sql.toList = weave pieces (tokens sql) := by
    rw [tokens, weave_gaps, flatten_split]
  refine ⟨htext, ?_⟩
  rw [positional_eq]
  cases hfirst : (tokens sql).find? fun t => (Bind.valueOf? binds t).isNone with
  | none =>
    have hvalue : ∀ t ∈ tokens sql,
        Bind.valueOf? binds t = some ((Bind.valueOf? binds t).getD .null) :=
      fun t ht => Bind.valueOf?_of_find?_eq_none hfirst ht
    refine ⟨⟨fun _ t ht => ⟨_, hgiven.mp (hvalue t ht)⟩, fun _ => ⟨_, rfl⟩⟩, ?_, fun e he => by cases he⟩
    intro text values hok
    obtain ⟨rfl, rfl⟩ := Prod.mk.inj (Except.ok.inj hok)
    refine ⟨?_, ?_, fun write => ?_⟩
    · rw [List.forall₂_map_right_iff, List.forall₂_same]
      intro t ht
      exact hgiven.mp (hvalue t (List.mem_eraseDups.mp ht))
    · rw [String.toList_ofList, List.map_map]
      rfl
    · refine congrArg (weave pieces) ?_
      rw [List.map_map]
      refine List.map_congr_left fun t ht => ?_
      have hidx : (distinct sql)[(distinct sql).idxOf t]? = some t :=
        List.getElem?_idxOf (List.mem_eraseDups.mpr ht)
      simp only [Function.comp, Nat.add_sub_cancel, List.getElem?_map, hidx, Option.map_some]
      exact congrArg write (hvalue t ht).symm
  | some name =>
    obtain ⟨hnone, front, back, hsplit, hfront⟩ := List.find?_eq_some_iff_append.mp hfirst
    have hunbound : Bind.valueOf? binds name = none := Option.isNone_iff_eq_none.mp hnone
    have hmem : name ∈ tokens sql := by
      rw [hsplit]
      exact List.mem_append_right _ List.mem_cons_self
    have hno : ∀ value, ⟨name, value⟩ ∉ binds := by
      intro value hbind
      rw [hgiven.mpr hbind] at hunbound
      cases hunbound
    refine ⟨⟨?_, fun hall => ?_⟩, ?_, ?_⟩
    · rintro ⟨sent, hsent⟩
      cases hsent
    · obtain ⟨value, hbind⟩ := hall name hmem
      exact absurd hbind (hno value)
    · intro text values hok
      cases hok
    · intro e he
      cases he
      refine ⟨front, name, back, hsplit, fun t ht => ?_, hno, rfl, ?_⟩
      · cases hvalue : Bind.valueOf? binds t with
        | none =>
          have hbound := hfront t ht
          rw [hvalue] at hbound
          cases hbound
        | some value => exact ⟨value, hgiven.mp hvalue⟩
      · exact (String.append_assoc ..).symm

/-- A placeholder that stands twice, and one that begins like it. -/
def repeated : String := "a = :p_1 AND b = :p_10 AND c = :p_1 AND d = ':p_2'::text"

/-- Values in another order, one of them for no placeholder of the text. -/
def givenBinds : List Bind := [⟨":p_10", .int 10⟩, ⟨":p_2", .int 2⟩, ⟨":p_1", .text "$2"⟩]

theorem positional_repeated :
    (givenBinds.map Bind.placeholder).Nodup ∧
      (∃ values, positional repeated givenBinds =
          .ok ("a = $1 AND b = $2 AND c = $1 AND d = ':p_2'::text", values) ∧
        List.Forall₂ (fun name value => ⟨name, value⟩ ∈ givenBinds) [":p_1", ":p_10"] values) ∧
      positional repeated [⟨":p_10", .int 10⟩] = .error (.misuse (.unbound ":p_1")) := by
  have hnodup : (givenBinds.map Bind.placeholder).Nodup := by decide
  have htokens : tokens repeated = [":p_1", ":p_10", ":p_1"] := by decide +kernel
  obtain ⟨-, hiff, hsent, -⟩ := positional_iff repeated givenBinds hnodup
  obtain ⟨-, hiff', -, hreported⟩ := positional_iff repeated [⟨":p_10", .int 10⟩] (by decide)
  refine ⟨hnodup, ?_, ?_⟩
  · obtain ⟨⟨text, values⟩, hok⟩ := hiff.mpr (by rw [htokens]; simp [givenBinds])
    obtain ⟨hvalues, htext, -⟩ := hsent text values hok
    have hlist : text = "a = $1 AND b = $2 AND c = $1 AND d = ':p_2'::text" := by
      apply String.toList_inj.mp
      rw [htext]
      decide +kernel
    rw [distinct, htokens] at hvalues
    exact ⟨values, hlist ▸ hok, hvalues⟩
  · cases hsent' : positional repeated [⟨":p_10", .int 10⟩] with
    | ok sent =>
      have hall := hiff'.mp ⟨sent, hsent'⟩ ":p_1" (by rw [htokens]; exact List.mem_cons_self)
      simp at hall
    | error e =>
      obtain ⟨front, name, back, hsplit, hfront, -, rfl, -⟩ := hreported e hsent'
      cases front with
      | nil =>
        rw [htokens] at hsplit
        rw [(List.cons.inj hsplit).1]
      | cons first front =>
        rw [htokens] at hsplit
        have hbound := hfront first List.mem_cons_self
        rw [← (List.cons.inj hsplit).1] at hbound
        simp at hbound

end Postgres

end FluentSql
