import FluentSql.Proofs.Naming
import FluentSql.Proofs.Squeezing
import FluentSql.Select.Render
/-!
# `FluentSql.Proofs.Assembly` — laws of templates and of assembling them

A template has a **shape** (all but its values), **slots** (what is bound, in order) and **pieces**
(the text between the slots). Each of the three passes through everything that templates are put
together with: `++`, `joined`, `headed`, `enclosed`, `squeeze`.

* `assemble_congr` — text and names follow from the shape and the names there are;
* `assemble_fst_eq_weave` — the text is the pieces with one name in each gap;
* `entries_assemble`, `slotNames_of_numbered` — the parameters are the slots, counted from left to
  right;
* `slotNames_fresh` — the names of slots are new ones, and differ;
* `assemble_squeeze` — squeezing a template is squeezing its text, whatever the names are;
* `isEmpty_eq_isEmpty_assemble` — what shows nothing is what is assembled to no text.
-/

namespace FluentSql

open FluentSql.Text

namespace Template

@[simp] theorem place_char (ps : Params) (c : Char) : place ps (.char c) = ([c], ps) := rfl

@[simp] theorem place_slot (ps : Params) (table column : String) (v : Value) :
    place ps (.slot table column v) =
      ((ps.bind table column v).1.toList, (ps.bind table column v).2) := rfl

@[simp] theorem place_given (ps params : Params) :
    place ps (.given params) = ([], ps.merge params) := rfl

theorem assemble_cons (ps : Params) (a : Symbol) (t : Template) :
    assemble ps (a :: t) =
      ((place ps a).1 ++ (assemble (place ps a).2 t).1, (assemble (place ps a).2 t).2) := rfl

/-! ## Shape -/

@[simp] theorem shape_append (s t : Template) : shape (s ++ t) = shape s ++ shape t :=
  List.map_append

@[simp] theorem shape_text (s : String) : shape (text s) = text s := by
  simp only [shape, text, List.map_map]
  rfl

theorem look_shapeOf (a : Symbol) : (shapeOf a).look = a.look := by
  cases a <;> rfl

theorem isEmpty_shape (t : Template) : (shape t).isEmpty = t.isEmpty := by
  simp only [isEmpty, shape, List.all_map]
  congr 1
  funext a
  cases a <;> rfl

@[simp] theorem shape_squeeze (t : Template) : shape t.squeeze = (shape t).squeeze :=
  (squeeze_map look_shapeOf false false t).symm

@[simp] theorem shape_joined (sep : String) (ts : List Template) :
    shape (joined sep ts) = joined sep (ts.map shape) := by
  induction ts with
  | nil => rfl
  | cons t ts ih =>
    cases ts with
    | nil => rfl
    | cons u us => simpa [joined] using ih

@[simp] theorem shape_headed (keyword : String) (body : Template) :
    shape (headed keyword body) = headed keyword (shape body) := by
  unfold headed
  rw [isEmpty_shape]
  split <;> simp

@[simp] theorem shape_enclosed (opening : String) (body : Template) :
    shape (enclosed opening body) = enclosed opening (shape body) := by
  unfold enclosed
  rw [isEmpty_shape]
  split <;> simp

theorem names_of_shape_given {params params' : Params}
    (h : shapeOf (.given params) = shapeOf (.given params')) : params.names = params'.names := by
  injection h with h
  have he := congrArg Params.names h
  simpa [Params.names, OrderedMap.keys, Params.entries, Function.comp_def] using he

/-- One symbol: text and names follow from its shape and the names there are. -/
theorem place_congr {ps qs : Params} (hn : ps.names = qs.names) {a b : Symbol}
    (hs : shapeOf a = shapeOf b) :
    (place ps a).1 = (place qs b).1 ∧ (place ps a).2.names = (place qs b).2.names := by
  cases a with
  | char c =>
    cases b with
    | char d =>
      injection hs with hc
      exact ⟨congrArg ([·]) hc, hn⟩
    | slot _ _ _ => cases hs
    | given _ => cases hs
  | slot table column v =>
    cases b with
    | char _ => cases hs
    | slot table' column' w =>
      injection hs with ht hc
      subst ht hc
      rw [place_slot, place_slot, Params.bind_fst_congr hn table column v w]
      exact ⟨rfl, Params.names_bind_congr hn table column v w⟩
    | given _ => cases hs
  | given params =>
    cases b with
    | char _ => cases hs
    | slot _ _ _ => cases hs
    | given params' =>
      rw [place_given, place_given]
      exact ⟨rfl, Params.names_merge_congr hn (names_of_shape_given hs)⟩

/-- **Text and names follow from the shape** and from the names there are. -/
theorem assemble_congr {ps qs : Params} (hn : ps.names = qs.names) {t u : Template}
    (hs : shape t = shape u) :
    (assemble ps t).1 = (assemble qs u).1 ∧
      (assemble ps t).2.names = (assemble qs u).2.names := by
  induction t generalizing ps qs u with
  | nil =>
    cases u with
    | nil => exact ⟨rfl, hn⟩
    | cons b u => cases hs
  | cons a t ih =>
    cases u with
    | nil => cases hs
    | cons b u =>
      obtain ⟨hab, htu⟩ := List.cons.inj hs
      obtain ⟨htext, hnames⟩ := place_congr hn hab
      obtain ⟨hrest, hlast⟩ := ih hnames htu
      rw [assemble_cons, assemble_cons]
      exact ⟨by rw [htext, hrest], hlast⟩

/-! ## Slots -/

end Template

/-- **What a placeholder is made of**: the table and the column it is named after, and its value. -/
structure Slot where
  table : String
  column : String
  value : Value
  deriving DecidableEq

/-- The slot that a symbol is. -/
def Symbol.slot? : Symbol → Option Slot
  | .slot table column value => some ⟨table, column, value⟩
  | _ => none

namespace Template

/-- **The slots** of a template, in order. -/
def slots (t : Template) : List Slot := t.filterMap Symbol.slot?

@[simp] theorem slots_nil : slots [] = [] := by
  rw [slots, List.filterMap_nil]

@[simp] theorem slots_append (s t : Template) : slots (s ++ t) = slots s ++ slots t :=
  List.filterMap_append

@[simp] theorem slots_slot (table column : String) (v : Value) (t : Template) :
    slots (.slot table column v :: t) = ⟨table, column, v⟩ :: slots t := rfl

@[simp] theorem slots_given (params : Params) (t : Template) :
    slots (.given params :: t) = slots t :=
  List.filterMap_cons_none rfl

@[simp] theorem slots_text (s : String) : slots (text s) = [] := by
  simp [slots, text, Symbol.slot?, List.filterMap_map, Function.comp_def]

@[simp] theorem slots_squeeze (t : Template) : slots t.squeeze = slots t := by
  refine filterMap_squeeze rfl (fun a ha => ?_) false false t
  cases a with
  | char c => rfl
  | slot _ _ _ => cases ha
  | given _ => rfl

@[simp] theorem slots_joined (sep : String) (ts : List Template) :
    slots (joined sep ts) = ts.flatMap slots := by
  induction ts with
  | nil => rfl
  | cons t ts ih =>
    cases ts with
    | nil => simp [joined]
    | cons u us => simp [joined, ih]

@[simp] theorem slots_headed (keyword : String) (body : Template) :
    slots (headed keyword body) = slots body := by
  unfold headed
  split <;> simp

@[simp] theorem slots_enclosed (opening : String) (body : Template) :
    slots (enclosed opening body) = slots body := by
  unfold enclosed
  split <;> simp

/-! ## Templates that give no parameters of their own -/

/-- **A bare template** gives no parameters under names of the caller. -/
def IsBare (t : Template) : Prop := ∀ params, Symbol.given params ∈ t → params = .empty

theorem isBare_nil : IsBare [] := fun _ h => absurd h (by simp)

theorem IsBare.append {s t : Template} (hs : IsBare s) (ht : IsBare t) : IsBare (s ++ t) :=
  fun params h => (List.mem_append.mp h).elim (hs params) (ht params)

theorem isBare_text (s : String) : IsBare (text s) := fun params h => by
  obtain ⟨c, -, hc⟩ := List.mem_map.mp h
  cases hc

theorem isBare_slot {table column : String} {v : Value} : IsBare [.slot table column v] :=
  fun params h => by simp at h

theorem IsBare.squeeze {t : Template} (ht : IsBare t) : IsBare t.squeeze := fun params h => by
  rcases mem_of_mem_squeeze h with hs | hm
  · cases hs
  · exact ht params hm

theorem isBare_joined {sep : String} {ts : List Template} (hts : ∀ t ∈ ts, IsBare t) :
    IsBare (joined sep ts) := by
  induction ts with
  | nil => exact isBare_nil
  | cons t ts ih =>
    have ht : IsBare t := hts t (by simp)
    cases ts with
    | nil => exact ht
    | cons u us =>
      exact (ht.append (isBare_text sep)).append (ih fun v hv => hts v (List.mem_cons_of_mem t hv))

theorem IsBare.headed {body : Template} (h : IsBare body) (keyword : String) :
    IsBare (headed keyword body) := by
  unfold FluentSql.headed
  split
  · exact h
  · exact (isBare_text _).append h

theorem IsBare.enclosed {body : Template} (h : IsBare body) (opening : String) :
    IsBare (enclosed opening body) := by
  unfold FluentSql.enclosed
  split
  · exact h
  · exact ((isBare_text _).append h).append (isBare_text _)

theorem IsBare.tail {a : Symbol} {t : Template} (h : IsBare (a :: t)) : IsBare t :=
  fun params hm => h params (List.mem_cons_of_mem a hm)

/-! ## Names and text -/

/-- **The names that the slots get** after the parameters there are. -/
def slotNames (ps : Params) : Template → List String
  | [] => []
  | .char _ :: t => slotNames ps t
  | .slot table column v :: t =>
    (ps.bind table column v).1 :: slotNames (ps.bind table column v).2 t
  | .given params :: t => slotNames (ps.merge params) t

/-- **The pieces of text** around the slots: what stands before the first one, and what stands after
    each. -/
def pieces : Template → List Char × List (List Char)
  | [] => ([], [])
  | .char c :: t => (c :: (pieces t).1, (pieces t).2)
  | .slot _ _ _ :: t => ([], (pieces t).1 :: (pieces t).2)
  | .given _ :: t => pieces t

/-- Pieces of text with one name in each gap. -/
def weave (pieces : List Char × List (List Char)) (names : List String) : List Char :=
  pieces.1 ++ (List.zipWith (fun name piece => name.toList ++ piece) names pieces.2).flatten

/-- **The text** is the pieces with the name of a slot in each gap. -/
theorem assemble_fst_eq_weave (ps : Params) (t : Template) :
    (assemble ps t).1 = weave (pieces t) (slotNames ps t) := by
  induction t generalizing ps with
  | nil => rfl
  | cons a t ih =>
    rw [assemble_cons, ih]
    cases a <;> simp [weave, pieces, slotNames]

theorem length_pieces (t : Template) : (pieces t).2.length = (slots t).length := by
  induction t with
  | nil => rfl
  | cons a t ih =>
    cases a with
    | char c => exact ih
    | slot table column v => exact congrArg (· + 1) ih
    | given params => exact ih

/-- The pieces do not depend on the values. -/
theorem pieces_shape (t : Template) : pieces (shape t) = pieces t := by
  induction t with
  | nil => rfl
  | cons a t ih =>
    rw [shape, List.map_cons, ← shape]
    cases a <;> simp [shapeOf, pieces, ih]

theorem length_slotNames (ps : Params) (t : Template) :
    (slotNames ps t).length = (slots t).length := by
  induction t generalizing ps with
  | nil => rfl
  | cons a t ih =>
    cases a with
    | char c => exact ih ps
    | slot table column v => exact congrArg (· + 1) (ih (ps.bind table column v).2)
    | given params => exact ih (ps.merge params)

/-- **The parameters of a bare template** are its slots under their names, after those there are. -/
theorem entries_assemble (ps : Params) {t : Template} (ht : IsBare t) :
    (assemble ps t).2.entries =
      ps.entries ++ (slotNames ps t).zip ((slots t).map Slot.value) := by
  induction t generalizing ps with
  | nil => simp [slotNames]
  | cons a t ih =>
    rw [assemble_cons, ih _ ht.tail]
    cases a with
    | char c => rfl
    | slot table column v => simp [slotNames, Params.entries_bind]
    | given params =>
      have hp : params = .empty := ht params (by simp)
      subst hp
      rfl

/-- **Slots are counted** from left to right if all parameters are. -/
theorem slotNames_of_numbered {ps : Params} (hps : ps.Numbered) {t : Template} (ht : IsBare t) :
    slotNames ps t =
      (slots t).mapIdx fun k s => Params.placeholderName s.table s.column (ps.size + k) := by
  induction t generalizing ps with
  | nil => rfl
  | cons a t ih =>
    cases a with
    | char c => exact ih hps ht.tail
    | slot table column v =>
      rw [slotNames, ih (hps.bind table column v) ht.tail, Params.size_bind, slots_slot,
        List.mapIdx_cons, hps.bind_eq table column v]
      simp [Nat.add_assoc, Nat.add_comm 1]
    | given params =>
      -- names given by a caller could be anything, but a bare template gives none
      have hp : params = .empty := ht params (by simp)
      subst hp
      exact ih hps ht.tail

/-! ## Fresh names -/

/-- Names stay where they are while a symbol is assembled. -/
theorem names_prefix_place (ps : Params) (a : Symbol) : ps.names <+: (place ps a).2.names := by
  cases a with
  | char c => exact List.prefix_rfl
  | slot table column v =>
    rw [place_slot, Params.names_bind]
    exact List.prefix_append _ _
  | given params => exact Params.names_prefix_merge ps params

/-- **Names stay where they are** while a template is assembled. -/
theorem names_prefix_assemble (ps : Params) (t : Template) :
    ps.names <+: (assemble ps t).2.names := by
  induction t generalizing ps with
  | nil => exact List.prefix_rfl
  | cons a t ih => exact (names_prefix_place ps a).trans (ih (place ps a).2)

/-- **Generated names are new**, and no two of them are equal. -/
theorem slotNames_fresh (ps : Params) (t : Template) :
    (slotNames ps t).Nodup ∧ ∀ name ∈ slotNames ps t, name ∉ ps.names := by
  induction t generalizing ps with
  | nil => exact ⟨List.nodup_nil, fun name h => absurd h (by simp [slotNames])⟩
  | cons a t ih =>
    cases a with
    | char c => exact ih ps
    | slot table column v =>
      obtain ⟨hnodup, hfresh⟩ := ih (ps.bind table column v).2
      rw [Params.names_bind] at hfresh
      rw [slotNames]
      refine ⟨List.nodup_cons.mpr ⟨fun hmem => ?_, hnodup⟩, fun name hname hold => ?_⟩
      · exact hfresh _ hmem (by simp)
      · rcases List.mem_cons.mp hname with rfl | hmem
        · exact Params.bind_fst_not_mem ps table column v hold
        · exact hfresh name hmem (List.mem_append_left _ hold)
    | given params =>
      obtain ⟨hnodup, hfresh⟩ := ih (ps.merge params)
      refine ⟨hnodup, fun name hname hold => hfresh name hname ?_⟩
      exact (Params.names_prefix_merge ps params).subset hold

/-! ## Squeezing and assembling -/

theorem charLook_of_isNameChar {c : Char} (h : Params.isNameChar c = true) :
    charLook c = .solid := by
  have hb : isBlank c = false := by
    change ((decide (c.val ≥ 'A'.val ∧ c.val ≤ 'Z'.val) ||
      (decide (c.val ≥ 'a'.val) && decide (c.val ≤ 'z'.val))) || c.isDigit || c == '_') = true at h
    simp only [Bool.or_eq_true, Bool.and_eq_true, decide_eq_true_eq, beq_iff_eq,
      UInt32.le_iff_toNat_le, ge_iff_le, Char.isDigit_iff_toNat] at h
    change ((((65 ≤ c.toNat ∧ c.toNat ≤ 90) ∨ (97 ≤ c.toNat ∧ c.toNat ≤ 122)) ∨
      (48 ≤ c.toNat ∧ c.toNat ≤ 57)) ∨ c = '_') at h
    rcases h with hn | rfl
    · simp only [isBlank, Bool.or_eq_false_iff, Bool.and_eq_false_iff, beq_eq_false_iff_ne,
        decide_eq_false_iff_not]
      omega
    · decide
  simp [charLook, hb]

/-- Every character of a generated name is solid. -/
theorem charLook_of_mem_placeholderName {table column : String} {n : Nat} {c : Char}
    (h : c ∈ (Params.placeholderName table column n).toList) : charLook c = .solid := by
  rcases Params.mem_placeholderName h with rfl | hc
  · decide
  · exact charLook_of_isNameChar hc

theorem toList_placeholderName_ne_nil (table column : String) (n : Nat) :
    (Params.placeholderName table column n).toList ≠ [] := by
  rw [Params.toList_placeholderName]
  exact List.cons_ne_nil _ _

theorem charLook_of_mem_bind {ps : Params} {table column : String} {v : Value} {c : Char}
    (h : c ∈ (ps.bind table column v).1.toList) : charLook c = .solid :=
  charLook_of_mem_placeholderName h

theorem toList_bind_ne_nil (ps : Params) (table column : String) (v : Value) :
    (ps.bind table column v).1.toList ≠ [] :=
  toList_placeholderName_ne_nil table column (ps.freshSuffix table column)

/-- Squeezing and assembling change places, whatever flags squeezing begins with. -/
theorem assemble_squeeze_flags (ps : Params) (started pending : Bool) (t : Template) :
    assemble ps (Text.squeeze Symbol.look (.char ' ') started pending t) =
      (Text.squeeze charLook ' ' started pending (assemble ps t).1, (assemble ps t).2) := by
  induction t generalizing ps started pending with
  | nil => rfl
  | cons a t ih =>
    cases a with
    | char c =>
      rw [assemble_cons ps (.char c), place_char, List.singleton_append]
      by_cases hc : isBlank c = true
      · have hlook : charLook c = .blank := by simp [charLook, hc]
        rw [squeeze_cons_blank (show Symbol.look (.char c) = .blank from hlook),
          squeeze_cons_blank hlook, ih]
      · have hlook : charLook c = .solid := by simp [charLook, hc]
        rw [squeeze_cons_solid (show Symbol.look (.char c) = .solid from hlook),
          squeeze_cons_solid hlook]
        cases started <;> cases pending <;> simp [assemble, place, ih]
    | slot table column v =>
      -- a name is one solid word, so the flags after it are those after the slot
      rw [assemble_cons ps (.slot table column v), place_slot,
        squeeze_cons_solid (show Symbol.look (.slot table column v) = .solid from rfl),
        squeeze_word (fun _ => charLook_of_mem_bind) (toList_bind_ne_nil ps table column v)]
      cases started <;> cases pending <;> simp [assemble, place, ih]
    | given params =>
      rw [squeeze_cons_invisible (show Symbol.look (.given params) = .invisible from rfl)]
      simp [assemble, place, ih]

/-- **Squeezing a template is squeezing its text**; the parameters stay as they are. -/
theorem assemble_squeeze (ps : Params) (t : Template) :
    assemble ps t.squeeze = (squeezeChars (assemble ps t).1, (assemble ps t).2) :=
  assemble_squeeze_flags ps false false t

/-! ## Templates that show nothing -/

theorem isEmpty_text (s : String) : isEmpty (text s) = s.isEmpty := by
  rw [Bool.eq_iff_iff, String.isEmpty_iff, ← String.toList_eq_nil_iff, text]
  cases s.toList with
  | nil => simp [isEmpty]
  | cons c cs => simp [isEmpty, Symbol.isVisible]

theorem isEmpty_given (params : Params) (t : Template) :
    isEmpty (.given params :: t) = isEmpty t := rfl

theorem isEmpty_eq_false_of_mem {t : Template} {a : Symbol} (ha : a ∈ t)
    (h : a.isVisible = true) : t.isEmpty = false := by
  refine List.all_eq_false.mpr ⟨a, ha, ?_⟩
  rw [h]
  decide

/-- **A template shows nothing** exactly if it is assembled to nothing. -/
theorem isEmpty_eq_isEmpty_assemble (ps : Params) (t : Template) :
    t.isEmpty = (assemble ps t).1.isEmpty := by
  induction t generalizing ps with
  | nil => rfl
  | cons a t ih =>
    rw [assemble_cons]
    cases a with
    | char c => rfl
    | slot table column v =>
      have hne : (ps.bind table column v).1.toList ≠ [] := toList_bind_ne_nil ps table column v
      simp [isEmpty, Symbol.isVisible, hne]
    | given params => exact ih (ps.merge params)

/-- A part after its keyword, as text: nothing if the part is nothing. -/
theorem assemble_headed (ps : Params) (keyword : String) (body : Template) :
    assemble ps (headed keyword body) =
      (if (assemble ps body).1 = [] then [] else (keyword ++ " ").toList ++ (assemble ps body).1,
        (assemble ps body).2) := by
  unfold headed
  rw [isEmpty_eq_isEmpty_assemble ps body]
  by_cases h : (assemble ps body).1 = []
  · simp only [h, List.isEmpty_nil, ↓reduceIte]
    rw [← h]
  · rw [if_neg (by simpa using h), if_neg h, assemble_append, assemble_text]

/-- A part in parentheses, as text: nothing if the part is nothing. -/
theorem assemble_enclosed (ps : Params) (opening : String) (body : Template) :
    assemble ps (enclosed opening body) =
      (if (assemble ps body).1 = [] then []
        else opening.toList ++ (assemble ps body).1 ++ ")".toList,
        (assemble ps body).2) := by
  unfold enclosed
  rw [isEmpty_eq_isEmpty_assemble ps body]
  by_cases h : (assemble ps body).1 = []
  · simp only [h, List.isEmpty_nil, ↓reduceIte]
    rw [← h]
  · rw [if_neg (by simpa using h), if_neg h, assemble_append, assemble_append, assemble_text,
      assemble_text]

end Template
end FluentSql
