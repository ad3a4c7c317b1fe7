import FluentSql.Proofs.Composition
import FluentSql.Proofs.StoredValues
import Mathlib.Algebra.Group.Nat.Defs
import Mathlib.Logic.ExistsUnique
/-!
# `FluentSql.Proofs.Pages` — pages tile the rows

A page is a limit and an offset. The offset is computed in words of 64 bits by a subtraction and a
multiplication that stop at the ends of the words (`Select.rowsBefore_eq`), and both numbers are bound
behind everything else that the statement binds (`Select.assemble_page`). Numbers beyond the signed ones of
64 bits are bound as texts, so the tiling is stated of the numbers that can be read from what is bound
(`Value.rowCount?`).

* `Select.window_iff` — the arithmetic: one quotient for each row, none behind an offset that stopped;
* `Select.pages_tile` — each row on exactly one page.
-/

namespace FluentSql

open FluentSql.Number FluentSql.Text Template

/-! ## Arithmetic in words -/

/-- The greatest word. -/
def greatestWord : UInt64 := 18446744073709551615

/-- A subtraction that stops at zero. -/
def saturatingSub (a b : UInt64) : UInt64 := if a < b then 0 else a - b

/-- A multiplication that stops at the greatest word; whether it must is found by a division. -/
def saturatingMul (a b : UInt64) : UInt64 :=
  if b ≠ 0 ∧ greatestWord / b < a then greatestWord else a * b

theorem toNat_saturatingSub (a b : UInt64) : (saturatingSub a b).toNat = a.toNat - b.toNat := by
  unfold saturatingSub
  split
  · rename_i hlt
    have hnat : a.toNat < b.toNat := UInt64.lt_iff_toNat_lt.mp hlt
    show 0 = a.toNat - b.toNat
    omega
  · rename_i hle
    exact UInt64.toNat_sub_of_le a b (UInt64.not_lt.mp hle)

theorem toNat_saturatingMul (a b : UInt64) :
    (saturatingMul a b).toNat = min (2 ^ 64 - 1) (a.toNat * b.toNat) := by
  have hgreatest : greatestWord.toNat = 2 ^ 64 - 1 := rfl
  have hdiv : (greatestWord / b).toNat = (2 ^ 64 - 1) / b.toNat := UInt64.toNat_div greatestWord b
  unfold saturatingMul
  split
  · rename_i h
    have hpos : 0 < b.toNat := Nat.pos_of_ne_zero fun hzero => h.1 (UInt64.toNat_inj.mp hzero)
    have hover : (2 ^ 64 - 1) / b.toNat < a.toNat := hdiv ▸ UInt64.lt_iff_toNat_lt.mp h.2
    have hbeyond : 2 ^ 64 - 1 < a.toNat * b.toNat := (Nat.div_lt_iff_lt_mul hpos).mp hover
    rw [hgreatest]
    omega
  · rename_i h
    have hwithin : a.toNat * b.toNat ≤ 2 ^ 64 - 1 := by
      by_cases hzero : b = 0
      · rw [hzero]
        exact Nat.zero_le _
      · have hpos : 0 < b.toNat := Nat.pos_of_ne_zero fun h0 => hzero (UInt64.toNat_inj.mp h0)
        have hnot : ¬greatestWord / b < a := fun hlt => h ⟨hzero, hlt⟩
        rw [UInt64.lt_iff_toNat_lt, hdiv, Nat.div_lt_iff_lt_mul hpos] at hnot
        omega
    rw [UInt64.toNat_mul, Nat.mod_eq_of_lt (by omega)]
    omega

namespace Select

theorem toNat_rowsBefore (page perPage : UInt64) :
    (rowsBefore page perPage).toNat = min (2 ^ 64 - 1) ((page.toNat - 1) * perPage.toNat) := by
  have hsize : UInt64.size - 1 = 2 ^ 64 - 1 := rfl
  rw [rowsBefore, UInt64.toNat_ofNat', hsize, Nat.mod_eq_of_lt (by omega)]

/-- **The rows before a page** are counted in words. -/
theorem rowsBefore_eq (page perPage : UInt64) :
    rowsBefore page perPage = saturatingMul (saturatingSub page 1) perPage := by
  refine UInt64.toNat_inj.mp ?_
  rw [toNat_rowsBefore, toNat_saturatingMul, toNat_saturatingSub]
  rfl

/-- **A row is on the page of its quotient**, and on no other: an offset that stopped at the greatest word
    has every row before it. -/
theorem window_iff {perPage row : Nat} (hpos : 0 < perPage) (hrow : row < 2 ^ 64 - 1) (before : Nat) :
    (min (2 ^ 64 - 1) (before * perPage) ≤ row ∧ row < min (2 ^ 64 - 1) (before * perPage) + perPage) ↔
      before = row / perPage := by
  have hquotient : before = row / perPage ↔
      before * perPage ≤ row ∧ row < before * perPage + perPage := by
    have hsucc : (before + 1) * perPage = before * perPage + perPage := Nat.succ_mul before perPage
    rw [eq_comm, Nat.div_eq_iff hpos]
    omega
  rw [hquotient]
  omega

end Select

/-! ## Numbers of rows as values -/

/-- **The number of rows that a value says**, in either of its spellings. -/
def Value.rowCount? : Value → Option Nat
  | .int n => n.toInt.toNat?
  | .text s => (spelled? s.toList).bind Int.toNat?
  | _ => none

/-- **A number of rows is read from the value that it is bound as.** -/
theorem Value.rowCount?_ofUnsigned (n : UInt64) : (Value.ofUnsigned n).rowCount? = some n.toNat := by
  cases h : fitsSigned n with
  | true =>
    obtain ⟨hvalue, hint⟩ := ofUnsigned_of_fitsSigned h
    rw [hvalue, rowCount?, hint]
    rfl
  | false =>
    have hdigits : toString n.toNat = toString (n.toNat : Int) := rfl
    rw [ofUnsigned_of_not_fitsSigned h, rowCount?, hdigits, spelled?_toString]
    rfl

/-! ## Where a page is written and bound -/

namespace Template

/-- One part more, after others. -/
theorem joined_concat (sep : String) {ts : List Template} (h : ts ≠ []) (t : Template) :
    joined sep (ts ++ [t]) = joined sep ts ++ text sep ++ t := by
  induction ts with
  | nil => exact absurd rfl h
  | cons first ts ih =>
    cases ts with
    | nil => rfl
    | cons second ts =>
      have hrest := ih (List.cons_ne_nil second ts)
      rw [List.cons_append] at hrest
      show first ++ text sep ++ joined sep (second :: (ts ++ [t])) =
        first ++ text sep ++ joined sep (second :: ts) ++ text sep ++ t
      rw [hrest]
      simp only [List.append_assoc]

/-- **What is settled** stands as it is after something solid and a space. -/
theorem squeeze_spaced {t u : Template} {a : Symbol} (ha : a ∈ t) (hsolid : a.look = .solid)
    (hu : IsSettled u) : squeeze (t ++ text " " ++ u) = squeeze t ++ text " " ++ u := by
  have hspace : text " " = [.char ' '] := rfl
  rw [squeeze, squeeze_append, hspace, flagsAfter_blank ha hsolid rfl, hu true true, squeeze_append,
    squeeze_cons_blank rfl]
  simp [squeeze]

theorem isSettled_rowCountTemplate (keyword : String)
    (h : keyword.toList.all (fun c => !isBlank c) = true) (hne : keyword.toList ≠ [])
    (table name : String) (n : UInt64) :
    IsSettled (rowCountTemplate keyword table name n) := by
  have hslot : IsSettled [Symbol.slot table name (.ofUnsigned n)] :=
    isSettled_word (fun a ha => by rw [List.mem_singleton.mp ha]; rfl) (List.cons_ne_nil _ _)
  have hword : ∀ a ∈ keyword.toList.map Symbol.char, a.look = .solid := by
    intro a ha
    obtain ⟨c, hc, rfl⟩ := List.mem_map.mp ha
    exact charLook_of_all h c hc
  have htext : rowCountTemplate keyword table name n =
      keyword.toList.map Symbol.char ++ .char ' ' :: [.slot table name (.ofUnsigned n)] := by
    rw [rowCountTemplate, text, String.toList_append, List.map_append, List.append_assoc]
    rfl
  rw [htext]
  exact IsSettled.spaced rfl hslot hword (by simpa using hne)

end Template

namespace Select

/-- The statement without a limit and an offset. -/
def unpaged (q : Select) : Select := { q with limit := none, offset := none }

/-- **The parts of a statement**, of which the limit and the offset are the last ones; the first one shows
    a keyword. -/
theorem exists_parts (st : Style) {q : Select} (hq : q.table.isEmpty = false) :
    ∃ parts : List Template, parts ≠ [] ∧ (∃ a ∈ joined " " parts, a.look = .solid) ∧
      q.unpaged.template st = squeeze (joined " " parts) ∧
      ∀ page perPage, (q.page page perPage).template st =
        squeeze (joined " " (parts ++ [rowCountTemplate "LIMIT" q.table "limit" perPage]
          ++ [rowCountTemplate "OFFSET" q.table "offset" (rowsBefore page perPage)])) := by
  obtain ⟨table, called, columns, distinct, joins, ⟨conditions, inConditions⟩, groups, havings,
    orders, aggregates, unions, limit, offset, inTable⟩ := q
  have hset : ¬table.isEmpty = true := Bool.not_eq_true _ ▸ hq
  obtain ⟨rest, hrest⟩ := selectListSql_eq_cons st table called columns distinct aggregates
  refine ⟨[text (selectListSql st table called columns distinct aggregates), text (joins.sql st table),
      headed "WHERE" (Conditions.templateFrom st .wheres table false conditions), text (groups.sql st),
      headed "HAVING" (Conditions.templateFrom st .having table false havings), text (orders.sql st)]
    ++ branchTemplates st unions, by simp, ⟨.char 'S', ?_, rfl⟩, ?_, fun page perPage => ?_⟩
  · have hlist : Symbol.char 'S' ∈ text (selectListSql st table called columns distinct aggregates) := by
      rw [text, hrest]
      exact List.mem_cons_self
    exact (infix_joined List.mem_cons_self List.infix_rfl).subset hlist
  · simp only [unpaged, Select.template]
    rw [if_neg hset]
    simp
  · simp only [Select.page, take, skip, Select.template]
    rw [if_neg hset]
    rfl

/-- **A page is written behind the rest of the statement.** -/
theorem template_page (st : Style) {q : Select} (hq : q.table.isEmpty = false) (page perPage : UInt64) :
    (q.page page perPage).template st =
      q.unpaged.template st ++ text " " ++ rowCountTemplate "LIMIT" q.table "limit" perPage
        ++ text " " ++ rowCountTemplate "OFFSET" q.table "offset" (rowsBefore page perPage) := by
  obtain ⟨parts, hparts, ⟨a, ha, hsolid⟩, hunpaged, hpage⟩ := exists_parts st hq
  have hlimit := isSettled_rowCountTemplate "LIMIT" (by decide) (by decide) q.table "limit" perPage
  have hoffset := isSettled_rowCountTemplate "OFFSET" (by decide) (by decide) q.table "offset"
    (rowsBefore page perPage)
  have hstill : a ∈ joined " " parts ++ text " "
      ++ rowCountTemplate "LIMIT" q.table "limit" perPage := by
    simp [ha]
  rw [hpage, hunpaged, joined_concat " " (by simp), joined_concat " " hparts,
    squeeze_spaced hstill hsolid hoffset, squeeze_spaced ha hsolid hlimit]

theorem assemble_rowCountTemplate (ps : Params) (keyword table name : String) (n : UInt64) :
    assemble ps (rowCountTemplate keyword table name n) =
      (keyword.toList ++ ' ' :: (ps.bind table name (.ofUnsigned n)).1.toList,
        (ps.bind table name (.ofUnsigned n)).2) := by
  rw [rowCountTemplate, assemble_append, assemble_text]
  simp [assemble, place]

/-- **A page is bound behind the rest of the statement.** -/
theorem assemble_page (st : Style) {q : Select} (hq : q.table.isEmpty = false) (ps : Params)
    (page perPage : UInt64) :
    ∃ limit offset : String,
      (assemble ps ((q.page page perPage).template st)).1 =
        (assemble ps (q.unpaged.template st)).1
          ++ (" LIMIT " ++ limit ++ " OFFSET " ++ offset).toList ∧
      (assemble ps ((q.page page perPage).template st)).2.entries =
        (assemble ps (q.unpaged.template st)).2.entries
          ++ [(limit, .ofUnsigned perPage), (offset, .ofUnsigned (rowsBefore page perPage))] := by
  rw [template_page st hq]
  simp only [assemble_append, assemble_text, assemble_rowCountTemplate]
  generalize assemble ps (q.unpaged.template st) = rest
  generalize hlimit : rest.2.bind q.table "limit" (.ofUnsigned perPage) = limit
  generalize hoffset : limit.2.bind q.table "offset" (.ofUnsigned (rowsBefore page perPage)) = offset
  refine ⟨limit.1, offset.1, by simp [String.toList_append], ?_⟩
  rw [← hoffset, Params.entries_bind, hoffset, ← hlimit, Params.entries_bind, hlimit, List.append_assoc]
  rfl

/-! ## Rows and pages -/

/-- **A row is on a page** by the two values that the page binds, read as exact numbers. -/
def PageHolds (st : Style) (q : Select) (ps : Params) (page perPage : UInt64) (row : Nat) : Prop :=
  ∃ (front : List (String × Value)) (limit offset : String × Value) (most before : Nat),
    (assemble ps ((q.page page perPage).template st)).2.entries = front ++ [limit, offset] ∧
    limit.2.rowCount? = some most ∧ offset.2.rowCount? = some before ∧
    before ≤ row ∧ row < before + most

theorem pageHolds_iff (st : Style) {q : Select} (hq : q.table.isEmpty = false) (ps : Params)
    {page perPage : UInt64} {row : Nat} (hpos : 1 ≤ perPage) (hrow : row < 2 ^ 64 - 1) :
    PageHolds st q ps page perPage row ↔ page.toNat - 1 = row / perPage.toNat := by
  have hposNat : 0 < perPage.toNat := UInt64.le_iff_toNat_le.mp hpos
  rw [← window_iff hposNat hrow]
  obtain ⟨limit, offset, -, hentries⟩ := assemble_page st hq ps page perPage
  constructor
  · rintro ⟨front, limit', offset', most, before, hentries', hmost, hbefore, hle, hlt⟩
    rw [hentries] at hentries'
    obtain ⟨-, hlast⟩ := List.append_inj' hentries' rfl
    obtain ⟨rfl, rfl⟩ : (limit, Value.ofUnsigned perPage) = limit' ∧
        (offset, Value.ofUnsigned (rowsBefore page perPage)) = offset' := by simpa using hlast
    rw [Value.rowCount?_ofUnsigned, Option.some.injEq] at hmost hbefore
    rw [toNat_rowsBefore] at hbefore
    omega
  · intro hwindow
    refine ⟨_, _, _, _, _, hentries, Value.rowCount?_ofUnsigned perPage,
      Value.rowCount?_ofUnsigned (rowsBefore page perPage), ?_⟩
    rw [toNat_rowsBefore]
    exact hwindow

/-- **Pages tile the rows**, for any parameters that there are already. A page of a statement with a table
    — without one, nothing is written — is written at its end, as a limit and an offset under names of
    their own, and these are the last two parameters; the numbers that are read from them are the size of
    the page and the rows before it, exactly as far as they fit into 64 bits. So if pages have rows at
    all, each row below the greatest word is on exactly one page. Page zero is the first page, and the
    rows before a page are counted without leaving the words. -/
theorem pages_tile (st : Style) (q : Select) (ps : Params) :
    (q.table.isEmpty = false →
      (∀ page perPage, ∃ limit offset : String,
        (assemble ps ((q.page page perPage).template st)).1 =
          (assemble ps (q.unpaged.template st)).1
            ++ (" LIMIT " ++ limit ++ " OFFSET " ++ offset).toList ∧
        (assemble ps ((q.page page perPage).template st)).2.entries =
          (assemble ps (q.unpaged.template st)).2.entries
            ++ [(limit, .ofUnsigned perPage), (offset, .ofUnsigned (rowsBefore page perPage))] ∧
        (Value.ofUnsigned perPage).rowCount? = some perPage.toNat ∧
        (Value.ofUnsigned (rowsBefore page perPage)).rowCount? =
          some (min (2 ^ 64 - 1) ((page.toNat - 1) * perPage.toNat))) ∧
      ∀ perPage : UInt64, 1 ≤ perPage → ∀ row < 2 ^ 64 - 1,
        ∃! page : UInt64, 1 ≤ page ∧ PageHolds st q ps page perPage row) ∧
    (∀ perPage, q.page 0 perPage = q.page 1 perPage) ∧
    ∀ page perPage,
      rowsBefore page perPage = saturatingMul (saturatingSub page 1) perPage ∧
      (saturatingSub page 1).toNat = page.toNat - 1 ∧
      (saturatingMul (saturatingSub page 1) perPage).toNat =
        min (2 ^ 64 - 1) ((page.toNat - 1) * perPage.toNat) := by
  refine ⟨fun hq => ⟨fun page perPage => ?bound, fun perPage hpos row hrow => ?tiled⟩,
    fun perPage => ?first, fun page perPage => ?words⟩
  case bound =>
    obtain ⟨limit, offset, htext, hentries⟩ := assemble_page st hq ps page perPage
    refine ⟨limit, offset, htext, hentries, Value.rowCount?_ofUnsigned perPage, ?_⟩
    rw [Value.rowCount?_ofUnsigned, toNat_rowsBefore]
  case tiled =>
    have hholds : ∀ page, PageHolds st q ps page perPage row ↔ page.toNat - 1 = row / perPage.toNat :=
      fun page => pageHolds_iff st hq ps hpos hrow
    have hbefore : row / perPage.toNat ≤ row := Nat.div_le_self _ _
    generalize row / perPage.toNat = before at hholds hbefore
    -- the quotient is below the greatest word, so the number after it is a word
    have hpage : (UInt64.ofNat (before + 1)).toNat = before + 1 := by
      rw [UInt64.toNat_ofNat', Nat.mod_eq_of_lt (by omega)]
    refine ⟨UInt64.ofNat (before + 1), ⟨?_, ?_⟩, ?_⟩
    · rw [UInt64.le_iff_toNat_le, hpage]
      exact Nat.succ_le_succ (Nat.zero_le _)
    · rw [hholds, hpage]
      exact Nat.add_sub_cancel before 1
    · rintro page ⟨hone, hon⟩
      rw [hholds] at hon
      have honeNat : 1 ≤ page.toNat := UInt64.le_iff_toNat_le.mp hone
      refine UInt64.toNat_inj.mp ?_
      rw [hpage]
      omega
  case first =>
    have hrows : rowsBefore 0 perPage = rowsBefore 1 perPage := by
      refine UInt64.toNat_inj.mp ?_
      rw [toNat_rowsBefore, toNat_rowsBefore]
      rfl
    rw [page, page, hrows]
  case words =>
    refine ⟨rowsBefore_eq page perPage, toNat_saturatingSub page 1, ?_⟩
    rw [← rowsBefore_eq, toNat_rowsBefore]

/-- The last row of all, on the second of two halves: its size and the rows before it are both bound as
    texts, and the offset of the third page has stopped at the greatest word. -/
theorem pages_tile_halves :
    (Select.empty.target "users").table.isEmpty = false ∧ (1 : UInt64) ≤ 9223372036854775808 ∧
    (18446744073709551614 : Nat) < 2 ^ 64 - 1 ∧
    ∃! page : UInt64, 1 ≤ page ∧
      PageHolds ⟨.sqlite, .english⟩ (Select.empty.target "users") .empty page 9223372036854775808
        18446744073709551614 :=
  ⟨by decide, by decide, by decide,
    ((pages_tile ⟨.sqlite, .english⟩ (Select.empty.target "users") .empty).1 (by decide)).2
      9223372036854775808 (by decide) 18446744073709551614 (by decide)⟩

end Select
end FluentSql
