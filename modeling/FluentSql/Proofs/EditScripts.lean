import FluentSql.Text.EditDistance
/-!
# `FluentSql.Proofs.EditScripts` — the edit distance is the least number of edits

An edit inserts, deletes or replaces one character, anywhere in a word. The rows of `editDistance` never
see an edit: they are numbers, computed from the numbers of the row before. What an entry counts is said in
two steps. It is the value of a recursion on the characters of two words (`leastEdits`), and that value is
the least number of edits that lead from one word to the other.

* `leastEdits_le_of_edit` — one edit changes the number by one at most, wherever it is made;
* `editDistance_eq` — the last entry of the last row;
* `isEditDistance_editDistance` — so many edits are enough, and fewer are not.
-/

namespace FluentSql.Text

/-! ## Edits -/

/-- **One edit** of a word, at any place. -/
inductive Edit : List Char → List Char → Prop where
  | insert (before after : List Char) (c : Char) : Edit (before ++ after) (before ++ c :: after)
  | delete (before after : List Char) (c : Char) : Edit (before ++ c :: after) (before ++ after)
  | replace (before after : List Char) (c d : Char) :
      Edit (before ++ c :: after) (before ++ d :: after)

/-- **So many edits lead** from one word to another, one after the other. -/
inductive Edits : Nat → List Char → List Char → Prop where
  | none (s : List Char) : Edits 0 s s
  | more {n : Nat} {s t u : List Char} (first : Edit s t) (rest : Edits n t u) : Edits (n + 1) s u

/-- **So many edits are enough** to lead from one word to another, and fewer are not. -/
structure IsEditDistance (s t : List Char) (n : Nat) : Prop where
  enough : Edits n s t
  least : ∀ m, Edits m s t → n ≤ m

variable {s t : List Char} {m n : Nat}

/-- An edit behind one more character. -/
theorem Edit.cons (h : Edit s t) (c : Char) : Edit (c :: s) (c :: t) := by
  cases h with
  | insert before after d => exact .insert (c :: before) after d
  | delete before after d => exact .delete (c :: before) after d
  | replace before after d e => exact .replace (c :: before) after d e

/-- The same edit from the other end. -/
theorem Edit.reverse (h : Edit s t) : Edit s.reverse t.reverse := by
  cases h with
  | insert before after c => simpa using Edit.insert after.reverse before.reverse c
  | delete before after c => simpa using Edit.delete after.reverse before.reverse c
  | replace before after c d => simpa using Edit.replace after.reverse before.reverse c d

theorem Edits.cons (h : Edits n s t) (c : Char) : Edits n (c :: s) (c :: t) := by
  induction h with
  | none s => exact .none (c :: s)
  | more first _ ih => exact .more (first.cons c) ih

theorem Edits.reverse (h : Edits n s t) : Edits n s.reverse t.reverse := by
  induction h with
  | none s => exact .none s.reverse
  | more first _ ih => exact .more first.reverse ih

/-- Of two numbers of edits the smaller one is a number of edits. -/
theorem Edits.fewer (hm : Edits m s t) (hn : Edits n s t) : Edits (min m n) s t := by
  rcases Nat.le_total m n with h | h
  · rwa [Nat.min_eq_left h]
  · rwa [Nat.min_eq_right h]

/-- The distance of two words is that of the words read backwards. -/
theorem IsEditDistance.of_reverse (h : IsEditDistance s.reverse t.reverse n) : IsEditDistance s t n := by
  constructor
  · have hback := h.enough.reverse
    rwa [List.reverse_reverse, List.reverse_reverse] at hback
  · exact fun m hm => h.least m hm.reverse

/-! ## The least number, by the first characters -/

/-- **The least number of edits**: the first character of the first word is deleted, that of the second
    word is inserted, or one is replaced by the other unless they are equal. -/
def leastEdits : List Char → List Char → Nat
  | [], t => t.length
  | c :: s, [] => s.length + 1
  | c :: s, d :: t =>
    min (min (leastEdits (c :: s) t + 1) (leastEdits s (d :: t) + 1))
      (leastEdits s t + if c = d then 0 else 1)

theorem leastEdits_nil_left (t : List Char) : leastEdits [] t = t.length := by
  rw [leastEdits]

theorem leastEdits_nil_right (s : List Char) : leastEdits s [] = s.length := by
  cases s with
  | nil => exact leastEdits_nil_left []
  | cons c s => rw [leastEdits, List.length_cons]

/-- So many edits are enough. -/
theorem edits_leastEdits (s t : List Char) : Edits (leastEdits s t) s t := by
  fun_induction leastEdits s t with
  | case1 t =>
    induction t with
    | nil => exact .none []
    | cons d t ih => exact .more (.insert [] [] d) (ih.cons d)
  | case2 c s =>
    induction s generalizing c with
    | nil => exact .more (.delete [] [] c) (.none [])
    | cons d s ih => exact .more (.delete [] (d :: s) c) (ih d)
  | case3 c s d t hinsert hdelete hreplace =>
    have hinserted : Edits (leastEdits (c :: s) t + 1) (c :: s) (d :: t) :=
      .more (.insert [] (c :: s) d) (hinsert.cons d)
    have hdeleted : Edits (leastEdits s (d :: t) + 1) (c :: s) (d :: t) :=
      .more (.delete [] s c) hdelete
    have hreplaced : Edits (leastEdits s t + if c = d then 0 else 1) (c :: s) (d :: t) := by
      by_cases hcd : c = d
      · rw [if_pos hcd, hcd]
        exact hreplace.cons d
      · rw [if_neg hcd]
        exact .more (.replace [] s c d) (hreplace.cons d)
    exact (hinserted.fewer hdeleted).fewer hreplaced

theorem leastEdits_self (s : List Char) : leastEdits s s = 0 := by
  induction s with
  | nil => exact leastEdits_nil_left []
  | cons c s ih =>
    rw [leastEdits, if_pos rfl, ih]
    exact Nat.min_zero _

/-! ## One edit more or less -/

/-- A character more in the second word costs an insertion at most. -/
theorem leastEdits_cons_right_le (s t : List Char) (d : Char) :
    leastEdits s (d :: t) ≤ leastEdits s t + 1 := by
  cases s with
  | nil =>
    rw [leastEdits_nil_left, leastEdits_nil_left]
    exact Nat.le_refl _
  | cons c s =>
    rw [leastEdits]
    omega

/-- A character more in the first word costs a deletion at most. -/
theorem leastEdits_cons_left_le (s t : List Char) (c : Char) :
    leastEdits (c :: s) t ≤ leastEdits s t + 1 := by
  cases t with
  | nil =>
    rw [leastEdits_nil_right, leastEdits_nil_right]
    exact Nat.le_refl _
  | cons d t =>
    rw [leastEdits]
    omega

/-- A character less in the first word costs an insertion at most. -/
theorem leastEdits_le_cons_left (s t : List Char) (c : Char) :
    leastEdits s t ≤ leastEdits (c :: s) t + 1 := by
  induction t with
  | nil =>
    rw [leastEdits_nil_right, leastEdits]
    omega
  | cons d t ih =>
    have hright := leastEdits_cons_right_le s t d
    rw [leastEdits]
    omega

/-- Another first character costs a replacement at most. -/
theorem leastEdits_cons_le_cons (s t : List Char) (c d : Char) :
    leastEdits (c :: s) t ≤ leastEdits (d :: s) t + 1 := by
  induction t with
  | nil =>
    rw [leastEdits, leastEdits]
    exact Nat.le_succ _
  | cons e t ih =>
    have hreplaced : (if c = e then 0 else 1) ≤ 1 + if d = e then 0 else 1 := by
      split <;> omega
    rw [leastEdits, leastEdits]
    omega

/-- What costs one at most, costs one at most behind a common character. -/
theorem leastEdits_cons_congr (h : ∀ u, leastEdits s u ≤ leastEdits t u + 1) (c : Char) (u : List Char) :
    leastEdits (c :: s) u ≤ leastEdits (c :: t) u + 1 := by
  induction u with
  | nil =>
    have hnil := h []
    rw [leastEdits_nil_right, leastEdits_nil_right] at hnil
    rw [leastEdits, leastEdits]
    omega
  | cons d u ih =>
    have hlong := h (d :: u)
    have hshort := h u
    rw [leastEdits, leastEdits]
    omega

/-- What costs one at most, costs one at most behind common characters. -/
theorem leastEdits_append_congr (h : ∀ u, leastEdits s u ≤ leastEdits t u + 1) (before : List Char) :
    ∀ u, leastEdits (before ++ s) u ≤ leastEdits (before ++ t) u + 1 := by
  induction before with
  | nil => exact h
  | cons c before ih => exact leastEdits_cons_congr ih c

/-- **One edit changes the number by one at most**, wherever it is made. -/
theorem leastEdits_le_of_edit (h : Edit s t) (u : List Char) : leastEdits s u ≤ leastEdits t u + 1 := by
  cases h with
  | insert before after c =>
    exact leastEdits_append_congr (fun u => leastEdits_le_cons_left after u c) before u
  | delete before after c =>
    exact leastEdits_append_congr (fun u => leastEdits_cons_left_le after u c) before u
  | replace before after c d =>
    exact leastEdits_append_congr (fun u => leastEdits_cons_le_cons after u c d) before u

/-- **Fewer edits are not enough.** -/
theorem leastEdits_le_of_edits (h : Edits n s t) : leastEdits s t ≤ n := by
  induction h with
  | none s => exact Nat.le_of_eq (leastEdits_self s)
  | more first _ ih => exact Nat.le_trans (leastEdits_le_of_edit first _) (Nat.succ_le_succ ih)

theorem isEditDistance_leastEdits (s t : List Char) : IsEditDistance s t (leastEdits s t) :=
  ⟨edits_leastEdits s t, fun _ h => leastEdits_le_of_edits h⟩

/-! ## Rows -/

/-- **A row of distances**: from `s` to what is read of a word, and to what is read after every further
    character of it. Both words are backwards here, so that a character is added in front. -/
def distancesFrom (s read : List Char) : List Char → List Nat
  | [] => [leastEdits s read]
  | d :: word => leastEdits s read :: distancesFrom s (d :: read) word

/-- The first row: the distances from the empty word are lengths. -/
theorem distancesFrom_nil (read word : List Char) :
    distancesFrom [] read word = List.range' read.length (word.length + 1) := by
  induction word generalizing read with
  | nil =>
    rw [distancesFrom, leastEdits_nil_left]
    rfl
  | cons d word ih =>
    rw [distancesFrom, leastEdits_nil_left, ih]
    rfl

/-- The entry for a word that is not read further. -/
theorem getLastD_distancesFrom (s read word : List Char) :
    (distancesFrom s read word).getLastD 0 = leastEdits s (word.reverse ++ read) := by
  induction word generalizing read with
  | nil => rfl
  | cons d word ih =>
    have hrest := ih (d :: read)
    rw [List.reverse_cons, List.append_assoc, List.singleton_append, ← hrest, distancesFrom]
    cases word <;> rfl

/-- **The rest of the next row**, from the entries to the left, above and across. -/
theorem nextEntries_distancesFrom (c : Char) (s read word : List Char) :
    leastEdits (c :: s) read ::
        nextEntries c (leastEdits (c :: s) read) (leastEdits s read) word
          (distancesFrom s read word).tail =
      distancesFrom (c :: s) read word := by
  induction word generalizing read with
  | nil => rfl
  | cons d word ih =>
    have habove : (distancesFrom s read (d :: word)).tail =
        leastEdits s (d :: read) :: (distancesFrom s (d :: read) word).tail := by
      cases word <;> rfl
    rw [habove, nextEntries, ← leastEdits, ih, ← distancesFrom]

/-- **The next row** is the row of the word with one more character. -/
theorem nextRow_distancesFrom (c : Char) (s word : List Char) :
    nextRow c word (distancesFrom s [] word) = distancesFrom (c :: s) [] word := by
  have hrow : distancesFrom s [] word = leastEdits s [] :: (distancesFrom s [] word).tail := by
    cases word <;> rfl
  have hfirst : leastEdits s [] + 1 = leastEdits (c :: s) [] := by
    rw [leastEdits_nil_right, leastEdits]
  rw [hrow, nextRow, hfirst, nextEntries_distancesFrom]

/-- The rows of one character after the other. -/
theorem foldl_nextRow (s read word : List Char) :
    s.foldl (fun row c => nextRow c word row) (distancesFrom read [] word) =
      distancesFrom (s.reverse ++ read) [] word := by
  induction s generalizing read with
  | nil => rfl
  | cons c s ih =>
    rw [List.foldl_cons, nextRow_distancesFrom, ih, List.reverse_cons, List.append_assoc]
    rfl

/-- **The last entry of the last row.** -/
theorem editDistance_eq (s t : List Char) : editDistance s t = leastEdits s.reverse t.reverse := by
  have hfirst : List.range (t.length + 1) = distancesFrom [] [] t := by
    rw [distancesFrom_nil, List.range_eq_range']
    rfl
  rw [editDistance, hfirst, foldl_nextRow, getLastD_distancesFrom, List.append_nil, List.append_nil]

/-- **The edit distance** is the least number of edits that lead from one word to the other. -/
theorem isEditDistance_editDistance (s t : List Char) : IsEditDistance s t (editDistance s t) := by
  apply IsEditDistance.of_reverse
  rw [editDistance_eq]
  exact isEditDistance_leastEdits s.reverse t.reverse

/-- **No edits** lead from a word to itself only. -/
theorem editDistance_eq_zero_iff : editDistance s t = 0 ↔ s = t := by
  constructor
  · intro h
    have henough := (isEditDistance_editDistance s t).enough
    rw [h] at henough
    cases henough
    rfl
  · rintro rfl
    exact Nat.le_zero.mp ((isEditDistance_editDistance s s).least 0 (.none s))

end FluentSql.Text
