/-!
# `FluentSql.Text.Split` — text in segments

`splitAt` cuts a text at every occurrence of a separator, `joinWith` puts segments together again.
There is always at least one segment, and `joinWith_splitAt` says that no character is lost.
-/

namespace FluentSql.Text

/-- **The segments** between the separators. -/
def splitAt (sep : Char) : List Char → List (List Char)
  | [] => [[]]
  | c :: cs =>
    if c = sep then [] :: splitAt sep cs
    else
      match splitAt sep cs with
      | [] => [[c]]
      | segment :: segments => (c :: segment) :: segments

/-- **Segments joined** by a separator. -/
def joinWith (sep : Char) : List (List Char) → List Char
  | [] => []
  | [segment] => segment
  | segment :: segments => segment ++ sep :: joinWith sep segments

theorem splitAt_ne_nil (sep : Char) (cs : List Char) : splitAt sep cs ≠ [] := by
  cases cs with
  | nil => simp [splitAt]
  | cons c cs =>
    by_cases h : c = sep
    · simp [splitAt, h]
    · cases hs : splitAt sep cs <;> simp [splitAt, h, hs]

theorem joinWith_cons_of_ne_nil (sep : Char) (segment : List Char) {segments : List (List Char)}
    (h : segments ≠ []) :
    joinWith sep (segment :: segments) = segment ++ sep :: joinWith sep segments := by
  cases segments with
  | nil => exact absurd rfl h
  | cons _ _ => rfl

/-- **Nothing is lost** by cutting a text into segments. -/
theorem joinWith_splitAt (sep : Char) (cs : List Char) : joinWith sep (splitAt sep cs) = cs := by
  induction cs with
  | nil => rfl
  | cons c cs ih =>
    by_cases h : c = sep
    · rw [splitAt, if_pos h, joinWith_cons_of_ne_nil sep [] (splitAt_ne_nil sep cs), ih, h]
      rfl
    · cases hs : splitAt sep cs with
      | nil => exact absurd hs (splitAt_ne_nil sep cs)
      | cons segment segments =>
        rw [hs] at ih
        cases segments with
        | nil => simpa [splitAt, h, hs, joinWith] using ih
        | cons next more =>
          simp only [splitAt, if_neg h, hs]
          rw [joinWith_cons_of_ne_nil sep _ (by simp)] at ih ⊢
          simp [← ih]

/-- No segment holds the separator. -/
theorem not_mem_of_mem_splitAt {sep : Char} {cs segment : List Char}
    (h : segment ∈ splitAt sep cs) : sep ∉ segment := by
  induction cs generalizing segment with
  | nil => simp_all [splitAt]
  | cons c cs ih =>
    by_cases hc : c = sep
    · rw [splitAt, if_pos hc, List.mem_cons] at h
      rcases h with rfl | h
      · simp
      · exact ih h
    · cases hs : splitAt sep cs with
      | nil => exact absurd hs (splitAt_ne_nil sep cs)
      | cons first more =>
        simp only [splitAt, if_neg hc, hs, List.mem_cons] at h ih
        rcases h with rfl | h
        · simpa [Ne.symm hc] using ih (Or.inl rfl)
        · exact ih (Or.inr h)

/-- The last segment: what follows the last separator. -/
def lastSegment (sep : Char) (s : String) : String :=
  String.ofList ((splitAt sep s.toList).getLastD [])

end FluentSql.Text
