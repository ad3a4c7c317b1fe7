import FluentSql.Proofs.EditScripts
import FluentSql.Suggestion
/-!
# `FluentSql.Proofs.Suggestions` — which name is suggested

Among the candidates within the limit the one with the fewest edits is suggested, and of several the
earliest (`Suggestion.IsFirstNearest`). The search carries the best of the candidates behind the one that it
looks at; what it finds in the end is said without it.

* `closest?_eq_some_iff`, `closest?_eq_none_iff` — what is suggested, and when nothing is;
* `nearest_filter` — candidates beyond the limit are as good as not there;
* `suggests_first_nearest` — both, with the distance as a least number of edits.
-/

namespace FluentSql.Suggestion

open FluentSql.Text

variable {name c d : String} {candidates : List String}

/-! ## Limit and distance -/

/-- **Which numbers of edits are within the limit**: one, and all up to half of the characters. -/
theorem le_limit_iff (name : String) (n : Nat) : n ≤ limit name ↔ n ≤ 1 ∨ 2 * n ≤ name.length + 1 := by
  have hlength : name.toList.length = name.length := String.length_toList
  rw [limit, hlength]
  omega

/-- The distance is the least number of edits between the names in small letters. -/
theorem isEditDistance_distance (name c : String) :
    IsEditDistance (asciiLower name).toList (asciiLower c).toList (distance name c) :=
  isEditDistance_editDistance _ _

/-- **No edits** are between names that are equal up to ASCII case, and between no others. -/
theorem distance_eq_zero_iff : distance name c = 0 ↔ equalIgnoringAsciiCase name c = true := by
  rw [distance, editDistance_eq_zero_iff, String.toList_inj, equalIgnoringAsciiCase, beq_iff_eq]

/-! ## The first of the nearest -/

/-- **The earliest of the nearest candidates** within the limit. -/
def IsFirstNearest (name : String) (candidates : List String) (c : String) : Prop :=
  ∃ before after, candidates = before ++ c :: after ∧ distance name c ≤ limit name ∧
    (∀ d ∈ before, distance name c < distance name d) ∧ ∀ d ∈ after, distance name c ≤ distance name d

theorem IsFirstNearest.mem (h : IsFirstNearest name candidates c) : c ∈ candidates := by
  obtain ⟨before, after, rfl, -⟩ := h
  exact List.mem_append_right before List.mem_cons_self

theorem IsFirstNearest.distance_le_limit (h : IsFirstNearest name candidates c) :
    distance name c ≤ limit name := by
  obtain ⟨-, -, -, hwithin, -⟩ := h
  exact hwithin

/-- There is one earliest of the nearest. -/
theorem IsFirstNearest.unique (hc : IsFirstNearest name candidates c)
    (hd : IsFirstNearest name candidates d) : c = d := by
  obtain ⟨front, back, rfl, -, hfront, hback⟩ := hc
  obtain ⟨front', back', heq, -, hfront', hback'⟩ := hd
  -- the places are the same, or one candidate stands before the other and is nearer, and is not
  rcases List.append_eq_append_iff.mp heq with ⟨between, rfl, htail⟩ | ⟨between, rfl, htail⟩
  · cases between with
    | nil => exact (List.cons.inj htail).1
    | cons e between =>
      obtain ⟨rfl, rfl⟩ := List.cons.inj htail
      have hlt := hfront' c (List.mem_append_right _ List.mem_cons_self)
      have hle := hback d (List.mem_append_right _ List.mem_cons_self)
      exact absurd hlt (Nat.not_lt.mpr hle)
  · cases between with
    | nil => exact (List.cons.inj htail).1.symm
    | cons e between =>
      obtain ⟨rfl, rfl⟩ := List.cons.inj htail
      have hlt := hfront d (List.mem_append_right _ List.mem_cons_self)
      have hle := hback' c (List.mem_append_right _ List.mem_cons_self)
      exact absurd hlt (Nat.not_lt.mpr hle)

/-- A candidate that is not beaten by those behind it. -/
theorem IsFirstNearest.head (hc : distance name c ≤ limit name)
    (hrest : ∀ d ∈ candidates, distance name c ≤ distance name d) :
    IsFirstNearest name (c :: candidates) c :=
  ⟨[], candidates, rfl, hc, fun _ h => absurd h List.not_mem_nil, hrest⟩

/-- A candidate that is farther away does not count. -/
theorem IsFirstNearest.cons (h : IsFirstNearest name candidates d)
    (hlt : distance name d < distance name c) : IsFirstNearest name (c :: candidates) d := by
  obtain ⟨before, after, rfl, hd, hbefore, hafter⟩ := h
  refine ⟨c :: before, after, rfl, hd, fun e he => ?_, hafter⟩
  rcases List.mem_cons.mp he with rfl | hmem
  · exact hlt
  · exact hbefore e hmem

/-- The earliest of the nearest is as near as any candidate. -/
theorem IsFirstNearest.distance_le (h : IsFirstNearest name candidates c) (hd : d ∈ candidates) :
    distance name c ≤ distance name d := by
  obtain ⟨before, after, rfl, -, hbefore, hafter⟩ := h
  rcases List.mem_append.mp hd with hmem | hmem
  · exact Nat.le_of_lt (hbefore d hmem)
  · rcases List.mem_cons.mp hmem with rfl | hmem
    · exact Nat.le_refl _
    · exact hafter d hmem

/-! ## The search -/

/-- **What a search may find**: nothing if all candidates are beyond the limit, else the earliest of the
    nearest with its distance. -/
inductive Finds (name : String) (candidates : List String) : Option (Nat × String) → Prop where
  | nothing (far : ∀ d ∈ candidates, limit name < distance name d) : Finds name candidates none
  | best {n : Nat} {c : String} (hn : n = distance name c) (first : IsFirstNearest name candidates c) :
      Finds name candidates (some (n, c))

theorem finds_nearest (name : String) (candidates : List String) :
    Finds name candidates (nearest name candidates) := by
  induction candidates with
  | nil =>
    rw [nearest]
    exact .nothing fun d hd => absurd hd List.not_mem_nil
  | cons c rest ih =>
    rw [nearest]
    cases hrest : nearest name rest with
    | none =>
      rw [hrest] at ih
      obtain ⟨hfar⟩ := ih
      by_cases hc : distance name c ≤ limit name
      · simp only [if_pos hc]
        exact .best rfl (.head hc fun d hd => Nat.le_trans hc (Nat.le_of_lt (hfar d hd)))
      · simp only [if_neg hc]
        refine .nothing fun d hd => ?_
        rcases List.mem_cons.mp hd with rfl | hmem
        · exact Nat.lt_of_not_le hc
        · exact hfar d hmem
    | some best =>
      obtain ⟨n, other⟩ := best
      have hwithin : n ≤ limit name := nearest_le_limit hrest
      rw [hrest] at ih
      cases ih with
      | best hn hother =>
        by_cases hc : distance name c ≤ n
        · simp only [if_pos hc]
          refine .best rfl (.head (Nat.le_trans hc hwithin) fun d hd => ?_)
          have hle : distance name other ≤ distance name d := hother.distance_le hd
          omega
        · simp only [if_neg hc]
          exact .best hn (hother.cons (by omega))

/-- **Nothing is suggested** exactly if every candidate is beyond the limit. -/
theorem closest?_eq_none_iff :
    closest? name candidates = none ↔ ∀ d ∈ candidates, limit name < distance name d := by
  have hfound := finds_nearest name candidates
  rw [closest?]
  generalize nearest name candidates = found at hfound ⊢
  cases hfound with
  | nothing far => exact ⟨fun _ => far, fun _ => rfl⟩
  | best hn first =>
    constructor
    · intro h
      cases h
    · intro hfar
      exact absurd first.distance_le_limit (Nat.not_le.mpr (hfar _ first.mem))

/-- **What is suggested** is the earliest of the nearest candidates within the limit. -/
theorem closest?_eq_some_iff : closest? name candidates = some c ↔ IsFirstNearest name candidates c := by
  have hfound := finds_nearest name candidates
  rw [closest?]
  generalize nearest name candidates = found at hfound ⊢
  cases hfound with
  | nothing far =>
    constructor
    · intro h
      cases h
    · intro h
      exact absurd h.distance_le_limit (Nat.not_le.mpr (far c h.mem))
  | best hn first =>
    constructor
    · intro h
      cases h
      exact first
    · intro h
      exact congrArg some (first.unique h)

/-- A candidate beyond the limit is passed over. -/
theorem nearest_cons_of_far (h : limit name < distance name c) :
    nearest name (c :: candidates) = nearest name candidates := by
  rw [nearest]
  cases hrest : nearest name candidates with
  | none => exact if_neg (Nat.not_le.mpr h)
  | some best =>
    have hwithin : best.1 ≤ limit name := nearest_le_limit hrest
    exact if_neg (Nat.not_le.mpr (Nat.lt_of_le_of_lt hwithin h))

/-- **Candidates beyond the limit** are as good as not there. -/
theorem nearest_filter (name : String) (candidates : List String) :
    nearest name (candidates.filter fun d => distance name d ≤ limit name) = nearest name candidates := by
  induction candidates with
  | nil => rfl
  | cons c candidates ih =>
    by_cases hc : distance name c ≤ limit name
    · rw [List.filter_cons, if_pos (decide_eq_true hc), nearest, nearest, ih]
    · rw [List.filter_cons, if_neg (fun h => hc (of_decide_eq_true h)),
        nearest_cons_of_far (Nat.lt_of_not_le hc), ih]

/-! ## Suggestions -/

/-- **The suggestion for a name**, for any candidates. The distance of a candidate is the least number of
    characters to insert, delete or replace, ASCII case ignored, and the limit is half of the characters of
    the name, rounded up, and at least one.

    Nothing is suggested exactly if every candidate is beyond the limit; else it is the earliest of those of
    least distance. So the first candidate that is the name up to ASCII case is suggested, wherever it
    stands, and candidates beyond the limit change nothing, however many there are and wherever they
    stand. -/
theorem suggests_first_nearest (name : String) :
    (∀ c, IsEditDistance (asciiLower name).toList (asciiLower c).toList (distance name c)) ∧
    (∀ n, n ≤ limit name ↔ n ≤ 1 ∨ 2 * n ≤ name.length + 1) ∧
    (∀ candidates, closest? name candidates = none ↔
      ∀ d ∈ candidates, limit name < distance name d) ∧
    (∀ candidates c, closest? name candidates = some c ↔
      ∃ before after, candidates = before ++ c :: after ∧ distance name c ≤ limit name ∧
        (∀ d ∈ before, distance name c < distance name d) ∧
        ∀ d ∈ after, distance name c ≤ distance name d) ∧
    (∀ before c after, (∀ d ∈ before, equalIgnoringAsciiCase name d = false) →
      equalIgnoringAsciiCase name c = true → closest? name (before ++ c :: after) = some c) ∧
    (∀ before far after, (∀ d ∈ far, limit name < distance name d) →
      closest? name (before ++ far ++ after) = closest? name (before ++ after)) ∧
    ∀ candidates, closest? name (candidates.filter fun d => distance name d ≤ limit name) =
      closest? name candidates := by
  have hfilter : ∀ candidates, closest? name (candidates.filter fun d => distance name d ≤ limit name) =
      closest? name candidates :=
    fun candidates => congrArg (Option.map Prod.snd) (nearest_filter name candidates)
  refine ⟨isEditDistance_distance name, le_limit_iff name, fun _ => closest?_eq_none_iff,
    fun _ _ => closest?_eq_some_iff, ?_, ?_, hfilter⟩
  · intro before c after hbefore hc
    have hzero : distance name c = 0 := distance_eq_zero_iff.mpr hc
    refine closest?_eq_some_iff.mpr ⟨before, after, rfl, ?_, fun d hd => ?_, fun d _ => ?_⟩
    · rw [hzero]
      exact Nat.zero_le _
    · have hd' : distance name d ≠ 0 := by
        intro h
        rw [distance_eq_zero_iff, hbefore d hd] at h
        cases h
      omega
    · rw [hzero]
      exact Nat.zero_le _
  · intro before far after hfar
    have hnone : far.filter (fun d => distance name d ≤ limit name) = [] := by
      rw [List.filter_eq_nil_iff]
      intro d hd
      simpa using hfar d hd
    rw [← hfilter (before ++ far ++ after), ← hfilter (before ++ after), List.filter_append,
      List.filter_append, List.filter_append, hnone, List.append_nil]

/-- A name in capitals behind names that are near it, and a name of two characters of several bytes. -/
theorem wherelike_suggested :
    closest? "WHERELIKE" ["whereLik", "whereLike", "wherelike"] = some "whereLike" ∧
    closest? "éà" (["ab"] ++ ["xyz", "été"] ++ ["éb", "éàb"]) = some "éb" := by
  obtain ⟨-, -, -, -, hequal, -⟩ := suggests_first_nearest "WHERELIKE"
  obtain ⟨-, -, -, hsome, -, hinsert, -⟩ := suggests_first_nearest "éà"
  refine ⟨hequal ["whereLik"] "whereLike" ["wherelike"] (by decide +kernel) (by decide +kernel), ?_⟩
  rw [hinsert ["ab"] ["xyz", "été"] ["éb", "éàb"] (by decide +kernel)]
  exact (hsome _ _).mpr ⟨["ab"], ["éàb"], rfl, by decide +kernel, by decide +kernel, by decide +kernel⟩

end FluentSql.Suggestion
