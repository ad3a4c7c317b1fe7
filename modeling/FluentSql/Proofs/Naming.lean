import FluentSql.Params
/-!
# `FluentSql.Proofs.Naming` — how parameters get their names

Which name a value gets depends on the names there are and on nothing else (`bind_fst_congr`,
`names_merge_congr`). While every name is a generated one with a number below the count of parameters
(`Numbered`), the next number is the count itself: the number at the end of a generated name can be
read off it, whatever table and column come before (`number_unique`).
-/

namespace FluentSql
namespace Params

/-! ## Names with their colon -/

theorem colonName_of_cons {name : String} {cs : List Char} (h : name.toList = ':' :: cs) :
    colonName name = name := by
  unfold colonName
  split
  · rfl
  · rename_i hnone
    exact absurd h (hnone cs)

/-- A name with its colon begins with one. -/
theorem exists_toList_colonName (name : String) : ∃ cs, (colonName name).toList = ':' :: cs := by
  unfold colonName
  split
  · exact ⟨_, ‹_›⟩
  · exact ⟨name.toList, String.toList_append⟩

/-- A name with its colon has its colon. -/
theorem colonName_colonName (name : String) : colonName (colonName name) = colonName name := by
  obtain ⟨cs, hcs⟩ := exists_toList_colonName name
  exact colonName_of_cons hcs

/-! ## Names after an operation -/

/-- A name among others, or at their end. -/
def withName (names : List String) (name : String) : List String :=
  if colonName name ∈ names then names else names ++ [colonName name]

theorem contains_eq (ps : Params) (name : String) : ps.contains name = decide (name ∈ ps.names) := by
  rw [Bool.eq_iff_iff, decide_eq_true_iff]
  exact ps.map.contains_iff_mem_keys name

theorem size_eq_length_names (ps : Params) : ps.size = ps.names.length := by
  simp [size, names, OrderedMap.size, OrderedMap.keys]

theorem names_add (ps : Params) (name : String) (value : Value) :
    (ps.add name value).names = withName ps.names name :=
  ps.map.keys_insert (colonName name) value

theorem names_foldl_add (ps : Params) (added : List (String × Value)) :
    (added.foldl (fun ps (name, value) => ps.add name value) ps).names
      = (added.map Prod.fst).foldl withName ps.names := by
  induction added generalizing ps with
  | nil => rfl
  | cons e added ih =>
    obtain ⟨name, value⟩ := e
    rw [List.foldl_cons, ih, names_add]
    rfl

theorem names_merge (ps other : Params) :
    (ps.merge other).names = other.names.foldl withName ps.names :=
  names_foldl_add ps other.entries

/-- **Names after a merge** depend on the names on either side only. -/
theorem names_merge_congr {ps qs others others' : Params} (h : ps.names = qs.names)
    (ho : others.names = others'.names) : (ps.merge others).names = (qs.merge others').names := by
  rw [names_merge, names_merge, h, ho]

theorem freshSuffix_congr {ps qs : Params} (h : ps.names = qs.names) (table column : String) :
    ps.freshSuffix table column = qs.freshSuffix table column := by
  simp only [freshSuffix, contains_eq, size_eq_length_names, h]

/-- **The name that a value gets** depends on the names there are only, not on the value. -/
theorem bind_fst_congr {ps qs : Params} (h : ps.names = qs.names) (table column : String)
    (v w : Value) : (ps.bind table column v).1 = (qs.bind table column w).1 := by
  simp only [bind, freshSuffix_congr h]

theorem names_bind (ps : Params) (table column : String) (v : Value) :
    (ps.bind table column v).2.names = ps.names ++ [(ps.bind table column v).1] := by
  simp [names, OrderedMap.keys, bind, entries]

theorem names_bind_congr {ps qs : Params} (h : ps.names = qs.names) (table column : String)
    (v w : Value) : (ps.bind table column v).2.names = (qs.bind table column w).2.names := by
  rw [names_bind, names_bind, h, bind_fst_congr h table column v w]

/-! ## Generated names -/

theorem toList_placeholderName (table column : String) (n : Nat) :
    (placeholderName table column n).toList
      = ':' :: sanitize (table.toList ++ '_' :: column.toList) ++ '_' :: Nat.toDigits 10 n := by
  simp [placeholderName]

/-- What follows the last underscore is found again. -/
theorem tail_unique {xs ys ds es : List Char} (hd : '_' ∉ ds) (he : '_' ∉ es)
    (h : xs ++ '_' :: ds = ys ++ '_' :: es) : ds = es := by
  have last : ∀ {zs fs : List Char}, '_' ∉ fs →
      ((zs ++ '_' :: fs).reverse.takeWhile (· ≠ '_')) = fs.reverse := by
    intro zs fs hf
    have hall : ∀ c ∈ fs.reverse, decide (c ≠ '_') = true := by
      intro c hc
      have hcf : c ∈ fs := List.mem_reverse.mp hc
      exact decide_eq_true fun hu => hf (hu ▸ hcf)
    rw [List.reverse_append, List.reverse_cons, List.append_assoc, List.takeWhile_append_of_pos hall]
    simp
  have hr : ds.reverse = es.reverse := by rw [← last hd, h, last he]
  exact List.reverse_inj.mp hr

/-- **The number of a generated name** can be read off it, whatever stands before the number. -/
theorem number_unique {table column table' column' : String} {m n : Nat}
    (h : placeholderName table column m = placeholderName table' column' n) : m = n := by
  have hl : (placeholderName table column m).toList = (placeholderName table' column' n).toList :=
    congrArg String.toList h
  rw [toList_placeholderName, toList_placeholderName] at hl
  have hd : Nat.toDigits 10 m = Nat.toDigits 10 n :=
    tail_unique Nat.underscore_not_in_toDigits Nat.underscore_not_in_toDigits hl
  calc m = Nat.ofDigitChars 10 (Nat.toDigits 10 m) 0 := Nat.ofDigitChars_ten_toDigits.symm
    _ = Nat.ofDigitChars 10 (Nat.toDigits 10 n) 0 := by rw [hd]
    _ = n := Nat.ofDigitChars_ten_toDigits

theorem isNameChar_of_mem_sanitize {cs : List Char} {c : Char} (h : c ∈ sanitize cs) :
    isNameChar c = true := by
  obtain ⟨a, -, rfl⟩ := List.mem_map.mp h
  split
  · assumption
  · decide

theorem isNameChar_of_mem_toDigits {n : Nat} {c : Char} (h : c ∈ Nat.toDigits 10 n) :
    isNameChar c = true := by
  have hdigit : c.isDigit = true := Nat.isDigit_of_mem_toDigits (by decide) (by decide) h
  simp [isNameChar, Char.isAlphanum, hdigit]

/-- A generated name is a colon and then name characters. -/
theorem mem_placeholderName {table column : String} {n : Nat} {c : Char}
    (h : c ∈ (placeholderName table column n).toList) : c = ':' ∨ isNameChar c = true := by
  rw [toList_placeholderName, List.cons_append, List.mem_cons, List.mem_append, List.mem_cons] at h
  rcases h with hc | hs | hu | hn
  · exact .inl hc
  · exact .inr (isNameChar_of_mem_sanitize hs)
  · exact .inr (hu ▸ by decide)
  · exact .inr (isNameChar_of_mem_toDigits hn)

/-! ## Fresh names -/

/-- **Some name is free**: one number more is tried than there are names, and names of different
    numbers differ. -/
theorem exists_freshSuffix (ps : Params) (table column : String) :
    ∃ n, (List.range' ps.size (ps.size + 1)).find?
      (fun n => !ps.contains (placeholderName table column n)) = some n := by
  cases h : (List.range' ps.size (ps.size + 1)).find?
      (fun n => !ps.contains (placeholderName table column n)) with
  | some n => exact ⟨n, rfl⟩
  | none =>
    have htaken : (List.range' ps.size (ps.size + 1)).map (placeholderName table column) ⊆
        ps.names := by
      intro name hname
      obtain ⟨n, hn, rfl⟩ := List.mem_map.mp hname
      have hcontains := List.find?_eq_none.mp h n hn
      simpa [contains_eq] using hcontains
    have hnodup : ((List.range' ps.size (ps.size + 1)).map (placeholderName table column)).Nodup := by
      have hnumbers : (List.range' ps.size (ps.size + 1)).Nodup := List.nodup_range' 1
      exact List.pairwise_map.mpr (hnumbers.imp fun hne heq => hne (number_unique heq))
    have hlength := hnodup.length_le_of_subset htaken
    rw [List.length_map, List.length_range', ← size_eq_length_names] at hlength
    omega

/-- **A generated name is a new one**, whatever names there are. -/
theorem bind_fst_not_mem (ps : Params) (table column : String) (v : Value) :
    (ps.bind table column v).1 ∉ ps.names := by
  obtain ⟨n, hn⟩ := ps.exists_freshSuffix table column
  have hsuffix : ps.freshSuffix table column = n := by
    rw [freshSuffix, hn, Option.getD_some]
  have hfree := List.find?_some hn
  rw [bind, hsuffix]
  simpa [contains_eq] using hfree

/-! ## Entries that stay -/

/-- Names stay where they are when one is added. -/
theorem prefix_withName (names : List String) (name : String) : names <+: withName names name := by
  unfold withName
  split
  · exact List.prefix_rfl
  · exact List.prefix_append _ _

/-- **Names stay where they are** in a merge. -/
theorem names_prefix_merge (ps other : Params) : ps.names <+: (ps.merge other).names := by
  rw [names_merge]
  generalize ps.names = names
  induction other.names generalizing names with
  | nil => exact List.prefix_rfl
  | cons name added ih => exact (prefix_withName names name).trans (ih (withName names name))

/-- An entry under another key stays as it is. -/
theorem getElem?_put_of_ne {key name : String} (h : name ≠ key) {v : Value} (value : Value)
    {entries : List (String × Value)} {i : Nat} (hi : entries[i]? = some (name, v)) :
    (OrderedMap.put key value entries)[i]? = some (name, v) := by
  induction entries generalizing i with
  | nil => cases hi
  | cons e entries ih =>
    obtain ⟨k, w⟩ := e
    cases i with
    | zero =>
      cases hi
      rw [OrderedMap.put, if_neg h]
      rfl
    | succ i =>
      rw [List.getElem?_cons_succ] at hi
      rw [OrderedMap.put]
      split
      · exact hi
      · exact ih hi

/-- **An entry stays as it is** in a merge that does not bring its name. -/
theorem getElem?_merge {ps other : Params} {name : String}
    (h : name ∉ other.names.map colonName) {v : Value} {i : Nat}
    (hi : ps.entries[i]? = some (name, v)) : (ps.merge other).entries[i]? = some (name, v) := by
  rw [names, OrderedMap.keys, List.map_map] at h
  change name ∉ other.entries.map (colonName ∘ Prod.fst) at h
  unfold merge
  generalize other.entries = added at h
  induction added generalizing ps with
  | nil => exact hi
  | cons e added ih =>
    rw [List.map_cons, List.mem_cons, not_or] at h
    exact ih (getElem?_put_of_ne h.1 e.2 hi) h.2

/-! ## Numbered parameters -/

/-- **Numbered parameters**: every name is a generated one with a number below their count. -/
def Numbered (ps : Params) : Prop :=
  ∀ name ∈ ps.names, ∃ table column n, n < ps.size ∧ name = placeholderName table column n

theorem numbered_empty : empty.Numbered := fun _ h => absurd h (by simp [names, empty, OrderedMap.keys])

theorem Numbered.not_contains {ps : Params} (h : ps.Numbered) (table column : String) :
    ps.contains (placeholderName table column ps.size) = false := by
  rw [contains_eq, decide_eq_false_iff_not]
  intro hmem
  obtain ⟨table', column', n, hn, hname⟩ := h _ hmem
  exact absurd (number_unique hname) (by omega)

/-- **The next number is the count**: no name needs a second try. -/
theorem Numbered.freshSuffix_eq {ps : Params} (h : ps.Numbered) (table column : String) :
    ps.freshSuffix table column = ps.size := by
  simp [freshSuffix, List.range'_succ, h.not_contains table column]

/-- **One more value**, named by the count. -/
theorem Numbered.bind_eq {ps : Params} (h : ps.Numbered) (table column : String) (v : Value) :
    ps.bind table column v =
      (placeholderName table column ps.size,
        ⟨⟨ps.entries ++ [(placeholderName table column ps.size, v)]⟩⟩) := by
  simp only [bind, h.freshSuffix_eq table column]

/-- Binding keeps parameters numbered. -/
theorem Numbered.bind {ps : Params} (h : ps.Numbered) (table column : String) (v : Value) :
    (ps.bind table column v).2.Numbered := by
  intro name hname
  rw [names_bind, List.mem_append, List.mem_singleton] at hname
  rw [size_bind]
  rcases hname with hold | hnew
  · obtain ⟨table', column', n, hn, he⟩ := h name hold
    exact ⟨table', column', n, by omega, he⟩
  · refine ⟨table, column, ps.size, by omega, ?_⟩
    rw [hnew, h.bind_eq table column v]

end Params
end FluentSql
