import FluentSql.Text.Case
import FluentSql.Text.EditDistance
/-!
# `FluentSql.Suggestion` — what a mistyped name may have meant

Of several candidates the one with the least edit distance is suggested, ASCII case ignored, unless
even that one differs in more than half of the name's characters.
-/

namespace FluentSql.Suggestion

open FluentSql.Text

/-- **How many edits** a suggestion may be away: half of the characters, rounded up, at least one. -/
def limit (name : String) : Nat :=
  max 1 ((name.toList.length + 1) / 2)

/-- The edits between two names, ASCII case ignored. -/
def distance (name candidate : String) : Nat :=
  editDistance (asciiLower name).toList (asciiLower candidate).toList

/-- The earliest of the nearest candidates within the limit, with its distance. -/
def nearest (name : String) : List String → Option (Nat × String)
  | [] => none
  | candidate :: rest =>
    let d := distance name candidate
    match nearest name rest with
    | none => if d ≤ limit name then some (d, candidate) else none
    | some (best, other) => if d ≤ best then some (d, candidate) else some (best, other)

/-- **The suggestion for a name.** -/
def closest? (name : String) (candidates : List String) : Option String :=
  (nearest name candidates).map Prod.snd

/-- A distance that is kept is within the limit. -/
theorem nearest_le_limit {name : String} {candidates : List String} {e : Nat × String}
    (h : nearest name candidates = some e) : e.1 ≤ limit name := by
  induction candidates generalizing e with
  | nil => simp [nearest] at h
  | cons c rest ih =>
    rw [nearest] at h
    cases hr : nearest name rest with
    | none =>
      rw [hr] at h
      by_cases hd : distance name c ≤ limit name
      · simp only [if_pos hd, Option.some.injEq] at h
        subst h
        dsimp only
        exact hd
      · simp [if_neg hd] at h
    | some best =>
      have hb : best.1 ≤ limit name := ih hr
      rw [hr] at h
      by_cases hd : distance name c ≤ best.1
      · simp only [if_pos hd, Option.some.injEq] at h
        subst h
        dsimp only
        exact Nat.le_trans hd hb
      · simp only [if_neg hd, Option.some.injEq] at h
        subst h
        exact hb

end FluentSql.Suggestion
