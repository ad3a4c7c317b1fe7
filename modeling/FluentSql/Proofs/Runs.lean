import FluentSql.Proofs.Parsing
/-!
# `FluentSql.Proofs.Runs` — what a parsed list says of a row

AND binds tighter than OR. So the tests of a list form **runs** joined by AND, and an OR ends a run.

* `Tree.holds`, `holdsFrom` — whether a test, or the rest of a list, holds of a row;
* `holds_eq_anyHolds` — a list holds if all tests of one of its runs do;
* `holds_concat` — a test joined by AND at the end of a list narrows the last run and no other.
-/

namespace FluentSql.Parsing

open Reading

mutual

/-- **Whether a test holds of a row.** `truth` are the leaves that are true of it; since nothing
    negates a group, a leaf that is unknown counts as one that is false. -/
def Tree.holds (truth : List Token → Bool) : Tree → Bool
  | .leaf tokens => truth tokens
  | .group entries => holdsFrom truth none entries

/-- **Whether the rest of a list holds**, after a run of tests joined by AND if one has begun: only an
    OR ends the run. Nothing holds of every row. -/
def holdsFrom (truth : List Token → Bool) (run : Option Bool) : List Entry → Bool
  | [] => run.getD true
  | ⟨joiner, tree⟩ :: entries =>
    match run, joiner with
    | none, _ => holdsFrom truth (some (Tree.holds truth tree)) entries
    | some run, some .or => run || holdsFrom truth (some (Tree.holds truth tree)) entries
    | some run, _ => holdsFrom truth (some (run && Tree.holds truth tree)) entries

end

/-- **Whether a list holds of a row.** -/
def holds (truth : List Token → Bool) (entries : List Entry) : Bool := holdsFrom truth none entries

variable {truth : List Token → Bool}

/-! ## Runs -/

/-- A test at the end of the last run, which comes first. -/
def extend (tree : Tree) : List (List Tree) → List (List Tree)
  | [] => [[tree]]
  | run :: earlier => (run ++ [tree]) :: earlier

/-- A test after some runs: an OR begins a new one. -/
def join (runs : List (List Tree)) (entry : Entry) : List (List Tree) :=
  match entry.joiner with
  | some .or => [entry.tree] :: runs
  | _ => extend entry.tree runs

/-- **The runs of a list**: tests joined by AND, cut at every OR. The last run comes first. -/
def runs (entries : List Entry) : List (List Tree) := entries.foldl join []

/-- The runs before the last one. -/
def earlierRuns (entries : List Entry) : List (List Tree) := (runs entries).tail

/-- The last run. -/
def lastRun (entries : List Entry) : List Tree := (runs entries).headD []

/-- Whether one of some runs holds; no run at all holds of every row. -/
def anyHolds (truth : List Token → Bool) (runs : List (List Tree)) : Bool :=
  runs.isEmpty || runs.any fun run => run.all (Tree.holds truth)

theorem anyHolds_cons (run : List Tree) (earlier : List (List Tree)) :
    anyHolds truth (run :: earlier) =
      ((earlier.any fun run => run.all (Tree.holds truth)) || run.all (Tree.holds truth)) := by
  simp [anyHolds, Bool.or_comm]

/-- One run goes on, and the runs before it stay. -/
theorem anyHolds_foldl_join (run : List Tree) (earlier : List (List Tree)) (entries : List Entry) :
    anyHolds truth (entries.foldl join (run :: earlier)) =
      ((earlier.any fun run => run.all (Tree.holds truth)) ||
        holdsFrom truth (some (run.all (Tree.holds truth))) entries) := by
  induction entries generalizing run earlier with
  | nil => exact anyHolds_cons run earlier
  | cons entry entries ih =>
    obtain ⟨joiner, tree⟩ := entry
    rw [List.foldl_cons, join]
    rcases joiner with _ | (_ | _)
    · simp [holdsFrom, extend, ih]
    · simp [holdsFrom, extend, ih]
    · simp [holdsFrom, ih, Bool.or_assoc, Bool.or_left_comm]

/-- **A list holds** if all tests of one of its runs do. -/
theorem holds_eq_anyHolds (entries : List Entry) :
    holds truth entries = anyHolds truth (runs entries) := by
  cases entries with
  | nil => rfl
  | cons entry entries =>
    obtain ⟨joiner, tree⟩ := entry
    -- whatever joins the first test, it begins the first run
    have hbegun : join [] ⟨joiner, tree⟩ = [[tree]] := by
      rcases joiner with _ | (_ | _) <;> rfl
    rw [runs, List.foldl_cons, hbegun, anyHolds_foldl_join]
    simp [holds, holdsFrom]

/-- **A test joined by AND at the end** is one more test of the last run, and of no other. -/
theorem holds_concat (entries : List Entry) {joiner : Option Conjunction} (hj : joiner ≠ some .or)
    (tree : Tree) :
    holds truth (entries ++ [⟨joiner, tree⟩]) =
      (((earlierRuns entries).any fun run => run.all (Tree.holds truth)) ||
        ((lastRun entries).all (Tree.holds truth) && tree.holds truth)) := by
  have hruns : runs (entries ++ [⟨joiner, tree⟩]) = extend tree (runs entries) := by
    rw [runs, List.foldl_append, ← runs, List.foldl_cons, List.foldl_nil, join]
    split
    · exact absurd (by assumption) hj
    · rfl
  rw [holds_eq_anyHolds, hruns, earlierRuns, lastRun]
  cases runs entries with
  | nil => simp [extend, anyHolds]
  | cons run earlier => simp [extend, anyHolds_cons]

end FluentSql.Parsing
