/-!
# `FluentSql.Text.EditDistance` — how many edits lead from one word to another

`editDistance` counts insertions, deletions and substitutions of characters, computed row by row:
`row` holds the distances from a prefix of the first word to every prefix of the second.
-/

namespace FluentSql.Text

/-- The rest of the next row: `left` is its entry so far, `diagonal` and `row` the old row. -/
def nextEntries (c : Char) (left diagonal : Nat) : List Char → List Nat → List Nat
  | d :: ds, above :: row =>
    let entry := min (min (left + 1) (above + 1)) (diagonal + if c = d then 0 else 1)
    entry :: nextEntries c entry above ds row
  | _, _ => []

/-- The row of distances after one more character `c` of the first word. -/
def nextRow (c : Char) (word : List Char) : List Nat → List Nat
  | [] => []
  | first :: row => (first + 1) :: nextEntries c (first + 1) first word row

/-- **Edit distance** between two words, over characters. -/
def editDistance (s t : List Char) : Nat :=
  (s.foldl (fun row c => nextRow c t row) (List.range (t.length + 1))).getLastD 0

end FluentSql.Text
