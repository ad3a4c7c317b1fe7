import FluentSql.Number.Double
import FluentSql.OrderedMap
/-!
# `FluentSql.Toml` — TOML documents

A document is a table that headers and entries build up line by line. A table knows how it came to
be (`Origin`), because that decides what may still be added to it.

* `Toml.extend` — the one way anything enters a document;
* `Toml.ofLines?` — the document of its lines.
-/

namespace FluentSql

/-- **How a table came to be.** -/
inductive Toml.Origin where
  /-- By a header of its own, or as the document itself. -/
  | header
  /-- By a longer header. -/
  | implied
  /-- By an entry with a dotted key. -/
  | dotted
  /-- In braces: nothing can be added. -/
  | braces
  deriving DecidableEq, Repr, Inhabited

/-- **A TOML value.** -/
inductive Toml where
  | str (s : String)
  | int (n : Int)
  | float (x : Number.Double)
  | bool (b : Bool)
  /-- A date or a time, as it is written. -/
  | moment (text : String)
  /-- An array; one of headers grows by a table with every header. -/
  | arr (ofHeaders : Bool) (items : List Toml)
  | table (origin : Toml.Origin) (entries : List (String × Toml))
  deriving Inhabited

namespace Toml

/-- The entries of a table. -/
abbrev Entries := List (String × Toml)

/-- **A line of a document.** -/
inductive Line where
  /-- A header: the entries that follow belong to this table. -/
  | header (path : List String)
  /-- A header that adds a table to an array. -/
  | arrayHeader (path : List String)
  | entry (path : List String) (value : Toml)
  deriving Inhabited

/-! ## Adding to tables -/

/-- **A change at the end of a path.** What is missing on the way is created; nothing in braces is
    entered. A header may enter every other table and the last table of an array of headers; a dotted
    key (`dotted`) enters no table that has a header. -/
def extend (dotted : Bool) (change : Origin → Entries → Option (Origin × Entries)) :
    List String → Origin → Entries → Option (Origin × Entries)
  | [], origin, entries => change origin entries
  | key :: path, origin, entries => do
    let inside ← match OrderedMap.lookup key entries with
      | none => do
        let (o, es) ← extend dotted change path (if dotted then .dotted else .implied) []
        pure (.table o es)
      | some (.table o es) =>
        if o = .braces || (dotted && o = .header) then none
        else do
          let (o, es) ← extend dotted change path o es
          pure (.table o es)
      | some (.arr true items) =>
        match items.getLast? with
        | some (.table o es) => do
          let (o, es) ← extend dotted change path o es
          pure (.arr true (items.dropLast ++ [.table o es]))
        | _ => none
      | some _ => none
    pure (origin, OrderedMap.put key inside entries)

/-- A path as the way to its last key. -/
def splitPath (path : List String) : Option (List String × String) :=
  path.getLast?.map fun key => (path.dropLast, key)

/-- An entry put into the table where its dotted key leads; that table must be one that dotted keys
    made, and the key must be new. -/
def addEntry (path : List String) (value : Toml) (origin : Origin) (entries : Entries) :
    Option (Origin × Entries) := do
  let (way, key) ← splitPath path
  let add (o : Origin) (es : Entries) : Option (Origin × Entries) :=
    if !way.isEmpty && o ≠ .dotted then none
    else if (OrderedMap.lookup key es).isSome then none
    else some (o, es ++ [(key, value)])
  extend true add way origin entries

/-- A table given its header; one that has a header already, or that dotted keys made, is refused. -/
def addHeader (key : String) (origin : Origin) (entries : Entries) : Option (Origin × Entries) :=
  match OrderedMap.lookup key entries with
  | none => some (origin, entries ++ [(key, .table .header [])])
  | some (.table .implied es) => some (origin, OrderedMap.put key (.table .header es) entries)
  | some _ => none

/-- A table added to an array of headers. -/
def addArrayHeader (key : String) (origin : Origin) (entries : Entries) :
    Option (Origin × Entries) :=
  match OrderedMap.lookup key entries with
  | none => some (origin, entries ++ [(key, .arr true [.table .header []])])
  | some (.arr true items) =>
    some (origin, OrderedMap.put key (.arr true (items ++ [.table .header []])) entries)
  | some _ => none

/-! ## Documents -/

/-- The entries so far and the table that entries go to. -/
structure Draft where
  entries : Entries := []
  current : List String := []

/-- A change of the document's own table. -/
def Draft.change (d : Draft) (f : Origin → Entries → Option (Origin × Entries)) : Option Draft :=
  (f .header d.entries).map fun (_, entries) => { d with entries := entries }

/-- **One line.** -/
def Draft.step (d : Draft) : Line → Option Draft
  | .header path => do
    let (way, key) ← splitPath path
    let d ← d.change (extend false (addHeader key) way)
    pure { d with current := path }
  | .arrayHeader path => do
    let (way, key) ← splitPath path
    let d ← d.change (extend false (addArrayHeader key) way)
    pure { d with current := path }
  | .entry path value => d.change (extend false (addEntry path value) d.current)

/-- **The document of its lines.** -/
def ofLines? (lines : List Line) : Option Entries :=
  (lines.foldlM Draft.step {}).map (·.entries)

/-- The table in braces with these entries. -/
def inBraces? (entries : List (List String × Toml)) : Option Toml := do
  let (_, entries) ← entries.foldlM (fun (o, es) (path, value) => addEntry path value o es)
    (Origin.header, [])
  pure (.table .braces entries)

end Toml

end FluentSql
