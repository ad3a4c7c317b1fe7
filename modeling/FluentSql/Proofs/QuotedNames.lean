import FluentSql.Proofs.DottedNames
/-!
# `FluentSql.Proofs.QuotedNames` — quoted names read back

A reader of SQL cuts a text into pieces: quoted tokens, in which a doubled quote stands for one, and the
single characters outside of them (`Text.pieces?`). It knows nothing of how names are quoted, so what it
finds in a quoted name says what the name can do to the statement around it.

* `Text.written_of_pieces?` — the pieces, written one after the other, are the text;
* `Dialect.pieces?_quoteIdent`, `Dialect.pieces?_quote` — the pieces of quoted names;
* `Dialect.unquote?_eq_some_iff` — `Dialect.unquote?` reads the texts that quoting writes, and no others;
* `Dialect.quote_readsBack` — nothing is lost, and nothing of the name stands outside of quotes.
-/

namespace FluentSql

open FluentSql.Text

namespace Text

/-! ## Segments -/

/-- **Segments that were joined** are cut apart again. -/
theorem splitAt_joinWith {sep : Char} {segments : List (List Char)} (hne : segments ≠ [])
    (h : ∀ segment ∈ segments, sep ∉ segment) : splitAt sep (joinWith sep segments) = segments := by
  induction segments with
  | nil => exact absurd rfl hne
  | cons segment segments ih =>
    have hfirst : splitAt sep segment = [segment] :=
      splitAt_of_not_mem (h segment List.mem_cons_self)
    by_cases hrest : segments = []
    · rw [hrest]
      exact hfirst
    · have hmore := ih hrest fun other hother => h other (List.mem_cons_of_mem _ hother)
      rw [joinWith_cons_of_ne_nil sep segment hrest, splitAt_append, hfirst, hmore]
      rfl

/-! ## Pieces of a text -/

/-- **A piece of a text**, as a reader of SQL sees it. -/
inductive Piece where
  /-- A quoted token, by the text it stands for. -/
  | quoted (contents : List Char)
  /-- A character outside of quoted tokens. -/
  | bare (c : Char)
  deriving DecidableEq, Repr

/-- How a piece is written. -/
def Piece.written (q : Char) : Piece → List Char
  | .quoted contents => wrap q contents
  | .bare c => [c]

/-- The pieces of a text, read from outside of a token, or from inside of one after some of what it stands
    for. A quote inside of a token ends it unless another one follows; a token that is never closed is
    none. -/
def piecesFrom (q : Char) : Option (List Char) → List Char → Option (List Piece)
  | none, [] => some []
  | none, c :: cs =>
    if c = q then piecesFrom q (some []) cs else (piecesFrom q none cs).map (.bare c :: ·)
  | some _, [] => none
  | some read, [c] => if c = q then some [.quoted read] else none
  | some read, c :: d :: cs =>
    if c = q then
      if d = q then piecesFrom q (some (read ++ [q])) cs
      else (piecesFrom q none (d :: cs)).map (.quoted read :: ·)
    else piecesFrom q (some (read ++ [c])) (d :: cs)

/-- **The pieces of a text.** -/
def pieces? (q : Char) (cs : List Char) : Option (List Piece) := piecesFrom q none cs

variable {q : Char}

theorem doubled_append (q : Char) (as bs : List Char) :
    doubled q (as ++ bs) = doubled q as ++ doubled q bs := by
  induction as with
  | nil => rfl
  | cons a as ih =>
    rw [List.cons_append, doubled, doubled, ih]
    by_cases ha : a = q
    · rw [if_pos ha, if_pos ha]
      rfl
    · rw [if_neg ha, if_neg ha]
      rfl

theorem doubled_quote (q : Char) : doubled q [q] = [q, q] := if_pos rfl

theorem doubled_of_ne {c : Char} (h : c ≠ q) : doubled q [c] = [c] := if_neg h

/-- What is written of a token that is still open. -/
def opened (q : Char) : Option (List Char) → List Char
  | none => []
  | some read => q :: doubled q read

/-- **Nothing is skipped**: the pieces, written one after the other, are the text behind what is open. -/
theorem written_of_piecesFrom {read : Option (List Char)} {cs : List Char} {pieces : List Piece}
    (h : piecesFrom q read cs = some pieces) :
    pieces.flatMap (Piece.written q) = opened q read ++ cs := by
  -- along the cases of the reader: each step moves characters from the text to what is open
  fun_induction piecesFrom q read cs generalizing pieces with
  | case1 =>
    cases h
    rfl
  | case2 cs ih => exact ih h
  | case3 c cs hc ih =>
    obtain ⟨more, hmore, rfl⟩ := Option.map_eq_some_iff.mp h
    rw [List.flatMap_cons, ih hmore]
    rfl
  | case4 => cases h
  | case5 read =>
    cases h
    simp [Piece.written, wrap, opened]
  | case6 => cases h
  | case7 read cs ih =>
    rw [ih h]
    simp [opened, doubled_append, doubled_quote]
  | case8 read d cs hd ih =>
    obtain ⟨more, hmore, rfl⟩ := Option.map_eq_some_iff.mp h
    rw [List.flatMap_cons, ih hmore]
    simp [Piece.written, wrap, opened]
  | case9 read c d cs hc ih =>
    rw [ih h]
    simp [opened, doubled_append, doubled_of_ne hc]

theorem written_of_pieces? {cs : List Char} {pieces : List Piece} (h : pieces? q cs = some pieces) :
    pieces.flatMap (Piece.written q) = cs :=
  written_of_piecesFrom h

/-- A character that is no quote becomes part of the open token. -/
theorem piecesFrom_cons_of_ne {c : Char} (hc : c ≠ q) (read : List Char) {cs : List Char}
    (hcs : cs ≠ []) :
    piecesFrom q (some read) (c :: cs) = piecesFrom q (some (read ++ [c])) cs := by
  cases cs with
  | nil => exact absurd rfl hcs
  | cons d cs => rw [piecesFrom, if_neg hc]

/-- **An open token goes on to its closing quote**, if no other quote follows that. -/
theorem piecesFrom_doubled (read contents : List Char) {rest : List Char}
    (hrest : rest.head? ≠ some q) :
    piecesFrom q (some read) (doubled q contents ++ q :: rest) =
      (pieces? q rest).map (.quoted (read ++ contents) :: ·) := by
  induction contents generalizing read with
  | nil =>
    rw [List.append_nil]
    show piecesFrom q (some read) (q :: rest) = _
    cases rest with
    | nil =>
      rw [piecesFrom, if_pos rfl]
      rfl
    | cons d ds =>
      have hd : d ≠ q := fun heq => hrest (congrArg some heq)
      rw [piecesFrom, if_pos rfl, if_neg hd]
      rfl
  | cons c contents ih =>
    by_cases hc : c = q
    · subst hc
      rw [doubled, if_pos rfl]
      show piecesFrom c (some read) (c :: c :: (doubled c contents ++ c :: rest)) = _
      rw [piecesFrom, if_pos rfl, if_pos rfl, ih, List.append_assoc]
      rfl
    · rw [doubled, if_neg hc, List.cons_append,
        piecesFrom_cons_of_ne hc read (List.append_ne_nil_of_right_ne_nil _ (List.cons_ne_nil _ _)),
        ih, List.append_assoc]
      rfl

/-- **A text in quotes** is one piece, whatever it is. -/
theorem pieces?_wrap_append (contents : List Char) {rest : List Char} (hrest : rest.head? ≠ some q) :
    pieces? q (wrap q contents ++ rest) = (pieces? q rest).map (.quoted contents :: ·) := by
  have hwrap : wrap q contents ++ rest = q :: (doubled q contents ++ q :: rest) := by
    simp [wrap]
  rw [hwrap, pieces?, piecesFrom, if_pos rfl, piecesFrom_doubled [] contents hrest]
  rfl

theorem pieces?_cons_of_ne {c : Char} (hc : c ≠ q) (cs : List Char) :
    pieces? q (c :: cs) = (pieces? q cs).map (.bare c :: ·) := by
  rw [pieces?, piecesFrom, if_neg hc]
  rfl

end Text

namespace Dialect

variable {d : Dialect}

/-! ## Pieces of a quoted name -/

/-- **The pieces of a segment**: none if it is empty, the bare star, or one quoted token. -/
def segmentPieces (segment : List Char) : List Piece :=
  if segment = [] then [] else if segment = ['*'] then [.bare '*'] else [.quoted segment]

/-- **The pieces of a dotted name**: those of its segments, with bare dots between them. -/
def namePieces (ident : String) : List Piece :=
  [Piece.bare '.'].intercalate ((splitAt '.' ident.toList).map segmentPieces)

theorem written_segmentPieces (segment : List Char) :
    (segmentPieces segment).flatMap (Piece.written d.quoteChar) = d.quoteSegment segment := by
  unfold segmentPieces
  rcases d.quoteSegment_cases segment with ⟨rfl, hq⟩ | ⟨rfl, hq⟩ | ⟨hne, hstar, hq⟩
  · rw [hq]
    rfl
  · rw [hq]
    rfl
  · rw [hq, if_neg hne, if_neg hstar]
    exact List.append_nil _

/-- Pieces of segments are written as quoted segments. -/
theorem written_intercalate (segments : List (List Char)) :
    ([Piece.bare '.'].intercalate (segments.map segmentPieces)).flatMap (Piece.written d.quoteChar) =
      joinWith '.' (segments.map d.quoteSegment) := by
  induction segments with
  | nil => rfl
  | cons segment segments ih =>
    cases segments with
    | nil =>
      rw [List.map_singleton, List.intercalate_singleton, written_segmentPieces]
      rfl
    | cons next more =>
      simp only [List.map_cons] at ih ⊢
      rw [List.intercalate_cons_cons, List.flatMap_append, List.flatMap_append, ih,
        written_segmentPieces, joinWith_cons_of_ne_nil _ _ (List.cons_ne_nil _ _), List.append_assoc]
      rfl

/-- **A quoted segment** is read as its pieces, whatever may follow it. -/
theorem pieces?_quoteSegment_append (segment : List Char) {rest : List Char} (hrest : IsRest rest) :
    pieces? d.quoteChar (d.quoteSegment segment ++ rest) =
      (pieces? d.quoteChar rest).map (segmentPieces segment ++ ·) := by
  unfold segmentPieces
  rcases d.quoteSegment_cases segment with ⟨rfl, hq⟩ | ⟨rfl, hq⟩ | ⟨hne, hstar, hq⟩
  · rw [hq, if_pos rfl]
    exact Option.map_id'.symm
  · rw [hq]
    exact pieces?_cons_of_ne d.quoteChar_ne_star.symm rest
  · rw [hq, if_neg hne, if_neg hstar]
    exact pieces?_wrap_append segment hrest.head?_ne

/-- Quoted segments between dots are read segment by segment. -/
theorem pieces?_joinWith_quoteSegment (segments : List (List Char)) :
    pieces? d.quoteChar (joinWith '.' (segments.map d.quoteSegment)) =
      some ([Piece.bare '.'].intercalate (segments.map segmentPieces)) := by
  induction segments with
  | nil => rfl
  | cons segment segments ih =>
    rw [List.map_cons, joinWith_cons, pieces?_quoteSegment_append segment (isRest_joinRest _)]
    cases segments with
    | nil =>
      show (pieces? d.quoteChar []).map _ = _
      rw [List.map_singleton, List.intercalate_singleton]
      show some (segmentPieces segment ++ []) = _
      rw [List.append_nil]
    | cons next more =>
      have hdot : '.' ≠ d.quoteChar := d.quoteChar_ne_dot.symm
      show (pieces? d.quoteChar ('.' :: joinWith '.' ((next :: more).map d.quoteSegment))).map _ = _
      rw [pieces?_cons_of_ne hdot, ih]
      simp only [List.map_cons, Option.map_some]
      rw [List.intercalate_cons_cons, List.append_assoc]
      rfl

/-- **The pieces of a quoted name** are those of its segments. -/
theorem pieces?_quote (d : Dialect) (ident : String) :
    pieces? d.quoteChar (d.quote ident).toList = some (namePieces ident) := by
  rw [quote, String.toList_ofList]
  exact pieces?_joinWith_quoteSegment _

/-- **A text quoted as one identifier** is one token; the empty text is none. -/
theorem pieces?_quoteIdent (d : Dialect) (ident : String) :
    pieces? d.quoteChar (d.quoteIdent ident).toList =
      some (if ident = "" then [] else [.quoted ident.toList]) := by
  rw [quoteIdent, String.toList_ofList]
  by_cases hident : ident = ""
  · rw [hident, if_pos rfl]
    rfl
  · have hchars : d.quoteChars ident.toList = wrap d.quoteChar ident.toList ++ [] := by
      cases hs : ident.toList with
      | nil => exact absurd (String.toList_inj.mp hs) hident
      | cons c cs => exact (List.append_nil _).symm
    have hend : ([] : List Char).head? ≠ some d.quoteChar := by simp
    rw [hchars, if_neg hident, pieces?_wrap_append _ hend]
    rfl

/-- **What stands outside of quotes** in a quoted name: dots and stars. -/
theorem bare_of_mem_namePieces {ident : String} {c : Char} (h : .bare c ∈ namePieces ident) :
    c = '.' ∨ c = '*' := by
  unfold namePieces at h
  generalize splitAt '.' ident.toList = segments at h
  have hsegment : ∀ segment : List Char, .bare c ∈ segmentPieces segment → c = '*' := by
    intro segment hmem
    unfold segmentPieces at hmem
    split at hmem
    · cases hmem
    · split at hmem
      · cases List.mem_singleton.mp hmem
        rfl
      · cases List.mem_singleton.mp hmem
  induction segments with
  | nil => cases h
  | cons segment segments ih =>
    cases segments with
    | nil =>
      rw [List.map_singleton, List.intercalate_singleton] at h
      exact .inr (hsegment segment h)
    | cons next more =>
      rw [List.map_cons, List.map_cons, List.intercalate_cons_cons, List.mem_append,
        List.mem_append] at h
      rcases h with (hmem | hmem) | hmem
      · exact .inr (hsegment segment hmem)
      · cases List.mem_singleton.mp hmem
        exact .inl rfl
      · exact ih hmem

/-! ## Reading a quoted name -/

/-- The segment that some pieces between dots stand for. A segment that is quoted without need, or not
    quoted in spite of it, is none. -/
def segment? : List Piece → Option (List Char)
  | [] => some []
  | [.bare c] => if c = '*' then some ['*'] else none
  | [.quoted contents] =>
    if contents ≠ [] ∧ contents ≠ ['*'] ∧ '.' ∉ contents then some contents else none
  | _ => none

/-- **The name that a quoted name stands for**: its tokens, bare stars and empty segments between bare
    dots. -/
def unquote? (d : Dialect) (text : String) : Option String := do
  let pieces ← pieces? d.quoteChar text.toList
  let segments ← (pieces.splitOn (.bare '.')).mapM segment?
  return String.ofList (joinWith '.' segments)

theorem segment?_segmentPieces {segment : List Char} (h : '.' ∉ segment) :
    segment? (segmentPieces segment) = some segment := by
  unfold segmentPieces
  split
  · rename_i hnil
    rw [hnil]
    rfl
  · split
    · rename_i hstar
      rw [hstar]
      rfl
    · rename_i hnil hstar
      exact if_pos ⟨hnil, hstar, h⟩

/-- A segment was read from its own pieces. -/
theorem eq_segmentPieces_of_segment? {pieces : List Piece} {segment : List Char}
    (h : segment? pieces = some segment) : pieces = segmentPieces segment ∧ '.' ∉ segment := by
  have hdot : '.' ∉ ['*'] := by decide
  unfold segment? at h
  split at h
  · cases h
    exact ⟨rfl, List.not_mem_nil⟩
  · split at h
    · rename_i hc
      cases h
      rw [hc]
      exact ⟨rfl, hdot⟩
    · cases h
  · split at h
    · rename_i hcontents
      cases h
      obtain ⟨hnil, hstar, hnodot⟩ := hcontents
      refine ⟨?_, hnodot⟩
      rw [segmentPieces, if_neg hnil, if_neg hstar]
    · cases h
  · cases h

/-- **Segments are read from their pieces**, and from no others. -/
theorem mapM_segment?_eq_some_iff {groups : List (List Piece)} {segments : List (List Char)} :
    groups.mapM segment? = some segments ↔
      groups = segments.map segmentPieces ∧ ∀ segment ∈ segments, '.' ∉ segment := by
  induction groups generalizing segments with
  | nil =>
    cases segments with
    | nil => simp
    | cons segment segments => simp
  | cons group groups ih =>
    rw [List.mapM_cons]
    constructor
    · intro h
      obtain ⟨segment, hsegment, h⟩ := Option.bind_eq_some_iff.mp h
      obtain ⟨more, hmore, h⟩ := Option.bind_eq_some_iff.mp h
      cases h
      obtain ⟨hgroup, hdot⟩ := eq_segmentPieces_of_segment? hsegment
      obtain ⟨hgroups, hdots⟩ := ih.mp hmore
      exact ⟨by rw [hgroup, hgroups, List.map_cons], List.forall_mem_cons.mpr ⟨hdot, hdots⟩⟩
    · rintro ⟨hgroups, hdots⟩
      cases segments with
      | nil => cases hgroups
      | cons segment segments =>
        obtain ⟨hdot, hdots⟩ := List.forall_mem_cons.mp hdots
        obtain ⟨hgroup, hmore⟩ := List.cons.inj hgroups
        rw [hgroup, segment?_segmentPieces hdot, ih.mpr ⟨hmore, hdots⟩]
        rfl

theorem bare_dot_not_mem_segmentPieces (segment : List Char) : .bare '.' ∉ segmentPieces segment := by
  unfold segmentPieces
  split
  · exact List.not_mem_nil
  · split <;> simp

/-- **Reading undoes quoting, and reads nothing else**: the texts that stand for a name are those that it
    is quoted as. -/
theorem unquote?_eq_some_iff (d : Dialect) {text ident : String} :
    d.unquote? text = some ident ↔ text = d.quote ident := by
  constructor
  · intro h
    obtain ⟨pieces, hpieces, h⟩ := Option.bind_eq_some_iff.mp h
    obtain ⟨segments, hsegments, h⟩ := Option.bind_eq_some_iff.mp h
    cases h
    obtain ⟨hgroups, hdots⟩ := mapM_segment?_eq_some_iff.mp hsegments
    have hne : segments ≠ [] := by
      rintro rfl
      exact List.splitOn_ne_nil _ _ hgroups
    -- the pieces are those of the segments, and the text is what they are written as
    have htext : text.toList = joinWith '.' (segments.map d.quoteSegment) := by
      rw [← written_of_pieces? hpieces, ← written_intercalate, ← hgroups, List.intercalate_splitOn]
    apply String.toList_inj.mp
    rw [htext, quote, String.toList_ofList, String.toList_ofList, splitAt_joinWith hne hdots]
  · rintro rfl
    have hsplit : (namePieces ident).splitOn (.bare '.') =
        (splitAt '.' ident.toList).map segmentPieces := by
      refine List.splitOn_intercalate _ ?_ (by simpa using splitAt_ne_nil '.' ident.toList)
      intro group hgroup
      obtain ⟨segment, -, rfl⟩ := List.mem_map.mp hgroup
      exact bare_dot_not_mem_segmentPieces segment
    have hsegments : ((namePieces ident).splitOn (.bare '.')).mapM segment? =
        some (splitAt '.' ident.toList) :=
      mapM_segment?_eq_some_iff.mpr ⟨hsplit, fun _ => not_mem_of_mem_splitAt⟩
    rw [unquote?, pieces?_quote]
    show (((namePieces ident).splitOn (.bare '.')).mapM segment?).bind _ = _
    rw [hsegments]
    show some (String.ofList (joinWith '.' (splitAt '.' ident.toList))) = some ident
    rw [joinWith_splitAt, String.ofList_toList]

/-- **Quoting loses nothing, and no name escapes it.** A text that is quoted as one identifier is one
    token that stands for this text. A dotted name is quoted as the pieces of its segments between bare
    dots, so that dots and stars are all there is outside of its tokens, whatever the name holds. The name
    is read off the quoted one and off no other text, and different names are quoted differently. -/
theorem quote_readsBack (d : Dialect) (ident : String) :
    pieces? d.quoteChar (d.quoteIdent ident).toList =
        some (if ident = "" then [] else [.quoted ident.toList]) ∧
      pieces? d.quoteChar (d.quote ident).toList = some (namePieces ident) ∧
      (∀ c, .bare c ∈ namePieces ident → c = '.' ∨ c = '*') ∧
      (∀ text, d.unquote? text = some ident ↔ text = d.quote ident) ∧
      Function.Injective d.quote :=
  ⟨d.pieces?_quoteIdent ident, d.pieces?_quote ident, fun _ => bare_of_mem_namePieces,
    fun _ => d.unquote?_eq_some_iff, d.quote_injective⟩

/-- A name that ends its own quotes at either end, with a star, an empty segment and SQL between. -/
theorem hostileName_readsBack :
    Dialect.postgres.quote "\"\"; DROP.*..x\"" = "\"\"\"\"\"; DROP\".*..\"x\"\"\"" ∧
      Dialect.postgres.unquote? "\"\"\"\"\"; DROP\".*..\"x\"\"\"" = some "\"\"; DROP.*..x\"" := by
  have hquote :
      "\"\"\"\"\"; DROP\".*..\"x\"\"\"" = Dialect.postgres.quote "\"\"; DROP.*..x\"" := by decide
  obtain ⟨-, -, -, hread, -⟩ := quote_readsBack .postgres "\"\"; DROP.*..x\""
  exact ⟨hquote.symm, (hread _).mpr hquote⟩

end Dialect

end FluentSql
