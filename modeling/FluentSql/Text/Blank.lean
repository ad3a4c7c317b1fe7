/-!
# `FluentSql.Text.Blank` — blanks, trimming and the squeezing of blank runs

A blank is a character with the Unicode property White_Space. SQL text is laid out by joining parts
with blanks and squeezing the result: every run of blanks between two solid symbols becomes one
space, and blanks at either end vanish. `squeeze` does this for any kind of symbol, so that it works
on finished text as well as on a template whose placeholders have no name yet.

* `trim` — text without blanks at its ends;
* `squeeze`, `squeezeText` — one space between words, none at the ends.
-/

namespace FluentSql.Text

/-! ## Blanks -/

/-- **Blanks**: the characters with the Unicode property White_Space. A zero-width space is none. -/
def isBlank (c : Char) : Bool :=
  let n := c.toNat
  (0x9 ≤ n && n ≤ 0xD) || n == 0x20 || n == 0x85 || n == 0xA0 || n == 0x1680
    || (0x2000 ≤ n && n ≤ 0x200A) || n == 0x2028 || n == 0x2029 || n == 0x202F || n == 0x205F
    || n == 0x3000

theorem isBlank_space : isBlank ' ' = true := by decide

/-- Characters without blanks at either end. -/
def trimChars (cs : List Char) : List Char :=
  ((cs.dropWhile isBlank).reverse.dropWhile isBlank).reverse

/-- **Trimming.** The text without blanks at either end. -/
def trim (s : String) : String :=
  String.ofList (trimChars s.toList)

/-- Whether nothing but blanks is written. -/
def isBlankText (s : String) : Bool :=
  s.toList.all isBlank

/-! ## Squeezing -/

/-- How a symbol shows in running text: as a blank, not at all, or as itself. -/
inductive Look where
  | blank
  | invisible
  | solid
  deriving DecidableEq, Repr

/-- **Squeezing blank runs.** `started` says that a solid symbol was passed, `pending` that a blank
    was met since. A solid symbol after a pending blank is set off by one `space`; invisible symbols
    keep their place in the order and touch neither flag. -/
def squeeze {α : Type} (look : α → Look) (space : α) (started pending : Bool) : List α → List α
  | [] => []
  | a :: as =>
    match look a with
    | .blank => squeeze look space started true as
    | .invisible => a :: squeeze look space started pending as
    | .solid =>
      if started && pending then space :: a :: squeeze look space true false as
      else a :: squeeze look space true false as

/-- The look of a character: blanks are blank, all else is solid. -/
def charLook (c : Char) : Look :=
  if isBlank c then .blank else .solid

/-- Characters with one space between words and none at the ends. -/
def squeezeChars (cs : List Char) : List Char :=
  squeeze charLook ' ' false false cs

/-- **Squeezed text**: the words of `s` joined by single spaces. -/
def squeezeText (s : String) : String :=
  String.ofList (squeezeChars s.toList)

@[simp] theorem squeeze_nil {α : Type} (look : α → Look) (space : α) (started pending : Bool) :
    squeeze look space started pending [] = [] := rfl

theorem squeeze_cons_blank {α : Type} {look : α → Look} {space a : α} (h : look a = .blank)
    (started pending : Bool) (as : List α) :
    squeeze look space started pending (a :: as) = squeeze look space started true as := by
  simp [squeeze, h]

theorem squeeze_cons_invisible {α : Type} {look : α → Look} {space a : α}
    (h : look a = .invisible) (started pending : Bool) (as : List α) :
    squeeze look space started pending (a :: as) = a :: squeeze look space started pending as := by
  simp [squeeze, h]

theorem squeeze_cons_solid {α : Type} {look : α → Look} {space a : α} (h : look a = .solid)
    (started pending : Bool) (as : List α) :
    squeeze look space started pending (a :: as) =
      (if started && pending then [space] else []) ++ a :: squeeze look space true false as := by
  cases started <;> cases pending <;> simp [squeeze, h]

end FluentSql.Text
