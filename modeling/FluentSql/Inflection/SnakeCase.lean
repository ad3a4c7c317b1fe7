import FluentSql.Text.Case
import FluentSql.Text.WordChar
/-!
# `FluentSql.Inflection.SnakeCase` — names as lower-case words joined by underscores

A name is cut into pieces at every character that is neither letter nor number, and pieces into words
where a capital follows a small letter, or where the last of several capitals begins a word in small
letters. `snakeCase` lowers the words and joins them.
-/

namespace FluentSql.Inflection

open FluentSql.Text

/-- The case of the letters of a word so far; digits leave it as it is. -/
inductive LetterCase where
  | boundary
  | lower
  | upper
  deriving DecidableEq, Repr

/-- The case after one more character. -/
def LetterCase.after (mode : LetterCase) (c : Char) : LetterCase :=
  if isLowercase c then .lower else if isUppercase c then .upper else mode

/-- **The words of a piece.** `word` holds the characters of the current word in reverse, `mode` the
    case of its letters before the next character. -/
def pieceWords (mode : LetterCase) (word : List Char) : List Char → List (List Char)
  | [] => if word.isEmpty then [] else [word.reverse]
  | [c] => [(c :: word).reverse]
  | c :: next :: rest =>
    let after := mode.after c
    if after = .lower && isUppercase next then
      (c :: word).reverse :: pieceWords .boundary [] (next :: rest)
    else if mode = .upper && isUppercase c && isLowercase next then
      word.reverse :: pieceWords after [c] (next :: rest)
    else pieceWords after (c :: word) (next :: rest)

/-- The pieces of a name, between the characters that are neither letter nor number. -/
def pieces : List Char → List (List Char)
  | [] => [[]]
  | c :: cs =>
    if isAlphanumeric c then
      match pieces cs with
      | piece :: more => (c :: piece) :: more
      | [] => [[c]]
    else [] :: pieces cs

/-- A word in lower case; a capital sigma at its end becomes the final sigma. -/
def lowerWord : List Char → List Char
  | [] => []
  | ['Σ'] => ['ς']
  | c :: cs => lowerChar c ++ lowerWord cs

/-- **A name in snake case.** -/
def snakeCase (name : String) : String :=
  let words := (pieces name.toList).flatMap (pieceWords .boundary [])
  String.ofList (List.intercalate ['_'] (words.map lowerWord))

end FluentSql.Inflection
