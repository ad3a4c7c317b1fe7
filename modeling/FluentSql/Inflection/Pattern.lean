import FluentSql.Text.Case
import FluentSql.Text.WordChar
/-!
# `FluentSql.Inflection.Pattern` — patterns over the endings of words

A pattern without repetition, matched without regard to case. `Pattern.run` gives every way to match
from a position, the preferred way first: an alternative before the next one, something optional
before nothing. `Pattern.find?` takes the leftmost position with a match and the preferred way there.

A match remembers the texts of its groups in order.
-/

namespace FluentSql.Inflection

open FluentSql.Text

/-- **A pattern.** -/
inductive Pattern where
  /-- Nothing. -/
  | empty
  /-- This letter in either case. -/
  | char (c : Char)
  /-- One of these letters in either case. -/
  | oneOf (cs : List Char)
  /-- Any character but these letters in either case. -/
  | noneOf (cs : List Char)
  /-- Any character outside ASCII that is no form of an ASCII letter. -/
  | nonAscii
  /-- Any character that is no word character. -/
  | nonWord
  /-- The beginning of the text. -/
  | start
  /-- The end of the text. -/
  | stop
  /-- A place where a word begins or ends. -/
  | edge
  /-- The first, then the second. -/
  | seq (p q : Pattern)
  /-- The first or else the second. -/
  | alt (p q : Pattern)
  /-- Remembers what the pattern matches. -/
  | group (p : Pattern)
  deriving DecidableEq, Repr, Inhabited

/-- **A position in a text**: the characters before it in reverse, those after it, and the groups
    remembered so far, the last one first. -/
structure Cursor where
  before : List Char
  after : List Char
  groups : List (List Char)
  deriving DecidableEq, Repr

namespace Pattern

/-! ## Building patterns -/

/-- A word. -/
def word (s : String) : Pattern :=
  s.toList.foldr (fun c p => match p with | .empty => .char c | p => .seq (.char c) p) .empty

/-- One of several words, the first that fits. -/
def words : List String → Pattern
  | [] => .noneOf []
  | [s] => word s
  | s :: rest => .alt (word s) (words rest)

/-- One pattern after the other. -/
def all : List Pattern → Pattern
  | [] => .empty
  | [p] => p
  | p :: rest => .seq p (all rest)

/-- The first pattern that fits. -/
def any : List Pattern → Pattern
  | [] => .noneOf []
  | [p] => p
  | p :: rest => .alt p (any rest)

/-- A pattern or nothing. -/
def optional (p : Pattern) : Pattern := .alt p .empty

/-! ## Matching -/

/-- A pattern letter matches a character that has the same lower case; the long s and the Kelvin sign
    are further forms of `s` and `k`. -/
def sameLetter (letter c : Char) : Bool :=
  lowerChar letter == lowerChar c || (letter == 's' && c == 'ſ')

/-- One character taken if it is accepted. -/
def takeIf (accept : Char → Bool) (cur : Cursor) : List Cursor :=
  match cur.after with
  | c :: after => if accept c then [⟨c :: cur.before, after, cur.groups⟩] else []
  | [] => []

/-- Whether the next character in a direction is a word character. -/
def isWordAhead : List Char → Bool
  | c :: _ => isWordChar c
  | [] => false

/-- **Every way to match** from a position, the preferred way first. -/
def run : Pattern → Cursor → List Cursor
  | .empty, cur => [cur]
  | .char c, cur => takeIf (sameLetter c) cur
  | .oneOf cs, cur => takeIf (fun c => cs.any (sameLetter · c)) cur
  | .noneOf cs, cur => takeIf (fun c => !cs.any (sameLetter · c)) cur
  | .nonAscii, cur => takeIf (fun c => 0x80 ≤ c.toNat && c != 'ſ' && c != 'K') cur
  | .nonWord, cur => takeIf (fun c => !isWordChar c) cur
  | .start, cur => if cur.before.isEmpty then [cur] else []
  | .stop, cur => if cur.after.isEmpty then [cur] else []
  | .edge, cur => if isWordAhead cur.before != isWordAhead cur.after then [cur] else []
  | .seq p q, cur => (p.run cur).flatMap q.run
  | .alt p q, cur => p.run cur ++ q.run cur
  | .group p, cur => (p.run cur).map fun cur' =>
      let taken := cur'.before.take (cur'.before.length - cur.before.length)
      { cur' with groups := taken.reverse :: cur'.groups }

/-- **A match**: the text before it, its groups (the whole match first) and the text after it. -/
structure Match where
  before : List Char
  groups : List (List Char)
  after : List Char
  deriving DecidableEq, Repr

/-- The leftmost match from a position on. -/
def findFrom (p : Pattern) (before : List Char) : List Char → Option Match
  | [] => (matchAt p before []).head?
  | c :: after =>
    match (matchAt p before (c :: after)).head? with
    | some found => some found
    | none => findFrom p (c :: before) after
where
  /-- The matches at one position. -/
  matchAt (p : Pattern) (before after : List Char) : List Match :=
    (p.run ⟨before, after, []⟩).map fun cur =>
      let whole := (cur.before.take (cur.before.length - before.length)).reverse
      ⟨before.reverse, whole :: cur.groups.reverse, cur.after⟩

/-- **The leftmost match** in a text. -/
def find? (p : Pattern) (cs : List Char) : Option Match :=
  findFrom p [] cs

end Pattern

end FluentSql.Inflection
