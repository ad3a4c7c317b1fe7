import FluentSql.Text.Hex
/-!
# `FluentSql.Toml.Token` — the tokens of a TOML text

`Token.scan` cuts a text into tokens, one character at a time: `Mode` is what the characters read so
far leave open. Blanks and line ends are tokens, because they matter; comments are not. A number or a
date is several tokens, because a point stands alone.
-/

namespace FluentSql.Toml

open FluentSql.Text

/-- **A token.** -/
inductive Token where
  | mark (c : Char)
  /-- A space or a tab. -/
  | blank (c : Char)
  | newline
  /-- Letters, digits and the signs of numbers and dates. -/
  | atom (text : List Char)
  /-- A string, of one line or (`multi`) of several. -/
  | string (text : String) (multi : Bool)
  deriving DecidableEq, Inhabited

/-- What the characters read so far leave open; collected characters are in reverse. -/
inductive Mode where
  | between
  | atom (read : List Char)
  | comment
  /-- After a carriage return, which a line feed must follow. -/
  | carriage
  /-- After one quote or (`two`) two. -/
  | opening (q : Char) (two : Bool)
  /-- After three quotes; the first line end is left out, and `carriage` is half of it. -/
  | opened (q : Char) (carriage : Bool)
  | string (q : Char) (multi : Bool) (read : List Char)
  /-- After a carriage return in a string of several lines. -/
  | lineEnd (q : Char) (read : List Char)
  /-- After quotes in a string of several lines. -/
  | closing (q : Char) (read : List Char) (count : Nat)
  | escape (multi : Bool) (read : List Char)
  /-- Inside a numeric escape that still has digits to come. -/
  | numeric (multi : Bool) (read : List Char) (left : Nat) (value : Nat)
  /-- After a backslash that joins lines; `line` once the line has ended. -/
  | joining (read : List Char) (line : Bool)

/-- The characters of atoms. -/
def isAtomChar (c : Char) : Bool :=
  c.isAlphanum || c == '_' || c == '-' || c == '+' || c == ':'

/-- Control characters, which stand neither in strings nor in comments. -/
def isControl (c : Char) : Bool :=
  (c.toNat < 0x20 && c != '\t') || c.toNat == 0x7f

/-- A finished string. -/
def stringToken (read : List Char) (multi : Bool) : Token :=
  .string (String.ofList read.reverse) multi

/-- A character that begins a token. -/
def begin? (c : Char) : Option (Mode × List Token) :=
  if c == '\n' then some (.between, [.newline])
  else if c == '\r' then some (.carriage, [])
  else if c == ' ' || c == '\t' then some (.between, [.blank c])
  else if c == '#' then some (.comment, [])
  else if c == '"' || c == '\'' then some (.opening c false, [])
  else if "=,.[]\x7b\x7d".toList.contains c then some (.between, [.mark c])
  else if isAtomChar c then some (.atom [c], [])
  else none

/-- A token is complete and the next one begins. -/
def turn (token : Token) (c : Char) : Option (Mode × List Token) := do
  let (mode, tokens) ← begin? c
  pure (mode, token :: tokens)

/-- A character of a string. -/
def scanString (q : Char) (multi : Bool) (read : List Char) (c : Char) :
    Option (Mode × List Token) :=
  if c == q then
    if multi then some (.closing q read 1, []) else some (.between, [stringToken read false])
  else if c == '\\' && q == '"' then some (.escape multi read, [])
  else if multi && c == '\n' then some (.string q multi (c :: read), [])
  else if multi && c == '\r' then some (.lineEnd q (c :: read), [])
  else if isControl c then none
  else some (.string q multi (c :: read), [])

/-- The character after a backslash. -/
def scanEscape (multi : Bool) (read : List Char) (c : Char) : Option Mode :=
  match c with
  | 'b' => some (.string '"' multi ('\x08' :: read))
  | 't' => some (.string '"' multi ('\t' :: read))
  | 'n' => some (.string '"' multi ('\n' :: read))
  | 'f' => some (.string '"' multi ('\x0c' :: read))
  | 'r' => some (.string '"' multi ('\r' :: read))
  | 'e' => some (.string '"' multi ('\x1b' :: read))
  | '"' => some (.string '"' multi ('"' :: read))
  | '\\' => some (.string '"' multi ('\\' :: read))
  | 'x' => some (.numeric multi read 2 0)
  | 'u' => some (.numeric multi read 4 0)
  | 'U' => some (.numeric multi read 8 0)
  | ' ' | '\t' | '\r' => if multi then some (.joining read false) else none
  | '\n' => if multi then some (.joining read true) else none
  | _ => none

/-- The quotes that belong to a string before the three that end it. -/
def withQuotes (q : Char) (count : Nat) (read : List Char) : List Char :=
  List.replicate count q ++ read

/-- **One character.** The mode after it and the tokens it completes. -/
def scanChar (mode : Mode) (c : Char) : Option (Mode × List Token) :=
  match mode with
  | .between => begin? c
  | .atom read =>
    if isAtomChar c then some (.atom (c :: read), []) else turn (.atom read.reverse) c
  | .comment =>
    if c == '\n' then some (.between, [.newline])
    else if c == '\r' then some (.carriage, [])
    else if isControl c then none
    else some (.comment, [])
  | .carriage => if c == '\n' then some (.between, [.newline]) else none
  | .opening q false =>
    if c == q then some (.opening q true, []) else scanString q false [] c
  | .opening q true =>
    if c == q then some (.opened q false, []) else turn (stringToken [] false) c
  | .opened q carriage =>
    if c == '\n' then some (.string q true [], [])
    else if carriage then none
    else if c == '\r' then some (.opened q true, [])
    else scanString q true [] c
  | .string q multi read => scanString q multi read c
  | .lineEnd q read => if c == '\n' then some (.string q true (c :: read), []) else none
  | .closing q read count =>
    if c == q && count < 5 then some (.closing q read (count + 1), [])
    else if 3 ≤ count then turn (stringToken (withQuotes q (count - 3) read) true) c
    else scanString q true (withQuotes q count read) c
  | .escape multi read => (scanEscape multi read c).map (·, [])
  | .numeric multi read left value => do
    let value := 16 * value + (← Hex.digit? c)
    if left ≤ 1 then
      if value.isValidChar then some (.string '"' multi (Char.ofNat value :: read), []) else none
    else some (.numeric multi read (left - 1) value, [])
  | .joining read line =>
    if c == '\n' then some (.joining read true, [])
    else if c == ' ' || c == '\t' || c == '\r' then some (.joining read line, [])
    else if line then scanString '"' true read c
    else none

/-- The tokens that the end of the text completes. -/
def scanEnd : Mode → Option (List Token)
  | .between | .comment => some []
  | .atom read => some [.atom read.reverse]
  | .opening _ true => some [stringToken [] false]
  | .closing q read count =>
    if 3 ≤ count then some [stringToken (withQuotes q (count - 3) read) true] else none
  | _ => none

/-- The tokens of a text, read from a mode. -/
def scanFrom (mode : Mode) : List Char → Option (List Token)
  | [] => scanEnd mode
  | c :: cs => do
    let (mode, tokens) ← scanChar mode c
    let rest ← scanFrom mode cs
    pure (tokens ++ rest)

/-- **The tokens of a text**; a byte order mark before it is ignored. -/
def Token.scan (s : String) : Option (List Token) :=
  match s.toList with
  | '\ufeff' :: cs => scanFrom .between cs
  | cs => scanFrom .between cs

end FluentSql.Toml
