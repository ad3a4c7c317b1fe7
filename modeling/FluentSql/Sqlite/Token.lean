import FluentSql.Text.Case
import FluentSql.Value
/-!
# `FluentSql.Sqlite.Token` — the tokens of an SQL text

`Token.scan` cuts a text into tokens, one character at a time: `Mode` is what the characters read so
far leave open. A token ends where a character comes that cannot continue it; that character then
begins the next one. The text ends at a NUL.

A parameter is a question mark with an optional number, or a mark and a name. A name may hold pairs
of colons and end with a suffix in parentheses, in which there is no space.
-/

namespace FluentSql.Sqlite

open FluentSql.Number FluentSql.Text

/-- **A token.** -/
inductive Token where
  /-- A keyword or a bare name. -/
  | word (text : String)
  /-- A name in quotes. -/
  | name (text : String)
  /-- A text, a number or bytes. -/
  | literal (v : Value)
  /-- A parameter with the character that marks it. -/
  | param (text : String)
  | mark (c : Char)
  deriving DecidableEq, Inhabited

/-- What a quoted region holds. -/
inductive Region where
  | name
  | text
  | blob
  deriving DecidableEq, Repr

/-- What the characters read so far leave open; collected characters are in reverse. -/
inductive Mode where
  | between
  | word (read : List Char)
  | number (read : List Char)
  /-- Between tokens, after a space. -/
  | spaces
  /-- After a dash or a slash, which may begin a comment. -/
  | dash
  | slash
  /-- In a comment up to the end of the line. -/
  | remark
  /-- In a comment up to a star and a slash; the character before, if there was one. -/
  | comment (last : Option Char)
  /-- A question mark and digits. -/
  | numbered (read : List Char)
  /-- A mark and what follows it; `named` once there is a character of a name. -/
  | param (read : List Char) (named : Bool)
  /-- After the first colon of a pair in a parameter. -/
  | colon (read : List Char) (named : Bool)
  /-- In the parentheses of a parameter. -/
  | suffix (read : List Char)
  | quoted (close : Char) (region : Region) (read : List Char)
  /-- After a quote that ends the region unless it is doubled. -/
  | closing (close : Char) (region : Region) (read : List Char)

/-- The characters of words and of parameter names. -/
def isWordChar (c : Char) : Bool :=
  c.isAlphanum || c == '_' || c == '$' || 0x80 ≤ c.toNat

/-- The characters between tokens. -/
def isSpace (c : Char) : Bool :=
  c == ' ' || c == '\t' || c == '\n' || c == '\r' || c == '\x0c'

/-- A number: whole if it fits, else a float. -/
def numberToken? (cs : List Char) : Option Token :=
  match parseWhole .signed64 cs, decimal? cs with
  | .ok n, _ => some (.literal (.int (Int64.ofInt n)))
  | _, some l => some (.literal (.float (l.round nearestDouble)))
  | _, none => none

/-- A finished region. -/
def regionToken? (region : Region) (cs : List Char) : Option Token :=
  match region with
  | .name => some (.name (String.ofList cs))
  | .text => some (.literal (.text (String.ofList cs)))
  | .blob => (Hex.toBytes? cs).map fun bytes => .literal (.blob bytes)

/-- The tokens that the end of an open one completes. -/
def finish : Mode → Option (List Token)
  | .between => some []
  | .spaces => some []
  | .dash => some [.mark '-']
  | .slash => some [.mark '/']
  | .remark => some []
  | .comment last => last.map fun _ => []
  | .word read => some [.word (String.ofList read.reverse)]
  | .number read => (numberToken? read.reverse).map ([·])
  | .numbered read => some [.param (String.ofList read.reverse)]
  | .param read named => if named then some [.param (String.ofList read.reverse)] else none
  | .colon _ _ => none
  | .suffix _ => none
  | .quoted _ _ _ => none
  | .closing _ region read => (regionToken? region read.reverse).map ([·])

/-- A character that begins a token. -/
def begin? (c : Char) : Option (Mode × List Token) :=
  if isSpace c then some (.spaces, [])
  else if c == '\x60' || c == '"' then some (.quoted c .name [], [])
  else if c == '\'' then some (.quoted c .text [], [])
  else if c.isDigit then some (.number [c], [])
  else if c == '?' then some (.numbered [c], [])
  else if c == ':' || c == '@' || c == '$' || c == '#' then some (.param [c] false, [])
  else if c == '-' then some (.dash, [])
  else if c == '/' then some (.slash, [])
  else if isWordChar c then some (.word [c], [])
  else if "(),*=;".toList.contains c then some (.between, [.mark c])
  else none

/-- The end of an open token and the beginning of the next. -/
def turn (mode : Mode) (c : Char) : Option (Mode × List Token) := do
  let tokens ← finish mode
  let (mode, more) ← begin? c
  pure (mode, tokens ++ more)

/-- A character of a parameter with a name; a colon needs another one behind it. -/
def scanParam (read : List Char) (named : Bool) (c : Char) (next : Option Char) :
    Option (Mode × List Token) :=
  if isWordChar c then some (.param (c :: read) true, [])
  else if c == '(' && named then some (.suffix (c :: read), [])
  else if c == ':' && next == some ':' then some (.colon (c :: read) named, [])
  else turn (.param read named) c

/-- **One character**, given the one after it. The mode after it and the tokens it completes. -/
def scanChar (mode : Mode) (c : Char) (next : Option Char) : Option (Mode × List Token) :=
  match mode with
  | .between => begin? c
  | .spaces => if c == '\x0b' then some (.spaces, []) else begin? c
  | .dash => if c == '-' then some (.remark, []) else turn .dash c
  | .slash => if c == '*' then some (.comment none, []) else turn .slash c
  | .remark => if c == '\n' then some (.spaces, []) else some (.remark, [])
  | .comment last =>
    if last == some '*' && c == '/' then some (.between, []) else some (.comment (some c), [])
  | .word read =>
    if isWordChar c then some (.word (c :: read), [])
    else if c == '\'' && (read == ['x'] || read == ['X']) then some (.quoted c .blob [], [])
    else turn mode c
  | .number read =>
    if isWordChar c || c == '.' then some (.number (c :: read), []) else turn mode c
  | .numbered read => if c.isDigit then some (.numbered (c :: read), []) else turn mode c
  | .param read named => scanParam read named c next
  | .colon read named => some (.param (c :: read) named, [])
  | .suffix read =>
    if c == ')' then some (.between, [.param (String.ofList (c :: read).reverse)])
    else if isSpace c || c == '\x0b' then none
    else some (.suffix (c :: read), [])
  | .quoted close region read =>
    if c == close then some (.closing close region read, [])
    else some (.quoted close region (c :: read), [])
  | .closing close region read =>
    if c == close then some (.quoted close region (c :: read), []) else turn mode c

/-- The tokens of a text, read from a mode. -/
def scanFrom (mode : Mode) : List Char → Option (List Token)
  | [] => finish mode
  | c :: cs => do
    let (mode, tokens) ← scanChar mode c cs.head?
    let rest ← scanFrom mode cs
    pure (tokens ++ rest)

/-- **The tokens of a text.** -/
def Token.scan (sql : String) : Option (List Token) :=
  scanFrom .between (sql.toList.takeWhile (· != '\x00'))

end FluentSql.Sqlite
