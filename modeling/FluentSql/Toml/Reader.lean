import FluentSql.Calendar
import FluentSql.Number.FloatReader
import FluentSql.Text.Split
import FluentSql.Toml
import FluentSql.Toml.Token
/-!
# `FluentSql.Toml.Reader` — reading a TOML text

The tokens of a text are read line by line; the lines then make the document. Arrays and tables in
braces nest at most `maxDepth` deep. Dates and times are checked to exist.
-/

namespace FluentSql.Toml

open FluentSql.Number FluentSql.Text

/-! ## Numbers, dates and words -/

/-- Digits whose groups are joined by single underscores, which are dropped. -/
def ungroup? (isDigit : Char → Bool) (cs : List Char) : Option (List Char) :=
  let groups := splitAt '_' cs
  if groups.all fun g => !g.isEmpty && g.all isDigit then some groups.flatten else none

/-- A sign and what follows it. -/
def splitSign : List Char → Bool × List Char
  | '-' :: cs => (true, cs)
  | '+' :: cs => (false, cs)
  | cs => (false, cs)

/-- Decimal digits without a leading zero. -/
def wholeDigits? (cs : List Char) : Option (List Char) := do
  match ← ungroup? Char.isDigit cs with
  | '0' :: _ :: _ => none
  | digits => some digits

/-- The numbers of at most 128 bits, signed or not. -/
def wholeRange : WholeRange :=
  ⟨-0x80000000000000000000000000000000, 0xffffffffffffffffffffffffffffffff⟩

/-- A number of that range. -/
def bounded? (n : Int) : Option Toml :=
  if wholeRange.contains n then some (.int n) else none

/-- The number that digits spell in a base. -/
def radix? (base : Nat) (cs : List Char) : Option Toml := do
  let value (c : Char) : Option Nat := (Hex.digit? c).filter (· < base)
  let digits ← ungroup? (fun c => (value c).isSome) cs
  bounded? (digits.foldl (fun n c => base * n + (value c).getD 0) 0 : Nat)

/-- A whole number. -/
def int? : List Char → Option Toml
  | '0' :: 'x' :: cs => radix? 16 cs
  | '0' :: 'o' :: cs => radix? 8 cs
  | '0' :: 'b' :: cs => radix? 2 cs
  | cs => do
    let (negative, cs) := splitSign cs
    let n : Int := digitsValue (← wholeDigits? cs)
    bounded? (if negative then -n else n)

/-- The text of a float cut at its exponent. -/
def splitExponent (cs : List Char) : List Char × Option (List Char) :=
  match splitAt 'e' (cs.map fun c => if c == 'E' then 'e' else c) with
  | [mantissa] => (mantissa, none)
  | mantissa :: rest => (mantissa, some (joinWith 'e' rest))
  | [] => ([], none)

/-- A float: digits on both sides of a point, an exponent, or both; or `inf` or `nan`. A number out of
    range is none. -/
def float? (cs : List Char) : Option Toml := do
  let (negative, cs) := splitSign cs
  let l ← match cs with
    | ['i', 'n', 'f'] => some Literal.infinite
    | ['n', 'a', 'n'] => some Literal.nan
    | cs => do
      let (mantissa, exponent) := splitExponent cs
      let exponent ← match exponent with
        | none => some []
        | some cs =>
          let (negative, cs) := splitSign cs
          (ungroup? Char.isDigit cs).map fun digits =>
            'e' :: (if negative then '-' :: digits else digits)
      match splitAt '.' mantissa with
      | [whole] =>
        if exponent.isEmpty then none else decimal? ((← wholeDigits? whole) ++ exponent)
      | [whole, fraction] =>
        decimal? ((← wholeDigits? whole) ++ '.' :: (← ungroup? Char.isDigit fraction) ++ exponent)
      | _ => none
  let x := l.round nearestDouble
  if x.isInfinite && l != .infinite then none else some (.float (x.withSign negative))

/-- A number of `width` digits in a range, and what follows it. -/
def fixed? (width : Nat) (range : WholeRange) (cs : List Char) : Option (Nat × List Char) :=
  let digits := cs.take width
  let n := digitsValue digits
  if digits.length = width && digits.all Char.isDigit && range.contains n then
    some (n, cs.drop width)
  else none

/-- What follows a mark. -/
def after? (mark : Char) : List Char → Option (List Char)
  | c :: cs => if c == mark then some cs else none
  | [] => none

/-- What follows a date that exists. -/
def afterDate? (cs : List Char) : Option (List Char) := do
  let (year, cs) ← fixed? 4 ⟨0, 9999⟩ cs
  let (month, cs) ← fixed? 2 ⟨1, 12⟩ (← after? '-' cs)
  let (_, cs) ← fixed? 2 ⟨1, Date.daysInMonth year month⟩ (← after? '-' cs)
  pure cs

/-- What follows hours and minutes. -/
def afterMinutes? (cs : List Char) : Option (List Char) := do
  let (_, cs) ← fixed? 2 ⟨0, 23⟩ cs
  let (_, cs) ← fixed? 2 ⟨0, 59⟩ (← after? ':' cs)
  pure cs

/-- What follows a time of day, with or without seconds and their fraction. A minute has 61 seconds at
    most. -/
def afterClock? (cs : List Char) : Option (List Char) := do
  match ← afterMinutes? cs with
  | ':' :: cs =>
    let (_, cs) ← fixed? 2 ⟨0, 60⟩ cs
    match cs with
    | '.' :: c :: cs => if c.isDigit then some (cs.dropWhile Char.isDigit) else none
    | cs => some cs
  | cs => some cs

/-- What may follow the time of day of a date: nothing, `Z`, or a sign, hours and minutes. -/
def isOffset : List Char → Bool
  | [] => true
  | ['Z'] => true
  | ['z'] => true
  | '+' :: cs => afterMinutes? cs == some []
  | '-' :: cs => afterMinutes? cs == some []
  | _ => false

/-- **A date, a time or both.** -/
def moment? (cs : List Char) : Option Toml :=
  let isMoment :=
    match afterDate? cs with
    | some [] => true
    | some (sep :: clock) =>
      ['T', 't', ' '].contains sep && ((afterClock? clock).map isOffset).getD false
    | none => afterClock? cs == some []
  if isMoment then some (.moment (String.ofList cs)) else none

/-- **A value that is not quoted.** -/
def scalar? (cs : List Char) : Option Toml :=
  match String.ofList cs with
  | "true" => some (.bool true)
  | "false" => some (.bool false)
  | _ => (int? cs).or ((float? cs).or (moment? cs))

/-! ## Reading tokens -/

/-- How deep arrays and tables nest, and how many parts a key has. -/
def maxDepth : Nat := 80

/-- A reader of tokens. -/
abbrev Read := StateT (List Token) Option

namespace Read

/-- The next token, left in place. -/
def peek : Read (Option Token) := return (← get).head?

/-- The next token. -/
def next : Read Token := do
  match ← get with
  | [] => failure
  | token :: tokens =>
    set tokens
    return token

/-- Exactly this mark. -/
def mark (c : Char) : Read Unit := do
  unless (← next) = .mark c do failure

/-- Whether this mark comes next; it is passed. -/
def tryMark (c : Char) : Read Bool := do
  if (← peek) = some (.mark c) then
    let _ ← next
    return true
  else return false

/-- Whether a token is a blank. -/
def isBlank : Token → Bool
  | .blank _ => true
  | _ => false

/-- Blanks passed. -/
def skipBlanks : Read Unit := modify fun ts => ts.dropWhile isBlank

/-- Blanks and line ends passed. -/
def skipLines : Read Unit := modify fun ts => ts.dropWhile fun t => isBlank t || t = .newline

/-- A key without points: letters, digits, dashes and underscores, or a string of one line. -/
def simpleKey : Read String := do
  match ← next with
  | .atom cs =>
    if cs.all fun c => c.isAlphanum || c == '_' || c == '-' then return String.ofList cs
    else failure
  | .string s false => return s
  | _ => failure

/-- The keys that follow points, at most so many. -/
def furtherKeys : Nat → Read (List String)
  | 0 => return []
  | n + 1 => do
    skipBlanks
    if ← tryMark '.' then
      skipBlanks
      let key ← simpleKey
      return key :: (← furtherKeys n)
    else return []

/-- **A key**, with blanks around it and its points. It has at most `maxDepth` parts. -/
def key : Read (List String) := do
  skipBlanks
  let first ← simpleKey
  let further ← furtherKeys (← get).length
  if further.length < maxDepth then return first :: further else failure

/-- The characters of atoms and points up to any other token. -/
def plainChars : List Token → List Char
  | .atom cs :: ts => cs ++ plainChars ts
  | .mark '.' :: ts => '.' :: plainChars ts
  | _ => []

/-- Those tokens passed. -/
def dropPlain : List Token → List Token
  | .atom _ :: ts => dropPlain ts
  | .mark '.' :: ts => dropPlain ts
  | ts => ts

/-- **An unquoted value**; a date may be followed by a space and a time. -/
def plain : Read Toml := do
  let cs := plainChars (← get)
  modify dropPlain
  match ← get with
  | .blank ' ' :: .atom (c :: time) :: ts =>
    if afterDate? cs == some [] && c.isDigit then
      let more := plainChars (.atom (c :: time) :: ts)
      set (dropPlain ts)
      StateT.lift (scalar? (cs ++ ' ' :: more))
    else StateT.lift (scalar? cs)
  | _ => StateT.lift (scalar? cs)

/-- Parts with commas between them, up to a closing mark; the last may be followed by one. -/
def parts {α : Type} (item : Read α) (close : Char) : Nat → Read (List α)
  | 0 => failure
  | n + 1 => do
    skipLines
    if ← tryMark close then return []
    let a ← item
    skipLines
    if ← tryMark ',' then return a :: (← parts item close n)
    mark close
    return [a]

/-- A value without parts. -/
def simple : Read Toml := do
  match ← peek with
  | some (.string s _) =>
    let _ ← next
    return .str s
  | some (.atom _) => plain
  | _ => failure

/-- **A value**, whose arrays and tables nest at most so deep. Between the parts of both, and around
    the sign of equality in braces, lines may end. -/
def value : Nat → Read Toml
  | 0 => simple
  | depth + 1 => do
    match ← peek with
    | some (.mark '[') =>
      let _ ← next
      return .arr false (← parts (value depth) ']' ((← get).length + 1))
    | some (.mark '\x7b') =>
      let _ ← next
      let entries ← parts (do
          let path ← key
          skipLines
          mark '='
          skipLines
          return (path, ← value depth)) '\x7d' ((← get).length + 1)
      StateT.lift (inBraces? entries)
    | _ => simple

/-- **A line** that is not blank. -/
def line : Read Line := do
  if ← tryMark '[' then
    if ← tryMark '[' then
      let path ← key
      mark ']'
      mark ']'
      return .arrayHeader path
    let path ← key
    mark ']'
    return .header path
  let path ← key
  mark '='
  skipBlanks
  return .entry path (← value maxDepth)

/-- The lines up to the end, at most so many. -/
def lines : Nat → Read (List Line)
  | 0 => return []
  | n + 1 => do
    skipLines
    if (← get).isEmpty then return []
    let first ← line
    skipBlanks
    match ← peek with
    | none | some .newline => return first :: (← lines n)
    | _ => failure

end Read

/-- **Reading a document.** -/
def parse? (s : String) : Option Entries := do
  let tokens ← Token.scan s
  let (lines, _) ← (Read.lines (tokens.length + 1)).run tokens
  ofLines? lines

end FluentSql.Toml
