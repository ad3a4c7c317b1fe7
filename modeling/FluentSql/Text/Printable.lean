import FluentSql.Text.CodeRange
import FluentSql.Text.Hex
import FluentSql.Text.PrintableTables
/-!
# `FluentSql.Text.Printable` — quoting text for an error message

An error that shows a value quotes its text so that every character can be seen: quotes and
backslashes are escaped, and what prints nothing of its own is written as its code point.
-/

namespace FluentSql.Text

/-- Whether `c` shows as a mark of its own. -/
def isPrintable (c : Char) : Bool :=
  if c.toNat < 0x80 then 0x20 ≤ c.toNat && c.toNat < 0x7F
  else !inRanges unprintableRanges c

/-- One character between the quotes of a message. -/
def escapeChar (c : Char) : List Char :=
  match c with
  | '\x00' => ['\\', '0']
  | '\t' => ['\\', 't']
  | '\r' => ['\\', 'r']
  | '\n' => ['\\', 'n']
  | '"' => ['\\', '"']
  | '\\' => ['\\', '\\']
  | c => if isPrintable c then [c] else s!"\\u\x7b{Hex.ofNat c.toNat}\x7d".toList

/-- **Quoted for a message**: in double quotes, with escapes for what cannot be seen. -/
def quoteForMessage (s : String) : String :=
  String.ofList ('"' :: s.toList.flatMap escapeChar ++ ['"'])

end FluentSql.Text
