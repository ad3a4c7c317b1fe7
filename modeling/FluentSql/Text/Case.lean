import FluentSql.Text.CaseTables
import FluentSql.Text.CodeRange
/-!
# `FluentSql.Text.Case` — upper and lower case

Two notions of case live side by side. Operators, driver names and suggestions compare ASCII letters
only (`asciiLower`, `equalIgnoringAsciiCase`). Names of tables and models are words of any script, so
their inflection uses the full case mappings of the Unicode standard (`lowercase`, `uppercase`).
-/

namespace FluentSql.Text

/-! ## ASCII case -/

/-- The text with ASCII capitals lowered and all else kept. -/
def asciiLower (s : String) : String :=
  String.ofList (s.toList.map Char.toLower)

/-- **Equality up to ASCII case.** -/
def equalIgnoringAsciiCase (s t : String) : Bool :=
  asciiLower s == asciiLower t

/-! ## Case of single letters -/

/-- The property Uppercase. -/
def isUppercase (c : Char) : Bool :=
  if c.toNat < 0x80 then c.isUpper else inStrides uppercaseStrides c

/-- The property Lowercase. -/
def isLowercase (c : Char) : Bool :=
  if c.toNat < 0x80 then c.isLower else inStrides lowercaseStrides c

/-- The other case of `c` by a table of single letters and a table of letters that become several. -/
def mapCase (single : List (Nat × Nat × Nat × Nat)) (full : List (Nat × List Nat)) (c : Char) :
    List Char :=
  match full.lookup c.toNat with
  | some image => image.map Char.ofNat
  | none =>
    match single.find? fun (low, high, step, _) =>
        low ≤ c.toNat && c.toNat ≤ high && (c.toNat - low) % step == 0 with
    | some (low, _, _, image) => [Char.ofNat (image + (c.toNat - low))]
    | none => [c]

/-- The lower case of one character: usually one letter. -/
def lowerChar (c : Char) : List Char :=
  if c.toNat < 0x80 then [c.toLower] else mapCase toLowerStrides toLowerFull c

/-- The upper case of one character: `ß` becomes two letters. -/
def upperChar (c : Char) : List Char :=
  if c.toNat < 0x80 then [c.toUpper] else mapCase toUpperStrides toUpperFull c

/-! ## Case of text -/

/-- A letter that has case at all: capital, small or a title letter such as `ǅ`. -/
def isCased (c : Char) : Bool :=
  isUppercase c || isLowercase c || inRanges titlecaseRanges c

/-- Characters that do not end a word for the choice between the two lower-case sigmas. -/
def isCaseIgnorable (c : Char) : Bool :=
  inRanges caseIgnorableRanges c

/-- Whether a cased letter comes first, skipping the characters that do not end a word. -/
def startsCased (cs : List Char) : Bool :=
  match cs.dropWhile isCaseIgnorable with
  | c :: _ => isCased c
  | [] => false

/-- The lower case of `after`, given the characters `before` it in reverse: a capital sigma that ends
    a word becomes the final sigma. -/
def lowercaseFrom (before : List Char) : List Char → List Char
  | [] => []
  | c :: after =>
    if c == 'Σ' then
      (if startsCased before && !startsCased after then 'ς' else 'σ') ::
        lowercaseFrom (c :: before) after
    else lowerChar c ++ lowercaseFrom (c :: before) after

/-- **Lower case** by the full mapping of the Unicode standard. -/
def lowercase (s : String) : String :=
  String.ofList (lowercaseFrom [] s.toList)

/-- **Upper case** by the full mapping of the Unicode standard. -/
def uppercase (s : String) : String :=
  String.ofList (s.toList.flatMap upperChar)

end FluentSql.Text
