import FluentSql.Inflection.Pattern
/-!
# `FluentSql.Inflection.English` — singular and plural of English words

A word is looked up among the irregular words, then among the words without a plural, and else takes
the first rule whose pattern it matches. A rule replaces the match by a text in which `$0` stands for
the whole match and `$1`, `$2`, … for its groups; a `$` that the word itself holds is read as a mark
too. The result takes over the case of the word.

* `English.singular`, `English.plural` — the two directions;
* `English.matchCase` — a text in the case of a word.
-/

namespace FluentSql.Inflection.English

open FluentSql.Text Pattern

/-! ## Words -/

/-- **Irregular words**: singular and plural. -/
def irregular : List (String × String) := [
  ("I", "we"), ("me", "us"), ("he", "they"), ("she", "they"), ("them", "them"),
  ("myself", "ourselves"), ("yourself", "yourselves"), ("itself", "themselves"),
  ("herself", "themselves"), ("himself", "themselves"), ("themself", "themselves"),
  ("is", "are"), ("was", "were"), ("has", "have"), ("this", "these"), ("that", "those"),
  ("my", "our"), ("its", "their"), ("his", "their"), ("her", "their"), ("echo", "echoes"),
  ("dingo", "dingoes"), ("volcano", "volcanoes"), ("tornado", "tornadoes"),
  ("torpedo", "torpedoes"), ("genus", "genera"), ("viscus", "viscera"), ("stigma", "stigmata"),
  ("stoma", "stomata"), ("dogma", "dogmata"), ("lemma", "lemmata"), ("schema", "schemata"),
  ("anathema", "anathemata"), ("ox", "oxen"), ("axe", "axes"), ("die", "dice"),
  ("yes", "yeses"), ("foot", "feet"), ("eave", "eaves"), ("goose", "geese"), ("tooth", "teeth"),
  ("quiz", "quizzes"), ("human", "humans"), ("proof", "proofs"), ("carve", "carves"),
  ("valve", "valves"), ("looey", "looies"), ("thief", "thieves"), ("groove", "grooves"),
  ("pickaxe", "pickaxes"), ("passerby", "passersby"), ("canvas", "canvases")]

/-- **Words without a plural.** -/
def uncountable : List String := [
  "adulthood", "advice", "agenda", "aid", "aircraft", "alcohol", "ammo", "analytics", "anime",
  "athletics", "audio", "bison", "blood", "bream", "buffalo", "butter", "carp", "cash",
  "chassis", "chess", "clothing", "cod", "commerce", "cooperation", "corps", "debris",
  "diabetes", "digestion", "elk", "energy", "equipment", "excretion", "expertise", "firmware",
  "flounder", "fun", "gallows", "garbage", "graffiti", "hardware", "headquarters", "health",
  "herpes", "highjinks", "homework", "housework", "information", "jeans", "justice", "kudos",
  "labour", "literature", "machinery", "mackerel", "mail", "media", "mews", "moose", "music",
  "mud", "manga", "news", "only", "personnel", "pike", "plankton", "pliers", "police",
  "pollution", "premises", "rain", "research", "rice", "salmon", "scissors", "series", "sewage",
  "shambles", "shrimp", "software", "staff", "swine", "tennis", "traffic", "transportation",
  "trout", "tuna", "wealth", "welfare", "whiting", "wildebeest", "wildlife", "you"]

/-! ## Rules -/

/-- **A rule**: what a word has to match and what takes the place of the match. -/
structure Rule where
  pattern : Pattern
  placement : String

/-- An ending: the patterns one after the other, then the end of the word. -/
def ending (ps : List Pattern) : Pattern := .all (ps ++ [.stop])

/-- One of the words, remembered as a group. -/
def stem (ws : List String) : Pattern := .group (.words ws)

/-- Any letter but the vowels. -/
def consonant : Pattern := .noneOf ['a', 'e', 'i', 'o', 'u']

/-- Endings that are the same in singular and plural. -/
def unchanged : List Rule := [
  ⟨ending [.word "sheep"], "$0"⟩,
  ⟨ending [.word "pox"], "$0"⟩,
  ⟨ending [.char 'o', .oneOf ['i', 'u'], .char 's'], "$0"⟩,
  ⟨ending [.word "measles"], "$0"⟩,
  ⟨ending [.word "fish"], "$0"⟩,
  ⟨ending [.word "deer"], "$0"⟩,
  ⟨ending [consonant, .word "ese"], "$0"⟩,
  ⟨ending [.word "pok", .oneOf ['e', 'é'], .word "mon"], "$0"⟩]

/-- Latin stems in `us` and `i`. -/
def stemsInUs : List String :=
  ["alumn", "syllab", "vir", "radi", "nucle", "fung", "cact", "stimul", "termin", "bacill", "foc",
    "uter", "loc", "strat"]

/-- Latin stems in `um` and `a`. -/
def stemsInUm : List String :=
  ["agend", "addend", "millenni", "dat", "extrem", "bacteri", "desiderat", "strat", "candelabr",
    "errat", "ov", "symposi", "curricul", "quor"]

/-- The stems in `um` and `a` that form plurals, in the order in which they are tried. -/
def pluralStemsInUm : List String :=
  ["agend", "addend", "millenni", "dat", "extrem", "bacteri", "desiderat", "strat", "candelabr",
    "errat", "ov", "symposi", "curricul", "automat", "quor"]

/-- Greek stems in `on` and `a`. -/
def stemsInOn : List String :=
  ["apheli", "hyperbat", "periheli", "asyndet", "noumen", "phenomen", "criteri", "organ",
    "prolegomen", "hedr", "automat"]

/-- `m`, `titm` and `l`: mice, titmice and lice, at the beginning of a word. -/
def mouseStem : Pattern :=
  .seq .edge (.group (.alt (.seq (.optional (.word "tit")) (.char 'm')) (.char 'l')))

/-- **The plural rules**, the first that matches applies. -/
def pluralRules : List Rule := unchanged ++ [
  ⟨.all [.start, .word "thou", .stop], "you"⟩,
  ⟨ending [.char 'm', .oneOf ['a', 'e'], .char 'n'], "men"⟩,
  ⟨ending [.word "eaux"], "$0"⟩,
  ⟨ending [stem ["child"], .optional (.word "ren")], "$1ren"⟩,
  ⟨ending [stem ["pe"], .words ["rson", "ople"]], "$1ople"⟩,
  ⟨ending [mouseStem, .words ["ice", "ouse"]], "$1ice"⟩,
  ⟨ending [stem ["matr", "cod", "mur", "sil", "vert", "ind", "append"], .words ["ix", "ex"]],
    "$1ices"⟩,
  ⟨ending [stem ["x", "ch", "ss", "sh", "zz"]], "$1es"⟩,
  ⟨ending [.group (.all [.noneOf ['c', 'h'], .oneOf ['i', 'e', 'o'], .oneOf ['l', 'n']]),
    .word "ey"], "$1ies"⟩,
  ⟨ending [.group (.alt (.noneOf ['a', 'e', 'i', 'o', 'u', 'y']) (.word "qu")), .char 'y'], "$1ies"⟩,
  ⟨ending [.alt (.seq (stem ["kni", "wi", "li"]) (.word "fe"))
    (.seq (stem ["ar", "l", "ea", "eo", "oa", "hoo"]) (.char 'f'))], "$1$2ves"⟩,
  ⟨ending [.word "sis"], "ses"⟩,
  ⟨ending [stem stemsInOn, .words ["a", "on"]], "$1a"⟩,
  ⟨ending [stem pluralStemsInUm, .words ["a", "um"]], "$1a"⟩,
  ⟨ending [stem ["her", "at", "gr"], .char 'o'], "$1oes"⟩,
  ⟨ending [stem ["seraph", "cherub"], .optional (.word "im")], "$1im"⟩,
  ⟨ending [stem ["alumn", "alg", "vertebr"], .words ["a", "ae"]], "$1ae"⟩,
  ⟨ending [stem stemsInUs, .words ["us", "i"]], "$1i"⟩,
  ⟨ending [.group (.any [.seq (.noneOf ['l']) (.word "ias"),
    .seq (.oneOf ['a', 'e', 'i', 'o', 'u']) (.word "las"),
    .seq (.oneOf ['e', 'j', 'z', 'r']) (.word "as"), .seq (.oneOf ['i', 'u']) (.word "am")])], "$1"⟩,
  ⟨ending [.group (.all [.char 'e', .oneOf ['m', 'n'], .char 'u']), .optional (.char 's')], "$1s"⟩,
  ⟨ending [.group (.any [.word "alias", .seq (.noneOf ['a', 'o', 'u']) (.word "us"),
    .all [.char 't', .oneOf ['l', 'm'], .word "as"], .word "gas", .word "ris"])], "$1es"⟩,
  ⟨ending [stem ["ax", "test"], .word "is"], "$1es"⟩,
  ⟨ending [.group (.seq consonant (.word "ese"))], "$1"⟩,
  ⟨ending [.nonAscii], "$0"⟩,
  ⟨ending [.optional (.char 's')], "s"⟩]

/-- **The singular rules**, the first that matches applies. -/
def singularRules : List Rule := unchanged ++ [
  ⟨ending [.word "men"], "man"⟩,
  ⟨ending [stem ["eau"], .optional (.char 'x')], "$1"⟩,
  ⟨ending [stem ["child"], .word "ren"], "$1"⟩,
  ⟨ending [stem ["pe"], stem ["rson", "ople"]], "$1rson"⟩,
  ⟨ending [stem ["matr", "append"], .word "ices"], "$1ix"⟩,
  ⟨ending [stem ["cod", "mur", "sil", "vert", "ind"], .word "ices"], "$1ex"⟩,
  ⟨ending [stem ["alumn", "alg", "vertebr"], .word "ae"], "$1a"⟩,
  ⟨ending [stem stemsInOn, .char 'a'], "$1on"⟩,
  ⟨ending [stem stemsInUm, .char 'a'], "$1um"⟩,
  ⟨ending [stem stemsInUs, .words ["us", "i"]], "$1us"⟩,
  ⟨ending [stem ["test"], .words ["is", "es"]], "$1is"⟩,
  ⟨ending [.group (.any [.word "movie", .word "twelve", .word "abuse",
    .all [.char 'e', .oneOf ['m', 'n'], .char 'u']]), .char 's'], "$1"⟩,
  ⟨ending [stem ["analy", "diagno", "parenthe", "progno", "synop", "the", "empha", "cri", "ne"],
    .words ["sis", "ses"]], "$1sis"⟩,
  ⟨ending [.group (.any [.words ["x", "ch", "ss", "sh", "zz", "tto", "go", "cho", "alias"],
    .seq (.noneOf ['a', 'o', 'u']) (.word "us"), .all [.char 't', .oneOf ['l', 'm'], .word "as"],
    .word "gas", .seq (.words ["her", "at", "gr"]) (.char 'o'),
    .seq (.oneOf ['a', 'e', 'i', 'o', 'u']) (.word "ris")]), .optional (.word "es")], "$1"⟩,
  ⟨ending [stem ["seraph", "cherub"], .word "im"], "$1"⟩,
  ⟨ending [mouseStem, .word "ice"], "$1ouse"⟩,
  ⟨ending [.edge, stem ["mon", "smil"], .word "ies"], "$1ey"⟩,
  ⟨ending [.edge, .group (.any [.char 'l',
    .seq (.optional (.words ["neck", "cross", "hog", "aun"])) (.char 't'),
    .words ["coll", "faer", "food", "gen", "goon", "group", "hipp", "junk", "vegg"],
    .seq (.optional (.word "pork")) (.char 'p'), .words ["charl", "calor", "cut"]]), .word "ies"],
    "$1ie"⟩,
  ⟨ending [stem ["dg", "ss", "ois", "lk", "ok", "wn", "mb", "th", "ch", "ec", "oal", "is", "ck", "ix",
    "sser", "ts", "wb"], .word "ies"], "$1ie"⟩,
  ⟨ending [.word "ies"], "y"⟩,
  ⟨ending [.group (.any [.word "ar", .seq (.alt (.word "wo") (.oneOf ['a', 'e'])) (.char 'l'),
    .seq (.oneOf ['e', 'o']) (.oneOf ['a', 'o'])]), .word "ves"], "$1f"⟩,
  ⟨ending [.group (.any [.word "wi", .word "kni",
    .seq (.any [.words ["after", "half", "high", "low", "mid", "non", "night"], .nonWord, .start])
      (.word "li")]), .word "ves"], "$1fe"⟩,
  ⟨ending [stem ["ss"]], "$1"⟩,
  ⟨ending [.char 's'], ""⟩]

/-! ## Case -/

/-- Whether the first character is a capital. -/
def startsUppercase (s : String) : Bool :=
  match s.toList with
  | c :: _ => isUppercase c
  | [] => false

/-- **A text in the case of a word**: small for a small word, capital for a capital one, unchanged for
    a word that begins with a capital. -/
def matchCase (word text : String) : String :=
  if word == text then text
  else if word == lowercase word then lowercase text
  else if word == uppercase word then uppercase text
  else if startsUppercase word && !text.isEmpty then text
  else lowercase text

/-! ## Applying a rule -/

/-- Every mark `$digit` replaced by a text. -/
def fillMark (digit : Char) (text : List Char) : List Char → List Char
  | '$' :: c :: cs =>
    if c = digit then text ++ fillMark digit text cs else '$' :: fillMark digit text (c :: cs)
  | c :: cs => c :: fillMark digit text cs
  | [] => []

/-- Every mark that no group fills is dropped, and a `$` at the end. -/
def dropMarks : List Char → List Char
  | '$' :: _ :: cs => dropMarks cs
  | ['$'] => []
  | c :: cs => c :: dropMarks cs
  | [] => []

/-- The marks of a text filled by the groups, the first group for the mark `$index`. -/
def fillMarks (word : String) (index : Nat) (groups : List (List Char)) (text : List Char) :
    List Char :=
  match groups with
  | [] => text
  | g :: rest =>
    fillMarks word (index + 1) rest
      (fillMark (Nat.digitChar index) (matchCase word (String.ofList g)).toList text)

/-- **A rule applied to a word**, if the word matches: the match is replaced first, then the marks of
    the whole text are filled or dropped. -/
def Rule.inflect? (word : String) (rule : Rule) : Option String :=
  (rule.pattern.find? word.toList).map fun found =>
    let placed := found.before ++ (matchCase word rule.placement).toList ++ found.after
    String.ofList (dropMarks (fillMarks word 0 found.groups placed))

/-! ## The two directions -/

/-- A word turned by `table` and `rules`, unless it is one of the words to `keep`. -/
def turn (keep : List String) (table : List (String × String)) (rules : List Rule)
    (word : String) : String :=
  let token := lowercase word
  if keep.contains token then matchCase word token
  else
    match table.lookup token with
    | some image => matchCase word image
    | none =>
      if uncountable.contains token then word
      else (rules.findSome? (Rule.inflect? word)).getD word

/-- **The singular** of a word. Of several singulars of an irregular plural the last is taken. -/
def singular (word : String) : String :=
  if word.isEmpty then ""
  else turn (irregular.map Prod.fst) (irregular.reverse.map Prod.swap) singularRules word

/-- **The plural** of a word. -/
def plural (word : String) : String :=
  if word.isEmpty then "" else turn (irregular.map Prod.snd) irregular pluralRules word

end FluentSql.Inflection.English
