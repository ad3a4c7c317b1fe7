import FluentSql.Error.Config
/-!
# `FluentSql.Config.Reference` — references to the environment

A reference is a dollar sign and a name in braces; it stands for the value of that variable, which is
not looked at again. The name runs to the first closing brace. A dollar sign before anything else
stands for itself.
-/

namespace FluentSql.Config

/-- **The environment**: variables that are set. -/
abbrev Environment := String → Option String

/-- The value of a variable, given its name in reverse. -/
def resolve (env : Environment) (read : List Char) : Except ConfigFault (List Char) :=
  let name := String.ofList read.reverse
  if read.isEmpty then .error .emptyReference
  else
    match env name with
    | some value => .ok value.toList
    | none => .error (.undefinedVariable name)

/-- The rest of a text expanded, inside a reference whose name so far is in reverse, or outside. The
    first reference that cannot be resolved is the fault. -/
def expandFrom (env : Environment) : Option (List Char) → List Char → Except ConfigFault (List Char)
  | none, [] => .ok []
  | some read, [] => .error (.unterminatedReference (String.ofList read.reverse))
  | none, '$' :: '\x7b' :: cs => expandFrom env (some []) cs
  | none, c :: cs => (expandFrom env none cs).map (c :: ·)
  | some read, c :: cs =>
    if c = '\x7d' then do
      let value ← resolve env read
      let rest ← expandFrom env none cs
      return value ++ rest
    else expandFrom env (some (c :: read)) cs

/-- **A text with its references replaced.** -/
def expand (env : Environment) (s : String) : Except ConfigFault String :=
  (expandFrom env none s.toList).map String.ofList

end FluentSql.Config
