/-!
# `FluentSql.Placeholder` — finding the placeholders of an SQL text

A placeholder is a colon, an ASCII letter or underscore and then as many ASCII letters, digits and
underscores as follow. Nothing inside quotes is one, where a doubled quote does not end the region,
and neither is what follows the two colons of a cast.

`replaceM` passes over a text once, character by character, and asks for a replacement of every
placeholder in order; `Scan` is what the characters passed so far leave open.
-/

namespace FluentSql.Placeholder

/-- **What is open** while a text is scanned. -/
inductive Scan where
  /-- Nothing. -/
  | plain
  /-- A colon was passed. -/
  | colon
  /-- A placeholder is being read; its characters after the colon are in reverse. -/
  | token (read : List Char)
  /-- Inside quotes. -/
  | quoted (q : Char)
  /-- After a quote that ends the region unless it is doubled. -/
  | closing (q : Char)
  deriving DecidableEq, Repr

/-- The characters that open and close a quoted region. -/
def isQuote (c : Char) : Bool := c == '\'' || c == '"' || c == '\x60'

/-- The characters that a placeholder begins with. -/
def isNameStart (c : Char) : Bool := c.isAlpha || c == '_'

/-- The characters that continue a placeholder. -/
def isNameChar (c : Char) : Bool := c.isAlphanum || c == '_'

/-- The placeholder with the given characters, in reverse, after its colon. -/
def tokenText (read : List Char) : String := String.ofList (':' :: read.reverse)

variable {m : Type → Type} [Monad m]

/-- A finished placeholder: its replacement, or itself. -/
def finish (f : String → m (Option String)) (read : List Char) : m (List Char) := do
  let answer ← f (tokenText read)
  pure (answer.getD (tokenText read)).toList

/-- A character with nothing open: what is written and what it opens. -/
def fresh (c : Char) : List Char × Scan :=
  if isQuote c then ([c], .quoted c)
  else if c == ':' then ([], .colon)
  else ([c], .plain)

/-- **One character**: what is written and what is open after it. -/
def step (f : String → m (Option String)) (s : Scan) (c : Char) : m (List Char × Scan) :=
  match s with
  | .plain => pure (fresh c)
  | .colon =>
    if c == ':' then pure ([':', ':'], .plain)
    else if isNameStart c then pure ([], .token [c])
    else pure (':' :: (fresh c).1, (fresh c).2)
  | .token read =>
    if isNameChar c then pure ([], .token (c :: read))
    else do
      let written ← finish f read
      pure (written ++ (fresh c).1, (fresh c).2)
  | .quoted q => pure ([c], if c == q then .closing q else .quoted q)
  | .closing q => if c == q then pure ([c], .quoted q) else pure (fresh c)

/-- What the end of the text still writes. -/
def stop (f : String → m (Option String)) : Scan → m (List Char)
  | .token read => finish f read
  | .colon => pure [':']
  | _ => pure []

/-- The rest of a text with its placeholders replaced. -/
def replaceFrom (f : String → m (Option String)) (s : Scan) : List Char → m (List Char)
  | [] => stop f s
  | c :: cs => do
    let (written, next) ← step f s c
    let rest ← replaceFrom f next cs
    pure (written ++ rest)

/-- **Replacing placeholders**, with an effect: `f` is asked once for each placeholder, in order, and
    an answer `none` keeps it. -/
def replaceM (f : String → m (Option String)) (sql : String) : m String := do
  pure (String.ofList (← replaceFrom f .plain sql.toList))

/-- **Replacing placeholders.** -/
def replace (f : String → Option String) (sql : String) : String :=
  Id.run (replaceM (m := Id) (fun token => pure (f token)) sql)

end FluentSql.Placeholder
