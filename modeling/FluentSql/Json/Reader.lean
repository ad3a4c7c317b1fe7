import FluentSql.Json.Token
/-!
# `FluentSql.Json.Reader` — reading a JSON text

The tokens of a text are folded into a stack of open containers (`Frame`), so that nesting needs no
recursion. `Expect` says which token may come next. Containers nest at most 127 deep.
-/

namespace FluentSql.Json

/-- **A container that is still open**, with the items or members read so far. -/
inductive Frame where
  /-- The items in reverse. -/
  | array (items : List Json)
  /-- The members, and the name whose value is being read. -/
  | object (members : List (String × Json)) (name : String)

/-- Which token may come next. -/
inductive Expect where
  /-- A value. -/
  | value
  /-- A value, or the end of the array just opened. -/
  | valueOrEnd
  /-- A name, or the end of the object just opened. -/
  | nameOrEnd
  /-- A name. -/
  | name
  /-- The colon after a name. -/
  | colon
  /-- A comma or the end of the container. -/
  | next
  /-- Nothing: the value is complete. -/
  | done (value : Json)

/-- The containers still open, the innermost first, and what may come next. -/
structure State where
  frames : List Frame
  expect : Expect

/-- The greatest number of containers that may be open at once. -/
def maxDepth : Nat := 127

/-- A complete value goes to the innermost open container. -/
def State.complete (frames : List Frame) (value : Json) : State :=
  match frames with
  | [] => ⟨[], .done value⟩
  | .array items :: frames => ⟨.array (value :: items) :: frames, .next⟩
  | .object members name :: frames => ⟨.object (insertMember name value members) name :: frames, .next⟩

/-- A container is opened. -/
def State.push (frames : List Frame) (frame : Frame) (expect : Expect) : Option State :=
  if frames.length < maxDepth then some ⟨frame :: frames, expect⟩ else none

/-- A token that begins a value. -/
def State.beginValue (frames : List Frame) : Token → Option State
  | .openArray => State.push frames (.array []) .valueOrEnd
  | .openObject => State.push frames (.object [] "") .nameOrEnd
  | .text s => some (State.complete frames (.str s))
  | .scalar value => some (State.complete frames value)
  | _ => none

/-- **One token.** -/
def State.step (st : State) (token : Token) : Option State :=
  match st.expect, token, st.frames with
  | .value, token, frames => State.beginValue frames token
  | .valueOrEnd, .closeArray, .array items :: frames =>
    some (State.complete frames (.arr items.reverse))
  | .valueOrEnd, token, frames => State.beginValue frames token
  | .nameOrEnd, .closeObject, .object members _ :: frames =>
    some (State.complete frames (.obj members))
  | .nameOrEnd, .text name, .object members _ :: frames =>
    some ⟨.object members name :: frames, .colon⟩
  | .name, .text name, .object members _ :: frames =>
    some ⟨.object members name :: frames, .colon⟩
  | .colon, .colon, frames => some ⟨frames, .value⟩
  | .next, .comma, .array items :: frames => some ⟨.array items :: frames, .value⟩
  | .next, .comma, .object members name :: frames => some ⟨.object members name :: frames, .name⟩
  | .next, .closeArray, .array items :: frames =>
    some (State.complete frames (.arr items.reverse))
  | .next, .closeObject, .object members _ :: frames =>
    some (State.complete frames (.obj members))
  | _, _, _ => none

/-- **Reading a JSON text**: one value and nothing after it. -/
def parse? (s : String) : Option Json := do
  let tokens ← Token.scan s
  let st ← tokens.foldlM State.step ⟨[], .value⟩
  match st.expect with
  | .done value => some value
  | _ => none

end FluentSql.Json
