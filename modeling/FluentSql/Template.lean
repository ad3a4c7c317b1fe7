import FluentSql.Params
import FluentSql.Text.Blank
/-!
# `FluentSql.Template` — SQL text before its parameters are named

Rendering a statement does not name parameters. It yields a template: characters, slots for values,
and parameters that come with a raw fragment under names of their own. `Template.assemble` then walks
over the template once, gives every slot a free name and collects the parameters.

So a template says all that a statement contributes, whatever parameters there are already, and its
shape does not depend on the values in its slots.

* `Template.squeeze` — single spaces between words, none at the ends;
* `Template.assemble` — the text and the parameters.
-/

namespace FluentSql

open FluentSql.Text

/-- **A symbol of a template.** -/
inductive Symbol where
  /-- A character of the text. -/
  | char (c : Char)
  /-- A placeholder to be named after a table and a column, and its value. -/
  | slot (table column : String) (value : Value)
  /-- Parameters named by the caller; no text. -/
  | given (params : Params)
  deriving Inhabited

/-- **A template.** -/
abbrev Template := List Symbol

namespace Symbol

/-- How a symbol shows in the text: blanks are blanks, slots are solid, given parameters do not
    show. -/
def look : Symbol → Look
  | .char c => charLook c
  | .slot _ _ _ => .solid
  | .given _ => .invisible

/-- Whether a symbol shows in the text at all. -/
def isVisible : Symbol → Bool
  | .given _ => false
  | _ => true

end Symbol

namespace Template

/-- The template of plain text. -/
def text (s : String) : Template := s.toList.map .char

/-- **Whether nothing shows.** -/
def isEmpty (t : Template) : Bool := t.all fun symbol => !symbol.isVisible

/-- Templates with a text between each two. -/
def joined (sep : String) : List Template → Template
  | [] => []
  | [t] => t
  | t :: ts => t ++ text sep ++ joined sep ts

/-- **Single spaces between words**, none at the ends. -/
def squeeze (t : Template) : Template :=
  Text.squeeze Symbol.look (.char ' ') false false t

/-! ## Assembling -/

/-- **One symbol**: the characters it stands for and the parameters after it. -/
def place (ps : Params) : Symbol → List Char × Params
  | .char c => ([c], ps)
  | .slot table column value =>
    let (name, ps) := ps.bind table column value
    (name.toList, ps)
  | .given params => ([], ps.merge params)

/-- **Assembling** a template after the parameters there are. -/
def assemble (ps : Params) : Template → List Char × Params
  | [] => ([], ps)
  | symbol :: t =>
    let (written, ps) := place ps symbol
    let (rest, ps) := assemble ps t
    (written ++ rest, ps)

/-! ## Views -/

/-- **The shape of a symbol**: all but its values. -/
def shapeOf : Symbol → Symbol
  | .char c => .char c
  | .slot table column _ => .slot table column .null
  | .given params => .given ⟨⟨params.entries.map fun (name, _) => (name, .null)⟩⟩

/-- **The shape of a template**: all but the values in it. -/
def shape (t : Template) : Template := t.map shapeOf

@[simp] theorem assemble_nil (ps : Params) : assemble ps [] = ([], ps) := rfl

/-- **Assembling goes from left to right**: the second part starts with the parameters that the first
    part leaves. -/
theorem assemble_append (ps : Params) (s t : Template) :
    assemble ps (s ++ t) =
      ((assemble ps s).1 ++ (assemble (assemble ps s).2 t).1, (assemble (assemble ps s).2 t).2) := by
  induction s generalizing ps with
  | nil => simp
  | cons a s ih => simp [assemble, ih]

/-- Plain text stays as it is and needs no parameters. -/
theorem assemble_text (ps : Params) (s : String) : assemble ps (text s) = (s.toList, ps) := by
  unfold text
  induction s.toList with
  | nil => rfl
  | cons c cs ih => simp [assemble, place, ih]

@[simp] theorem isEmpty_append (s t : Template) :
    isEmpty (s ++ t) = (isEmpty s && isEmpty t) := by
  simp [isEmpty, List.all_append]

end Template

end FluentSql
