import MarkupJsx.Conversion.State
import MarkupJsx.Tree.Origin

/-!
# What a node becomes, and how a caller can say so

A node becomes nothing, one child, or several children (`Converted`).  A caller can replace what
nodes of a kind become by an override.

An override does not compute with the state: it answers a `Recipe`, a sequence of requests that the
conversion carries out.  A recipe can have nodes converted, and the children of a node; do so in
another namespace; log a comment or a statement; fail; go on according to what the requests gave;
and go on after an error of a request, which it then gets to see.  It cannot go on after a sort that
has given up, since this ends the program.  It cannot see the state or the depth of the tree.  So
whatever holds of the requests, and of doing one after the other, holds of all overrides.
-/

namespace MarkupJsx
open Jsx (Child Statement)

/-- What a node becomes. -/
inductive Converted where
  | nothing
  | one (child : Child)
  | many (children : List Child)
  deriving Inhabited

/-- The children that a node becomes. -/
def Converted.children : Converted → List Child
  | nothing => []
  | one child => [child]
  | many children => children

/-- What an override asks for, and what it gets. -/
inductive Recipe : Type → Type 1 where
  /-- Nothing: this is the result. -/
  | done {α : Type} (result : α) : Recipe α
  /-- An error. -/
  | fail {α : Type} (error : ConversionError) : Recipe α
  /-- To convert a node. -/
  | convert (node : Node) : Recipe Converted
  /-- To convert the children of a node. -/
  | convertChildren (parent : Node) : Recipe (List Child)
  /-- To do something in another namespace. -/
  | within {α : Type} (space : Namespace) (inner : Recipe α) : Recipe α
  /-- To do something that may fail, and to get the error if it does. -/
  | attempt {α : Type} (inner : Recipe α) : Recipe (Except ConversionError α)
  /-- To log a comment. -/
  | comment (value : Comment) : Recipe Unit
  /-- To log a statement. -/
  | statement (value : Statement) : Recipe Unit
  /-- To do something, and then something else that may depend on the result. -/
  | andThen {α β : Type} (first : Recipe α) (next : α → Recipe β) : Recipe β

/-- What the nodes of a kind become. -/
abbrev Override := Node → Recipe Converted

namespace Conversion

variable (convert : Node → Conversion Converted)

/-- Converts nodes in order and puts what they become in one list.  With `skipBreaks` a text of a
single line break is left out without being converted. -/
def convertNodes (skipBreaks : Bool) : List Node → Conversion (List Child)
  | [] => pure []
  | node :: rest =>
    if skipBreaks && node.isLineBreak then convertNodes skipBreaks rest
    else do
      let converted ← convert node
      let others ← convertNodes skipBreaks rest
      pure (converted.children ++ others)

/-- Converts the children of a node.  Line breaks between the parts of a table mean nothing in
HTML and are left out there. -/
def convertChildren (parent : Node) : Conversion (List Child) := do
  let space ← space
  convertNodes convert (space = .html && parent.isTableStructure) parent.children

/-- Carries out a recipe. -/
def follow {α : Type} : Recipe α → Conversion α
  | .done result => pure result
  | .fail error => Conversion.fail error
  | .convert node => convert node
  | .convertChildren parent => convertChildren convert parent
  | .within space inner => within space (follow inner)
  | .attempt inner => attempt (follow inner)
  | .comment value => logComments [value]
  | .statement value => logStatements [value]
  | .andThen first next => do
    let result ← follow first
    follow (next result)

end Conversion
end MarkupJsx
