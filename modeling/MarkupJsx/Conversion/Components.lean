import MarkupJsx.Conversion.State
import MarkupJsx.Script.Attach
import MarkupJsx.Script.Expression
import MarkupJsx.Tree.Origin

/-!
# Scripts and the attributes of components

Every script that is used is taken in the same way (`takeScript`): its comments are logged in the
order in which the script lists them, and its statements are used with the comments placed on
their nodes.  If the comments cannot be placed, because a sort gives up, then everything ends.

A script that does not hold what is needed is no error.  Where an expression is missing there is
an empty container, and where there is nothing to spread an empty object is spread.
-/

namespace MarkupJsx
open Jsx

namespace Conversion

variable [Sorter]

/-- The statements of the script attached to a node, if there is one, with its comments logged and
placed. -/
def takeScript (source : Source) : Conversion (Option (List Json)) :=
  match source.script with
  | none => pure none
  | some script => do
    logComments script.comments
    match script.attach with
    | some attached => pure (some attached.body)
    | none => fail .unsorted

/-- The expression in the script attached to a node. -/
def takeExpression (source : Source) : Conversion (Option Json) := do
  let body ← takeScript source
  pure (body.bind Script.firstExpression?)

/-- What the script attached to a node spreads. -/
def takeSpread (source : Source) : Conversion (Option Json) := do
  let body ← takeScript source
  pure (body.bind Script.spreadArgument?)

/-- A container with an expression of a script, or with nothing. -/
def containerOf (expression : Option Json) (inner origin : Origin) : Container :=
  match expression with
  | some value => .expression (.foreign value) origin
  | none => .empty [] inner origin

/-- The spread of an expression of a script, or of an empty object. -/
def spreadOf (argument : Option Json) (origin : Origin) : Attribute :=
  match argument with
  | some value => .spread (.foreign value) origin
  | none => .spread (.object []) origin

/-- Converts an attribute of a component. -/
def convertAttribute : ComponentAttribute → Conversion Attribute
  | .spread source => do
    let argument ← takeSpread source
    pure (spreadOf argument source.origin)
  | .named source name none => pure (.bare (.ofString name) source.origin)
  | .named source name (some (.literal value)) =>
    pure (.named (.ofString name) (.literal (.string value.text)) source.origin)
  | .named source name (some (.expression inner)) => do
    let expression ← takeExpression inner
    pure (.named (.ofString name) (.container (containerOf expression {} inner.origin))
      source.origin)

/-- Converts the attributes of a component in order. -/
def convertAttributes : List ComponentAttribute → Conversion (List Attribute)
  | [] => pure []
  | first :: rest => do
    let first ← convertAttribute first
    let others ← convertAttributes rest
    pure (first :: others)

end Conversion
end MarkupJsx
