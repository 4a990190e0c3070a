import MarkupJsx.Script.Basic

/-!
# The expression in a script

An expression of the markup carries a script with one statement, whose expression is meant.  A
spread carries one with an object of one property, `{...rest}`, and what is spread is meant.
Scripts that hold something else, or nothing, mean nothing.
-/

namespace MarkupJsx
namespace Script

/-- A field that is there and is not `null`. -/
def present? (key : String) (fields : Entries Json) : Option Json :=
  match Entries.get? key fields with
  | some .null => none
  | other => other

/-- The expression of the first statement. -/
def firstExpression? : List Json → Option Json
  | .object fields :: _ => present? "expression" fields
  | _ => none

/-- The fields of a node of a given type. -/
def fieldsOfType? (type : String) (value : Json) : Option (Entries Json) :=
  match value with
  | .object fields =>
    match Entries.get? "type" fields with
    | some (.string name) => if name = type then some fields else none
    | _ => none
  | _ => none

/-- What the first property of the object in the first statement spreads. -/
def spreadArgument? (body : List Json) : Option Json := do
  let expression ← firstExpression? body
  let fields ← fieldsOfType? "ObjectExpression" expression
  match Entries.get? "properties" fields with
  | some (.array (first :: _)) =>
    let property ← fieldsOfType? "SpreadElement" first
    present? "argument" property
  | _ => none

end Script
end MarkupJsx
