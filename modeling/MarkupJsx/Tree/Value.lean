import MarkupJsx.Json.Decode
import MarkupJsx.Decimal.Layout

/-!
# Property values

A property of an element is nothing, a truth value, a number, a text, a list of simple values, or
an object of simple values (an inline style).  All numbers of a tree are doubles, whether or not
their text was that of an integer.

Three questions are asked of a value: whether it counts as absent (`isMissing`), whether a
property that is either present or absent would be absent with it (`isFalsy`), and what its text
is (`text`).
-/

namespace MarkupJsx

/-- A truth value, a number or a text. -/
inductive Primitive where
  | bool (value : Bool)
  | number (value : Binary64)
  | string (value : String)
  deriving DecidableEq, Inhabited

/-- The value of a property. -/
inductive PropertyValue where
  | null
  | bool (value : Bool)
  | number (value : Binary64)
  | string (value : String)
  | list (items : List Primitive)
  | style (declarations : Entries Primitive)
  deriving DecidableEq, Inhabited

namespace Primitive

/-- Reads a simple value. -/
def ofJson? : Json → Option Primitive
  | .bool value => some (bool value)
  | .number value => some (number value.toBinary64)
  | .string value => some (string value)
  | _ => none

/-- The text of a truth value. -/
def boolText (value : Bool) : String :=
  if value then "true" else "false"

/-- The text of a number. -/
def numberText (value : Binary64) : String :=
  String.ofList value.toAttributeText

/-- The text of a simple value. -/
def text : Primitive → String
  | bool value => boolText value
  | number value => numberText value
  | string value => value

end Primitive

namespace PropertyValue

/-- Reads the value of a property. -/
def ofJson? : Json → Option PropertyValue
  | .null => some null
  | .bool value => some (bool value)
  | .number value => some (number value.toBinary64)
  | .string value => some (string value)
  | .array items => (items.mapM Primitive.ofJson?).map list
  | .object fields => (Entries.mapM? Primitive.ofJson? fields).map style

/-- Whether a value counts as absent whatever the property is. -/
def isMissing : PropertyValue → Bool
  | null => true
  | number value => value.isNan
  | _ => false

/-- Whether a property that is either present or absent is absent with this value. -/
def isFalsy : PropertyValue → Bool
  | null => true
  | bool value => !value
  | number value => value.isZero || value.isNan
  | string value => value.isEmpty
  | list _ | style _ => false

/-- The text of a value.  The items of a list are joined with commas, and an object has no text
of its own. -/
def text : PropertyValue → String
  | null => "null"
  | bool value => Primitive.boolText value
  | number value => Primitive.numberText value
  | string value => value
  | list items => String.intercalate "," (items.map Primitive.text)
  | style _ => "[object Object]"

end PropertyValue
end MarkupJsx
