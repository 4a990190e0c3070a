/-!
# What is known about a property

A tree names the properties of its elements in one fashion (`className`, `strokeDashArray`), and
markup names attributes in others.  For every property of HTML and SVG a row records both names,
the space it belongs to, and the forms that its values can take.

A property without a space is either one of the accessibility attributes, a data attribute, or not
known at all.  Such a property keeps its attribute name, whichever way attribute names are written.
-/

namespace MarkupJsx

/-- The namespace of markup that properties are looked up in. -/
inductive Namespace where
  | html
  | svg
  deriving DecidableEq, Inhabited

namespace Vocabulary

/-- The space that a known property belongs to. -/
inductive Space where
  | html
  | svg
  | xml
  | xlink
  | xmlns
  deriving DecidableEq, Inhabited

/-- A form that the values of a property can take. -/
inductive ValueForm where
  /-- Present or absent. -/
  | boolean
  /-- The texts `true` and `false`. -/
  | booleanish
  /-- Present, absent, or a text. -/
  | overloadedBoolean
  | number
  | spaceSeparated
  | commaSeparated
  | commaOrSpaceSeparated
  deriving DecidableEq, Inhabited

/-- The names, the space and the forms of a property. -/
structure PropertyInfo where
  propertyName : String
  attributeName : String
  space : Option Space
  forms : List ValueForm
  deriving DecidableEq, Inhabited

namespace PropertyInfo

/-- A property of which nothing is known but its names. -/
def plain (propertyName attributeName : String) : PropertyInfo :=
  ⟨propertyName, attributeName, none, []⟩

/-- Whether a property is either present or absent. -/
def isBoolean (info : PropertyInfo) : Bool :=
  info.forms.contains .boolean

/-- Whether lists are written with commas. -/
def isCommaSeparated (info : PropertyInfo) : Bool :=
  info.forms.contains .commaSeparated

@[simp] theorem isBoolean_plain (propertyName attributeName : String) :
    (plain propertyName attributeName).isBoolean = false := rfl

@[simp] theorem isCommaSeparated_plain (propertyName attributeName : String) :
    (plain propertyName attributeName).isCommaSeparated = false := rfl

end PropertyInfo
end Vocabulary
end MarkupJsx
