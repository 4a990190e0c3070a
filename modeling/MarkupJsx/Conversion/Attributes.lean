import MarkupJsx.Conversion.State
import MarkupJsx.Jsx.Basic
import MarkupJsx.Text.Identifier
import MarkupJsx.Text.TokenList
import MarkupJsx.Tree.Basic

/-!
# The attributes of an element

Each property of an element becomes an attribute or nothing.  Which it is, and what the attribute
looks like, depends on the property, on the namespace and on the fashions in which names are
written, but not on the other properties and not on anything that was converted before.  So this
part of a conversion is a plain function, `attributesOf`, whose only effect is an error.

* A property with a missing value, with `false`, or, if it is either present or absent, with any
  falsy value, becomes nothing.
* `true` becomes an attribute without a value.
* A list becomes a text, joined as its property demands.
* The style becomes an object of its declarations.
* Everything else becomes a text.

An attribute whose name cannot be written as a simple name is put into an object that is spread.
-/

namespace MarkupJsx
open Jsx

/-- What is written as the value of an attribute. -/
inductive WrittenValue where
  /-- No value. -/
  | bare
  | text (value : String)
  | style (declarations : Entries String)
  deriving DecidableEq, Inhabited

namespace Conversion

/-- A list of simple values as one text. -/
def joinList (info : Vocabulary.PropertyInfo) (items : List Primitive) : String :=
  let tokens := items.map fun item => item.text.toList
  String.ofList <|
    if info.isCommaSeparated then Text.TokenList.withCommas tokens
    else Text.TokenList.withBlanks tokens

/-- A value with a list replaced by its text. -/
def flatten (info : Vocabulary.PropertyInfo) : PropertyValue → PropertyValue
  | .list items => .string (joinList info items)
  | value => value

/-- The declarations of a style.  What is neither a text nor an object has none. -/
def declarationsOf (names : StyleCase) (tagName : String) :
    PropertyValue → Except ConversionError (Entries String)
  | .string text =>
    match Style.parse text names with
    | .ok declarations => .ok declarations
    | .error fault => .error (.style tagName fault)
  | .style object => .ok (Style.ofObject object names)
  | _ => .ok []

/-- What is written as the value of an attribute of a given name. -/
def writtenValue (names : StyleCase) (tagName name : String) (value : PropertyValue) :
    Except ConversionError WrittenValue :=
  if name = "style" then (declarationsOf names tagName value).map .style
  else
    match value with
    | .bool true => .ok .bare
    | value => .ok (.text value.text)

/-- Whether a property becomes nothing. -/
def isOmitted (info : Vocabulary.PropertyInfo) (value : PropertyValue) : Bool :=
  value.isMissing || decide (value = .bool false) || (info.isBoolean && value.isFalsy)

/-- The key of a declaration: an identifier where it can be one. -/
def declarationKey (name : String) : PropertyKey :=
  if Text.isIdentifierName name then .identifier name else .literal (.string name)

/-- The object of a style. -/
def styleObject (declarations : Entries String) : Expression :=
  .object <| declarations.map fun declaration =>
    .init (declarationKey declaration.1) (.literal (.string declaration.2))

/-- A value as an expression; no value is `true`. -/
def WrittenValue.expression : WrittenValue → Expression
  | .bare => .literal ⟨.bool true, {}⟩
  | .text value => .literal (.string value)
  | .style declarations => styleObject declarations

/-- An attribute with a simple name. -/
def simpleAttribute (name : AttributeName) : WrittenValue → Attribute
  | .bare => .bare name {}
  | .text value => .named name (.literal (.string value)) {}
  | .style declarations => .named name (.container (.expression (styleObject declarations) {})) {}

/-- An attribute with any name. -/
def attributeOf (name : String) (value : WrittenValue) : Attribute :=
  if Text.isMarkupName name then simpleAttribute (.identifier name) value
  else
    .spread (.object [.init (.literal (.string name)) (WrittenValue.expression value)]) {}

/-- The attribute that a property becomes, if it becomes one. -/
def attributeFor (space : Namespace) (spelling : Spelling) (tagName property : String)
    (value : PropertyValue) : Except ConversionError (Option Attribute) :=
  let info := Vocabulary.find space property
  if isOmitted info value then .ok none
  else
    let name := info.writtenName spelling.attributes
    match writtenValue spelling.styles tagName name (flatten info value) with
    | .ok written => .ok (some (attributeOf name written))
    | .error error => .error error

/-- The attributes that properties become, in order; the first error is the error of all. -/
def attributesOf (space : Namespace) (spelling : Spelling) (tagName : String) :
    Entries PropertyValue → Except ConversionError (List Attribute)
  | [] => .ok []
  | (property, value) :: rest =>
    match attributeFor space spelling tagName property value with
    | .error error => .error error
    | .ok first =>
      match attributesOf space spelling tagName rest with
      | .error error => .error error
      | .ok others => .ok (first.toList ++ others)

/-- The attribute of the first property, if it becomes one, stands in front of the others. -/
theorem attributesOf_cons (space : Namespace) (spelling : Spelling) (tagName property : String)
    (value : PropertyValue) (rest : Entries PropertyValue) :
    attributesOf space spelling tagName ((property, value) :: rest) =
      (attributeFor space spelling tagName property value).bind fun first =>
        (attributesOf space spelling tagName rest).map (first.toList ++ ·) := by
  rw [attributesOf]
  cases attributeFor space spelling tagName property value with
  | error error => rfl
  | ok first => cases attributesOf space spelling tagName rest <;> rfl

end Conversion
end MarkupJsx
