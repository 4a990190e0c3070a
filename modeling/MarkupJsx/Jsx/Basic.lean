import MarkupJsx.Jsx.Name
import MarkupJsx.Script.Basic

/-!
# The output: a program with markup

The output is a program: statements taken from the tree, and one last statement whose expression
is the converted tree.  Its markup is made of elements and fragments, whose children are markup
again, or containers that hold an expression or nothing.

Statements and expressions of embedded scripts are never looked into.  They, and whatever a caller
put in place of a node, are `foreign`: JSON values that are written as they are.

The types allow more than the conversion produces.  An element says in two places that it has no
children (`selfClosing` and an absent closing name), a fragment has attributes, and a property can
be a method.  That the output is well-formed is therefore a statement about the conversion.
-/

namespace MarkupJsx
namespace Jsx

/-- What a literal stands for. -/
inductive LiteralValue where
  | string (value : String)
  | bool (value : Bool)
  deriving DecidableEq, Inhabited

/-- A literal in the output. -/
structure Literal where
  value : LiteralValue
  origin : Origin := {}
  deriving Inhabited

/-- The key of a property. -/
inductive PropertyKey where
  | identifier (name : String)
  | literal (value : Literal)
  deriving Inhabited

mutual

/-- An element or a fragment. -/
inductive Markup where
  | element (attributes : List Attribute) (name : ElementName) (selfClosing : Bool)
      (closing : Option ElementName) (children : List Child) (origin : Origin)
  | fragment (attributes : List Attribute) (selfClosing : Bool) (children : List Child)
      (origin : Origin)

/-- A child of an element or fragment. -/
inductive Child where
  | markup (value : Markup)
  | container (value : Container)
  | foreign (value : Json)

/-- A pair of braces in markup: with nothing inside but comments, or with an expression. -/
inductive Container where
  | empty (comments : List Comment) (inner : Origin) (origin : Origin)
  | expression (value : Expression) (origin : Origin)

/-- An expression. -/
inductive Expression where
  | markup (value : Markup)
  | literal (value : Literal)
  | object (properties : List Property)
  | foreign (value : Json)

/-- A property of an object expression. -/
inductive Property where
  | mk (method shorthand computed : Bool) (key : PropertyKey) (value : Expression)

/-- An attribute: present without a value, with a value, or taken from an object. -/
inductive Attribute where
  | bare (name : AttributeName) (origin : Origin)
  | named (name : AttributeName) (value : AttributeValue) (origin : Origin)
  | spread (argument : Expression) (origin : Origin)

/-- The value of an attribute. -/
inductive AttributeValue where
  | literal (value : Literal)
  | container (value : Container)

end

instance : Inhabited Markup := ⟨.fragment [] false [] {}⟩

instance : Inhabited Child := ⟨.foreign .null⟩

instance : Inhabited Expression := ⟨.foreign .null⟩

/-- A statement of the program. -/
inductive Statement where
  | expression (value : Expression) (origin : Origin)
  | foreign (value : Json)
  deriving Inhabited

/-- The whole output. -/
structure Program where
  body : List Statement
  comments : List Comment
  origin : Origin
  deriving Inhabited

/-- A text literal. -/
def Literal.string (value : String) (origin : Origin := {}) : Literal :=
  ⟨.string value, origin⟩

/-- An element with children or without; without them it closes itself. -/
def Markup.elementOf (name : ElementName) (attributes : List Attribute) (children : List Child)
    (origin : Origin) : Markup :=
  .element attributes name children.isEmpty (if children.isEmpty then none else some name)
    children origin

/-- A fragment around children. -/
def Markup.fragmentOf (children : List Child) (origin : Origin) : Markup :=
  .fragment [] false children origin

/-- A plain property. -/
def Property.init (key : PropertyKey) (value : Expression) : Property :=
  .mk false false false key value

/-- Whether a child is an element or a fragment.  A value that a caller supplied counts by its
`type`. -/
def Child.isMarkup : Child → Bool
  | .markup _ => true
  | .container _ => false
  | .foreign value =>
    match value.kind? with
    | some "JSXElement" => true
    | some "JSXFragment" => true
    | _ => false

/-- Whether a character is whitespace between elements. -/
def isLayout (c : Char) : Bool :=
  c == ' ' || c == '\t' || c == '\n' || c == '\x0c' || c == '\r'

/-- Whether a child is a text of nothing but whitespace. -/
def Child.isLayout : Child → Bool
  | .container (.expression (.literal ⟨.string value, _⟩) _) => value.toList.all Jsx.isLayout
  | _ => false

end Jsx
end MarkupJsx
