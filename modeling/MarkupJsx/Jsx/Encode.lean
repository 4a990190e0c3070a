import MarkupJsx.Jsx.Basic

/-!
# The output as JSON

Every node is an object that starts with its `type`, goes on with its own fields in a fixed order,
and ends with the fields of its origin.  A closing name that is absent and a value that an
attribute does not have are written as `null`; an empty list of comments on an empty container is
not written at all.
-/

namespace MarkupJsx
namespace Jsx

/-- A node of the output: a type, fields of its own, and an origin. -/
def nodeJson (type : String) (fields : Entries Json) (origin : Origin) : Json :=
  .object (("type", .string type) :: (fields ++ origin.toFields))

/-- An identifier in markup. -/
def identifierJson (name : String) : Json :=
  nodeJson "JSXIdentifier" [("name", .string name)] {}

/-- A member of something. -/
def memberJson (object property : Json) : Json :=
  nodeJson "JSXMemberExpression" [("object", object), ("property", property)] {}

/-- A name in a namespace. -/
def namespacedJson (space name : String) : Json :=
  nodeJson "JSXNamespacedName"
    [("namespace", identifierJson space), ("name", identifierJson name)] {}

/-- A member object as JSON. -/
def MemberObject.toJson : MemberObject → Json
  | identifier name => identifierJson name
  | member object property => memberJson object.toJson (identifierJson property)

/-- The name of an element as JSON. -/
def ElementName.toJson : ElementName → Json
  | identifier name => identifierJson name
  | member object property => memberJson object.toJson (identifierJson property)
  | namespaced space name => namespacedJson space name

/-- The name of an attribute as JSON. -/
def AttributeName.toJson : AttributeName → Json
  | identifier name => identifierJson name
  | namespaced space name => namespacedJson space name

/-- A literal as JSON. -/
def Literal.toJson (literal : Literal) : Json :=
  let value :=
    match literal.value with
    | .string value => Json.string value
    | .bool value => Json.bool value
  nodeJson "Literal" [("value", value)] literal.origin

/-- The key of a property as JSON. -/
def PropertyKey.toJson : PropertyKey → Json
  | identifier name => nodeJson "Identifier" [("name", .string name)] {}
  | literal value => value.toJson

/-- The closing tag of an element as JSON. -/
def closingJson : Option ElementName → Json
  | some name => nodeJson "JSXClosingElement" [("name", name.toJson)] {}
  | none => .null

/-- The comments of an empty container as a field, where there are any. -/
def commentsField : List Comment → Entries Json
  | [] => []
  | comments => [("comments", .array (comments.map Comment.toJson))]

mutual

/-- An element or fragment as JSON. -/
def Markup.toJson : Markup → Json
  | .element attributes name selfClosing closing children origin =>
    nodeJson "JSXElement"
      [("openingElement", nodeJson "JSXOpeningElement"
        [("attributes", .array (attributesJson attributes)), ("name", name.toJson),
          ("selfClosing", .bool selfClosing)] {}),
        ("closingElement", closingJson closing),
        ("children", .array (childrenJson children))] origin
  | .fragment attributes selfClosing children origin =>
    nodeJson "JSXFragment"
      [("openingFragment", nodeJson "JSXOpeningFragment"
        [("attributes", .array (attributesJson attributes)),
          ("selfClosing", .bool selfClosing)] {}),
        ("closingFragment", nodeJson "JSXClosingFragment" [] {}),
        ("children", .array (childrenJson children))] origin
termination_by structural value => value

/-- A child as JSON. -/
def Child.toJson : Child → Json
  | .markup value => value.toJson
  | .container value => value.toJson
  | .foreign value => value
termination_by structural value => value

/-- A container as JSON. -/
def Container.toJson : Container → Json
  | .empty comments inner origin =>
    nodeJson "JSXExpressionContainer"
      [("expression", nodeJson "JSXEmptyExpression" (commentsField comments) inner)] origin
  | .expression value origin =>
    nodeJson "JSXExpressionContainer" [("expression", value.toJson)] origin
termination_by structural value => value

/-- An expression as JSON. -/
def Expression.toJson : Expression → Json
  | .markup value => value.toJson
  | .literal value => value.toJson
  | .object properties =>
    nodeJson "ObjectExpression" [("properties", .array (propertiesJson properties))] {}
  | .foreign value => value
termination_by structural value => value

/-- A property as JSON. -/
def Property.toJson : Property → Json
  | .mk method shorthand computed key value =>
    nodeJson "Property"
      [("method", .bool method), ("shorthand", .bool shorthand), ("computed", .bool computed),
        ("key", key.toJson), ("value", value.toJson), ("kind", .string "init")] {}
termination_by structural value => value

/-- An attribute as JSON. -/
def Attribute.toJson : Attribute → Json
  | .bare name origin =>
    nodeJson "JSXAttribute" [("name", name.toJson), ("value", .null)] origin
  | .named name value origin =>
    nodeJson "JSXAttribute" [("name", name.toJson), ("value", value.toJson)] origin
  | .spread argument origin =>
    nodeJson "JSXSpreadAttribute" [("argument", argument.toJson)] origin
termination_by structural value => value

/-- The value of an attribute as JSON. -/
def AttributeValue.toJson : AttributeValue → Json
  | .literal value => value.toJson
  | .container value => value.toJson
termination_by structural value => value

/-- Children as JSON. -/
def childrenJson : List Child → List Json
  | [] => []
  | child :: rest => child.toJson :: childrenJson rest
termination_by structural children => children

/-- Attributes as JSON. -/
def attributesJson : List Attribute → List Json
  | [] => []
  | first :: rest => first.toJson :: attributesJson rest
termination_by structural attributes => attributes

/-- Properties as JSON. -/
def propertiesJson : List Property → List Json
  | [] => []
  | property :: rest => property.toJson :: propertiesJson rest
termination_by structural properties => properties

end

@[simp] theorem childrenJson_eq_map (children : List Child) :
    childrenJson children = children.map Child.toJson := by
  induction children with
  | nil => rfl
  | cons child rest ih => simp [childrenJson, ih]

@[simp] theorem attributesJson_eq_map (attributes : List Attribute) :
    attributesJson attributes = attributes.map Attribute.toJson := by
  induction attributes with
  | nil => rfl
  | cons first rest ih => simp [attributesJson, ih]

@[simp] theorem propertiesJson_eq_map (properties : List Property) :
    propertiesJson properties = properties.map Property.toJson := by
  induction properties with
  | nil => rfl
  | cons property rest ih => simp [propertiesJson, ih]

/-- A node of the output is of the type that it is written with. -/
@[simp] theorem kind?_nodeJson (type : String) (fields : Entries Json) (origin : Origin) :
    (nodeJson type fields origin).kind? = some type := by
  rw [nodeJson, Json.kind?, Json.field?_object, Entries.get?_cons, if_pos rfl]
  rfl

theorem Markup.kind?_toJson (value : Markup) :
    value.toJson.kind? = some "JSXElement" ∨ value.toJson.kind? = some "JSXFragment" := by
  cases value with
  | element attributes name selfClosing closing children origin =>
    exact Or.inl (kind?_nodeJson _ _ origin)
  | fragment attributes selfClosing children origin =>
    exact Or.inr (kind?_nodeJson _ _ origin)

theorem Container.kind?_toJson (value : Container) :
    value.toJson.kind? = some "JSXExpressionContainer" := by
  cases value with
  | empty comments inner origin => exact kind?_nodeJson _ _ origin
  | expression value origin => exact kind?_nodeJson _ _ origin

/-- A child as an expression.  There is no expression for a container, so it stands for the value
that is written for it. -/
def Child.toExpression : Child → Expression
  | .markup value => .markup value
  | .container value => .foreign value.toJson
  | .foreign value => .foreign value

/-- An expression is written as the child that it was. -/
@[simp] theorem Child.toJson_toExpression (child : Child) :
    child.toExpression.toJson = child.toJson := by
  cases child <;> rfl

/-- A statement as JSON. -/
def Statement.toJson : Statement → Json
  | expression value origin =>
    nodeJson "ExpressionStatement" [("expression", value.toJson)] origin
  | foreign value => value

/-- A program as JSON. -/
def Program.toJson (program : Program) : Json :=
  nodeJson "Program"
    [("body", .array (program.body.map Statement.toJson)), ("sourceType", .string "module"),
      ("comments", .array (program.comments.map Comment.toJson))] program.origin

end Jsx
end MarkupJsx
