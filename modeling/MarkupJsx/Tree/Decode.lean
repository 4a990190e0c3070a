import MarkupJsx.Tree.Basic

/-!
# Reading a tree

Reading a node never fails.  What has no text under `type`, and what has a known kind with a field
of the wrong shape, becomes a malformed node with the value as it was.  Children are read one by
one, so a malformed child leaves its parent and its siblings alone.

Data attached to a node is kept as it is, in its order, apart from the script under `estree`.  A
script that cannot be read counts as absent, and the rest of the data is none the worse for it.
-/

namespace MarkupJsx

/-- Reads a point: any of its three numbers may be missing. -/
def Point.ofJson? (value : Json) : Option Point := do
  let fields ← Json.record? ["line", "column", "offset"] value
  let line ← Json.optional fields "line" Json.natural?
  let column ← Json.optional fields "column" Json.natural?
  let offset ← Json.optional fields "offset" Json.natural?
  some { line, column, offset }

/-- Reads a position: either point may be missing. -/
def Position.ofJson? (value : Json) : Option Position := do
  let fields ← Json.record? ["start", "end"] value
  let start ← Json.defaulted fields "start" {} Point.ofJson?
  let stop ← Json.defaulted fields "end" {} Point.ofJson?
  some { start, stop }

/-- The script in the fields of attached data, if there is one that can be read. -/
def Attachment.scriptOf (fields : Entries Json) : Option Script :=
  (Entries.get? "estree" fields).bind Script.ofJson?

/-- Reads attached data; only an object is data. -/
def Attachment.ofJson? (value : Json) : Option Attachment :=
  value.object?.map fun fields =>
    { script := scriptOf fields, fields := Entries.erase "estree" fields }

/-- Reads what every node may carry from the fields of a node. -/
def Source.ofFields? (fields : Entries Json) : Option Source := do
  let position ← Json.optional fields "position" Position.ofJson?
  let data ← Json.optional fields "data" Attachment.ofJson?
  some { position, data }

/-- Reads the value of an attribute as an expression.  The text of the expression has to be a
text, but only the script attached to it is used. -/
def ComponentValue.expressionOf? (value : Json) : Option ComponentValue := do
  let fields ← Json.record? ["value", "position", "data"] value
  let _ ← Json.defaulted fields "value" "" Json.string?
  let source ← Source.ofFields? fields
  some (expression source)

/-- Reads the value of an attribute: an expression, or else a simple value. -/
def ComponentValue.ofJson? (value : Json) : Option ComponentValue :=
  expressionOf? value <|> (Primitive.ofJson? value).map literal

/-- Reads a named attribute from its fields. -/
def ComponentAttribute.namedOf? (fields : Entries Json) : Option ComponentAttribute := do
  let name ← Json.required fields "name" Json.string?
  let value ← Json.optional fields "value" ComponentValue.ofJson?
  let source ← Source.ofFields? fields
  some (named source name value)

/-- Reads a spread attribute from its fields. -/
def ComponentAttribute.spreadOf? (fields : Entries Json) : Option ComponentAttribute := do
  let _ ← Json.defaulted fields "value" "" Json.string?
  let source ← Source.ofFields? fields
  some (spread source)

/-- Reads an attribute of a component, either as an object with a `type` or as an array that
starts with it. -/
def ComponentAttribute.ofJson? : Json → Option ComponentAttribute
  | .object fields =>
    match Entries.get? "type" fields with
    | some (.string "mdxJsxAttribute") => namedOf? fields
    | some (.string "mdxJsxExpressionAttribute") => spreadOf? fields
    | _ => none
  | .array (.string "mdxJsxAttribute" :: items) =>
    (Json.fieldsOfItems? ["name", "value", "position", "data"] items).bind namedOf?
  | .array (.string "mdxJsxExpressionAttribute" :: items) =>
    (Json.fieldsOfItems? ["value", "position", "data"] items).bind spreadOf?
  | _ => none

namespace Node

/-- Reads a text from its fields. -/
def textOf? (fields : Entries Json) : Option Node := do
  let value ← Json.optional fields "value" Json.string?
  let source ← Source.ofFields? fields
  some (text source value)

/-- Reads a comment from its fields. -/
def commentOf? (fields : Entries Json) : Option Node := do
  let value ← Json.defaulted fields "value" "" Json.string?
  let source ← Source.ofFields? fields
  some (comment source value)

/-- Reads a node whose own text has to be a text but is not used. -/
def scriptedOf? (make : Source → Node) (fields : Entries Json) : Option Node := do
  let _ ← Json.defaulted fields "value" "" Json.string?
  let source ← Source.ofFields? fields
  some (make source)

/-- Reads a root from its fields and its children. -/
def rootOf? (fields : Entries Json) (children : List Node) : Option Node := do
  let source ← Source.ofFields? fields
  some (root source children)

/-- Reads an element from its fields and its children. -/
def elementOf? (fields : Entries Json) (children : List Node) : Option Node := do
  let tagName ← Json.required fields "tagName" Json.string?
  let properties ← Json.defaulted fields "properties" [] (Json.entriesOf? PropertyValue.ofJson?)
  let source ← Source.ofFields? fields
  some (element source tagName properties children)

/-- Reads a component from its fields and its children. -/
def componentOf? (placement : Placement) (fields : Entries Json) (children : List Node) :
    Option Node := do
  let name ← Json.optional fields "name" Json.string?
  let attributes ← Json.defaulted fields "attributes" [] (Json.listOf? ComponentAttribute.ofJson?)
  let source ← Source.ofFields? fields
  some (component placement source name attributes children)

/-- Reads a node of a kind that is not known: everything that not every node may carry is kept. -/
def unknownOf? (kind : String) (fields : Entries Json) : Option Node := do
  let source ← Source.ofFields? fields
  let others := Entries.erase "type" (Entries.erase "position" (Entries.erase "data" fields))
  some (unknown source kind others)

mutual

/-- Reads a node. -/
def ofJson : Json → Node
  | .object fields =>
    match Entries.get? "type" fields with
    | some (.string kind) =>
      let read : Option Node :=
        match kind with
        | "root" => (childrenOf? fields).bind (rootOf? fields)
        | "element" => (childrenOf? fields).bind (elementOf? fields)
        | "text" => textOf? fields
        | "comment" => commentOf? fields
        | "doctype" => (Source.ofFields? fields).map doctype
        | "mdxjsEsm" => scriptedOf? esm fields
        | "mdxFlowExpression" => scriptedOf? (expression .flow) fields
        | "mdxTextExpression" => scriptedOf? (expression .text) fields
        | "mdxJsxFlowElement" => (childrenOf? fields).bind (componentOf? .flow fields)
        | "mdxJsxTextElement" => (childrenOf? fields).bind (componentOf? .text fields)
        | kind => unknownOf? kind fields
      read.getD (malformed (.object fields))
    | _ => malformed (.object fields)
  | value => malformed value
termination_by structural value => value

/-- Reads the children among the fields of a node: none where there is no such field. -/
def childrenOf? : List (String × Json) → Option (List Node)
  | [] => some []
  | (key, value) :: rest => if "children" = key then itemsOf? value else childrenOf? rest
termination_by structural fields => fields

/-- Reads the items of an array as nodes. -/
def itemsOf? : Json → Option (List Node)
  | .array items => some (ofItems items)
  | _ => none
termination_by structural value => value

/-- Reads nodes. -/
def ofItems : List Json → List Node
  | [] => []
  | item :: rest => ofJson item :: ofItems rest
termination_by structural items => items

end

/-- Children are read one by one. -/
@[simp] theorem ofItems_eq_map (items : List Json) : ofItems items = items.map ofJson := by
  induction items with
  | nil => rfl
  | cons item rest ih => simp [ofItems, ih]

/-- The children of a node are the nodes of the array under `children`. -/
theorem childrenOf?_eq (fields : Entries Json) :
    childrenOf? fields =
      Json.defaulted fields "children" [] fun value => value.array?.map (List.map ofJson) := by
  induction fields with
  | nil => rfl
  | cons head rest ih =>
    obtain ⟨key, value⟩ := head
    by_cases h : "children" = key
    · cases value <;>
        simp [childrenOf?, Json.defaulted, Entries.get?_cons, h, itemsOf?, Json.array?]
    · rw [childrenOf?, if_neg h, ih]
      simp [Json.defaulted, Entries.get?_cons, h]

end Node
end MarkupJsx
