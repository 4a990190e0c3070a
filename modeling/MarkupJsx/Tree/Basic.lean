import MarkupJsx.Tree.Value
import MarkupJsx.Script.Basic
import MarkupJsx.Text.Case

/-!
# Trees of markup

A tree is made of the nodes of a document (root, elements, texts, comments, doctypes) and of the
nodes of a document with components and embedded script: blocks of imports and exports,
expressions, and component elements, the latter two standing either on their own (`flow`) or in
running text (`text`).

Two kinds of node record that something was not understood.  An `unknown` node has a kind that is
none of these, and keeps its fields for whoever knows it.  A `malformed` node is a value that is no
node at all, or a node of a known kind with a field of the wrong shape, and keeps the whole value.
Neither is an error by itself: both may be reported, or skipped, when they are reached.

Every node but a malformed one may carry a position and data (`Source`).
-/

namespace MarkupJsx

/-- A point in the source text: line and column counted from one, offset from zero. -/
structure Point where
  line : Option Nat := none
  column : Option Nat := none
  offset : Option Nat := none
  deriving DecidableEq, Inhabited

/-- The stretch of source text that a node was read from. -/
structure Position where
  start : Point := {}
  stop : Point := {}
  deriving DecidableEq, Inhabited

/-- The data attached to a node: a script, if there is a readable one, and everything else. -/
structure Attachment where
  script : Option Script := none
  fields : Entries Json := []
  deriving Inhabited

/-- What every node may carry. -/
structure Source where
  position : Option Position := none
  data : Option Attachment := none
  deriving Inhabited

/-- Whether a node stands on its own or in running text. -/
inductive Placement where
  | flow
  | text
  deriving DecidableEq, Inhabited

/-- The value of a named attribute of a component. -/
inductive ComponentValue where
  | expression (source : Source)
  | literal (value : Primitive)
  deriving Inhabited

/-- An attribute of a component: a name with or without a value, or an object to take further
attributes from. -/
inductive ComponentAttribute where
  | named (source : Source) (name : String) (value : Option ComponentValue)
  | spread (source : Source)
  deriving Inhabited

/-- A node of a tree. -/
inductive Node where
  | root (source : Source) (children : List Node)
  | element (source : Source) (tagName : String) (properties : List (String × PropertyValue))
      (children : List Node)
  | text (source : Source) (value : Option String)
  | comment (source : Source) (value : String)
  | doctype (source : Source)
  | esm (source : Source)
  | expression (placement : Placement) (source : Source)
  | component (placement : Placement) (source : Source) (name : Option String)
      (attributes : List ComponentAttribute) (children : List Node)
  | unknown (source : Source) (kind : String) (fields : List (String × Json))
  | malformed (value : Json)
  deriving Inhabited

/-- The script attached to a node. -/
def Source.script (source : Source) : Option Script :=
  source.data.bind Attachment.script

namespace Node

/-- The kind of a node; a malformed node has none. -/
def kind? : Node → Option String
  | root .. => some "root"
  | element .. => some "element"
  | text .. => some "text"
  | comment .. => some "comment"
  | doctype .. => some "doctype"
  | esm .. => some "mdxjsEsm"
  | expression .flow _ => some "mdxFlowExpression"
  | expression .text _ => some "mdxTextExpression"
  | component .flow .. => some "mdxJsxFlowElement"
  | component .text .. => some "mdxJsxTextElement"
  | unknown _ kind _ => some kind
  | malformed _ => none

/-- What a node carries. -/
def source : Node → Source
  | root source _ | element source .. | text source _ | comment source _ | doctype source
  | esm source | expression _ source | component _ source .. | unknown source .. => source
  | malformed _ => {}

/-- The child nodes. -/
def children : Node → List Node
  | root _ children | element _ _ _ children | component _ _ _ _ children => children
  | _ => []

/-- A node with other child nodes.  A node of a kind that has none stays as it is. -/
def withChildren (others : List Node) : Node → Node
  | root source _ => root source others
  | element source tagName properties _ => element source tagName properties others
  | component placement source name attributes _ =>
    component placement source name attributes others
  | node => node

@[simp] theorem withChildren_children (node : Node) : node.withChildren node.children = node := by
  cases node <;> rfl

@[simp] theorem withChildren_withChildren (node : Node) (children others : List Node) :
    (node.withChildren children).withChildren others = node.withChildren others := by
  cases node <;> rfl

/-- The elements that give a table its structure. -/
def tableTags : List String :=
  ["table", "thead", "tbody", "tfoot", "tr", "th", "td"]

/-- Whether a node is an element that gives a table its structure. -/
def isTableStructure : Node → Bool
  | element _ tagName .. => tableTags.any (Text.sameLetters tagName)
  | _ => false

/-- Only an element is part of a table. -/
@[simp] theorem isTableStructure_root (source : Source) (children : List Node) :
    (root source children).isTableStructure = false := rfl

@[simp] theorem isTableStructure_component (placement : Placement) (source : Source)
    (name : Option String) (attributes : List ComponentAttribute) (children : List Node) :
    (component placement source name attributes children).isTableStructure = false := rfl

/-- Whether a node is a text of a single line break. -/
def isLineBreak : Node → Bool
  | text _ (some value) => value = "\n"
  | _ => false

end Node
end MarkupJsx
