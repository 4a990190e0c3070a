import MarkupJsx.Conversion.Attributes
import MarkupJsx.Conversion.Components
import MarkupJsx.Conversion.Override

/-!
# Converting nodes

Each kind of node has a rule of its own:

* A root is a fragment of its children, without the whitespace before the first and after the last
  of the others.
* An element is an element; its children are converted before its properties.  An element `svg`
  inside HTML, and a component of that name, is converted in the SVG namespace with everything
  inside it.
* A text is a container with a literal, and nothing if it is empty.
* A comment is logged, and is an empty container that holds it.
* A doctype is nothing, and so is a block of imports and exports, whose statements are logged.
* An expression is a container.
* A component is an element, or a fragment if it has no name.  The attributes of a fragment are
  converted, for the sake of their comments, and dropped.

The rules do not call each other.  A rule gets the function that converts inner nodes as an
argument, and `convert` closes the circle: it checks the depth, looks for an override, and hands
itself on one level deeper.  It recurses on a number of levels, since what an override asks for need
not be smaller than the node it was asked about; `convertNode` gives it as many levels as the depth
leaves, so the check of the depth always comes first.
-/

namespace MarkupJsx
open Jsx

namespace Conversion

/-- The namespace of what is inside a node with a name. -/
def innerSpace (space : Namespace) (name : String) : Namespace :=
  if space = .html && Text.sameLetters name "svg" then .svg else space

/-- The children of a root without the whitespace before the first and after the last of the
others.  The `pending` list holds the whitespace since the last child that is none; there is no such
list until there is such a child. -/
def dropOuterLayout : (pending : Option (List Child)) → List Child → List Child
  | _, [] => []
  | pending, child :: rest =>
    if child.isLayout then dropOuterLayout (pending.map (· ++ [child])) rest
    else pending.getD [] ++ child :: dropOuterLayout (some []) rest

/-- Behind the first child that is not whitespace, the pending whitespace is whitespace at the end
until another such child follows. -/
theorem dropOuterLayout_some {pending : List Child} (h : ∀ child ∈ pending, child.isLayout)
    (children : List Child) :
    dropOuterLayout (some pending) children =
      Text.dropEndWhile Child.isLayout (pending ++ children) := by
  induction children generalizing pending with
  | nil => rw [dropOuterLayout, List.append_nil, Text.dropEndWhile_eq_nil h]
  | cons child rest ih =>
    rw [dropOuterLayout]
    split
    · rename_i hchild
      have hpending : ∀ other ∈ pending ++ [child], other.isLayout := by
        intro other hother
        rcases List.mem_append.1 hother with hother | hother
        · exact h other hother
        · rw [List.mem_singleton.1 hother]
          exact hchild
      rw [Option.map_some, ih hpending, List.append_assoc, List.singleton_append]
    · rename_i hchild
      rw [Text.dropEndWhile_append_cons hchild, ih fun _ hother => (List.not_mem_nil hother).elim]
      rfl

/-- **What is kept of the children of a root:** all but the whitespace at the two ends. -/
theorem dropOuterLayout_none (children : List Child) :
    dropOuterLayout none children = Text.trimBy Child.isLayout children := by
  induction children with
  | nil => rfl
  | cons child rest ih =>
    rw [dropOuterLayout, Text.trimBy]
    split
    · rename_i hchild
      rw [List.dropWhile_cons_of_pos hchild]
      exact ih
    · rename_i hchild
      rw [List.dropWhile_cons_of_neg hchild,
        dropOuterLayout_some fun _ hother => (List.not_mem_nil hother).elim,
        ← List.nil_append (child :: rest), Text.dropEndWhile_append_cons hchild]
      rfl

/-- What is done to children without making or taking away whitespace can be done before. -/
theorem map_dropOuterLayout {f : Child → Child} (h : ∀ child, (f child).isLayout = child.isLayout)
    (children : List Child) :
    (dropOuterLayout none children).map f = dropOuterLayout none (children.map f) := by
  have hclass : Child.isLayout ∘ f = Child.isLayout := funext h
  rw [dropOuterLayout_none, dropOuterLayout_none, Text.trimBy_map, hclass]

/-- A fragment for a root. -/
def rootFragment (children : List Child) (origin : Origin) : Markup :=
  .fragmentOf (dropOuterLayout none children) origin

/-- What a text becomes. -/
def convertText (source : Source) (value : Option String) : Converted :=
  let value := value.getD ""
  if value.isEmpty then .nothing
  else
    .one (.container (.expression (.literal (.string value source.origin)) source.spanOrigin))

/-- The comment that stands for a comment of the tree. -/
def commentOf (source : Source) (value : String) : Comment :=
  { kind := .block, text := value, origin := source.origin }

/-- What a comment becomes. -/
def commentContainer (source : Source) (value : String) : Container :=
  .empty [(commentOf source value).placed false true] source.spanOrigin source.spanOrigin

variable [Sorter] (convert : Node → Conversion Converted)

/-- Converts an element. -/
def convertElement (source : Source) (tagName : String) (properties : Entries PropertyValue)
    (children : List Node) : Conversion Converted := do
  let outside ← space
  within (innerSpace outside tagName) do
    let children ← convertChildren convert (.element source tagName properties children)
    let inside ← space
    let spelling ← spelling
    let attributes ← ofExcept (attributesOf inside spelling tagName properties)
    pure (.one (.markup (.elementOf (.ofString tagName) attributes children source.origin)))

/-- The markup of a component. -/
def componentMarkup (name : Option String) (attributes : List Attribute) (children : List Child)
    (origin : Origin) : Markup :=
  match name with
  | some name => .elementOf (.ofString name) attributes children origin
  | none => .fragmentOf children origin

/-- Converts a component. -/
def convertComponent (placement : Placement) (source : Source) (name : Option String)
    (attributes : List ComponentAttribute) (children : List Node) : Conversion Converted := do
  let outside ← space
  within ((name.map (innerSpace outside)).getD outside) do
    let children ←
      convertChildren convert (.component placement source name attributes children)
    let attributes ← convertAttributes attributes
    pure (.one (.markup (componentMarkup name attributes children source.origin)))

/-- Converts a node by the rule for its kind. -/
def convertByKind : Node → Conversion Converted
  | .root source children => do
    let children ← convertChildren convert (.root source children)
    pure (.one (.markup (rootFragment children source.origin)))
  | .element source tagName properties children =>
    convertElement convert source tagName properties children
  | .text source value => pure (convertText source value)
  | .comment source value => do
    logComments [commentOf source value]
    pure (.one (.container (commentContainer source value)))
  | .doctype _ => pure .nothing
  | .esm source => do
    let body ← takeScript source
    logStatements ((body.getD []).map Statement.foreign)
    pure .nothing
  | .expression _ source => do
    let expression ← takeExpression source
    pure (.one (.container (containerOf expression source.spanOrigin source.origin)))
  | .component placement source name attributes children =>
    convertComponent convert placement source name attributes children
  | .unknown _ kind _ => fail (.unknownKind kind)
  | .malformed value => fail (.malformed value)

/-- Converts a node by the override for its kind, or else by the rule for it. -/
def convertWith (overrides : String → Option Override) (node : Node) : Conversion Converted :=
  match node.kind?.bind overrides with
  | some recipe => follow convert (recipe node)
  | none => convertByKind convert node

/-- Without overrides every node is converted by the rule for its kind. -/
theorem convertWith_none (node : Node) :
    convertWith convert (fun _ => none) node = convertByKind convert node := by
  rw [convertWith]
  cases node.kind? <;> rfl

end Conversion

/-- What is wrong with a node for which no level is left: it is malformed, or it is too deep. -/
def beyondLimit (limit : Nat) : Node → ConversionError
  | .malformed value => .malformed value
  | _ => .tooDeep limit

variable [Sorter]

/-- Converts a node with at most a given number of levels.  A malformed node is an error on any
level; any other node has to be above the limit. -/
def convert (overrides : String → Option Override) (limit : Nat) :
    (levels : Nat) → Node → Conversion Converted
  | 0, node => Conversion.fail (beyondLimit limit node)
  | levels + 1, node => do
    let depth ← Conversion.depth
    if depth < limit then
      Conversion.deeper (Conversion.convertWith (convert overrides limit levels) overrides node)
    else Conversion.fail (beyondLimit limit node)

/-- Converts a node at the depth at which the conversion is. -/
def convertNode (overrides : String → Option Override) (limit : Nat) (node : Node) :
    Conversion Converted := do
  let depth ← Conversion.depth
  convert overrides limit (limit - depth) node

@[simp] theorem convert_zero (overrides : String → Option Override) (limit : Nat) (node : Node) :
    convert overrides limit 0 node = Conversion.fail (beyondLimit limit node) := rfl

theorem convert_succ (overrides : String → Option Override) (limit levels : Nat) (node : Node) :
    convert overrides limit (levels + 1) node = (do
      let depth ← Conversion.depth
      if depth < limit then
        Conversion.deeper (Conversion.convertWith (convert overrides limit levels) overrides node)
      else Conversion.fail (beyondLimit limit node)) := rfl

theorem run_convertNode (overrides : String → Option Override) (limit : Nat) (node : Node)
    (state : State) :
    (convertNode overrides limit node).run state =
      (convert overrides limit (limit - state.depth) node).run state := rfl

end MarkupJsx
