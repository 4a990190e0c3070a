import MarkupJsx.Proofs.Conversion.Rules
import MarkupJsx.Script.InsertionSort

/-!
# A conversion preserves the document

The outline of a document is what is left of it without positions, data, attributes and code: names,
texts and comments, in their order and nesting.  It is read off both sides.

* `Program.outline` reads the output, by its own structure alone: elements and fragments with what
  is inside them, literal texts, empty containers with one comment, and containers that hold
  foreign code or nothing.  Anything else would show as `Outline.other`.
* `Node.outline` reads the tree, without any state, limit or error.  Everything appears in it but
  doctypes, blocks of imports and exports, empty texts, line breaks that are children of the
  elements of a table in HTML, and the whitespace at the two ends of a root.

The main statement is `outline_of_toProgram`: **whenever a tree has a program, the program reads as
the tree does.**  What is put around a tree that is no single element or fragment is a fragment.
-/

namespace MarkupJsx
open Jsx

/-- What is left of a piece of a document without positions, data, attributes and code. -/
inductive Outline where
  | element (name : String) (inside : List Outline)
  | fragment (inside : List Outline)
  | text (value : String)
  | comment (value : String)
  | expression
  | other
  deriving Inhabited

namespace Outline

/-- A text of nothing but whitespace. -/
def isLayout : Outline → Bool
  | text value => value.toList.all Jsx.isLayout
  | _ => false

/-- What stands in a program for a tree: an element or a fragment by itself, and anything else in a
fragment. -/
def whole : List Outline → List Outline
  | [] => []
  | [element name inside] => [element name inside]
  | [fragment inside] => [fragment inside]
  | others => [fragment others]

end Outline

/-! ## Reading the output -/

namespace Jsx

/-- A container with a literal text is a text; an empty one with a single comment is that comment;
one with foreign code or with nothing is an expression. -/
def Container.outline : Container → Outline
  | .empty [] _ _ => .expression
  | .empty [comment] _ _ => .comment comment.text
  | .empty (_ :: _ :: _) _ _ => .other
  | .expression (.literal ⟨.string value, _⟩) _ => .text value
  | .expression (.foreign _) _ => .expression
  | .expression _ _ => .other

mutual

/-- An element is read by its written name. -/
def Markup.outline : Markup → Outline
  | .element _ name _ _ children _ => .element name.toString (childrenOutline children)
  | .fragment _ _ children _ => .fragment (childrenOutline children)
termination_by structural value => value

/-- The outline of a child. -/
def Child.outline : Child → Outline
  | .markup value => value.outline
  | .container value => value.outline
  | .foreign _ => .other
termination_by structural value => value

/-- The outlines of children. -/
def childrenOutline : List Child → List Outline
  | [] => []
  | child :: rest => child.outline :: childrenOutline rest
termination_by structural children => children

end

@[simp] theorem childrenOutline_eq_map (children : List Child) :
    childrenOutline children = children.map Child.outline := by
  induction children with
  | nil => rfl
  | cons child rest ih => rw [childrenOutline, ih, List.map_cons]

/-- The outline of an expression of the program. -/
def Expression.outline : Expression → Outline
  | .markup value => value.outline
  | _ => .other

/-- The outlines of the statements that do not come from scripts. -/
def Program.outline (program : Program) : List Outline :=
  program.body.filterMap fun
    | .expression value _ => some value.outline
    | .foreign _ => none

/-- A child is whitespace exactly if it reads as whitespace. -/
theorem Child.isLayout_outline (child : Child) : child.outline.isLayout = child.isLayout := by
  match child with
  | .markup (.element ..) => rfl
  | .markup (.fragment ..) => rfl
  | .foreign _ => rfl
  | .container (.empty [] _ _) => rfl
  | .container (.empty [_] _ _) => rfl
  | .container (.empty (_ :: _ :: _) _ _) => rfl
  | .container (.expression (.literal ⟨.string _, _⟩) _) => rfl
  | .container (.expression (.literal ⟨.bool _, _⟩) _) => rfl
  | .container (.expression (.foreign _) _) => rfl
  | .container (.expression (.markup _) _) => rfl
  | .container (.expression (.object _) _) => rfl

end Jsx

/-! ## Reading the tree -/

namespace Node

mutual

/-- What appears of a node in the output, in a given namespace. -/
def outline (space : Namespace) : Node → List Outline
  | .root _ children => [.fragment (Text.trimBy Outline.isLayout (outlines space false children))]
  | .element source tagName properties children =>
    let inside := Conversion.innerSpace space tagName
    let isTable := (Node.element source tagName properties children).isTableStructure
    [.element tagName (outlines inside (inside = .html && isTable) children)]
  | .text _ none => []
  | .text _ (some value) => if value = "" then [] else [.text value]
  | .comment _ value => [.comment value]
  | .doctype _ => []
  | .esm _ => []
  | .expression _ _ => [.expression]
  | .component _ _ (some name) _ children =>
    [.element name (outlines (Conversion.innerSpace space name) false children)]
  | .component _ _ none _ children => [.fragment (outlines space false children)]
  | .unknown _ _ _ => [.other]
  | .malformed _ => [.other]
termination_by structural node => node

/-- What appears of nodes one after the other; with `skipBreaks` without texts of a single line
break. -/
def outlines (space : Namespace) (skipBreaks : Bool) : List Node → List Outline
  | [] => []
  | node :: rest =>
    (if skipBreaks && node.isLineBreak then [] else node.outline space) ++
      outlines space skipBreaks rest
termination_by structural nodes => nodes

end

/-- What appears of nodes one after the other is what appears of each of them that is kept. -/
theorem outlines_eq_flatMap (space : Namespace) (skipBreaks : Bool) (nodes : List Node) :
    outlines space skipBreaks nodes =
      (if skipBreaks then nodes.filter (!·.isLineBreak) else nodes).flatMap (outline space) := by
  induction nodes with
  | nil => cases skipBreaks <;> rfl
  | cons node rest ih =>
    rw [outlines, ih]
    cases skipBreaks with
    | false => rfl
    | true =>
      rw [if_pos rfl, if_pos rfl, List.filter_cons]
      cases node.isLineBreak <;> rfl

/-- What appears of the children of a node is what appears of those that are kept. -/
theorem outlines_children (space : Namespace) (node : Node) :
    outlines space (space = .html && node.isTableStructure) node.children =
      (node.keptChildren space).flatMap (outline space) := by
  rw [outlines_eq_flatMap, keptChildren]
  simp only [Bool.and_eq_true, decide_eq_true_eq]

end Node

/-! ## The rules -/

/-- What a node became reads as expected: it is nothing, one piece of markup, or one container. -/
def Converted.Reads (expected : List Outline) : Converted → Prop
  | .nothing => expected = []
  | .one (.markup value) => expected = [value.outline]
  | .one (.container value) => expected = [value.outline]
  | .one (.foreign _) => False
  | .many _ => False

theorem Converted.Reads.children {expected : List Outline} {converted : Converted}
    (h : converted.Reads expected) : converted.children.map Child.outline = expected := by
  match converted, h with
  | .nothing, h => exact h.symm
  | .one (.markup _), h => exact h.symm
  | .one (.container _), h => exact h.symm

/-- What the kept children of a node became reads, put together, as these children do. -/
theorem map_outline_of_results {space : Namespace} {node : Node} {results : List Converted}
    (h : List.Forall₂ (fun child result => result.Reads (child.outline space))
      (node.keptChildren space) results) :
    (results.flatMap Converted.children).map Child.outline =
      Node.outlines space (space = .html && node.isTableStructure) node.children := by
  rw [Node.outlines_children]
  generalize node.keptChildren space = kept at h
  induction h with
  | nil => rfl
  | cons hfirst _ ih =>
    rw [List.flatMap_cons, List.flatMap_cons, List.map_append, Converted.Reads.children hfirst, ih]

namespace Conversion

/-- The children of a root lose the same whitespace on both sides. -/
theorem reads_rootFragment {children : List Child} {expected : List Outline}
    (h : children.map Child.outline = expected) (origin : Origin) :
    (Converted.one (.markup (rootFragment children origin))).Reads
      [.fragment (Text.trimBy Outline.isLayout expected)] := by
  have hclass : Outline.isLayout ∘ Child.outline = Child.isLayout :=
    funext Child.isLayout_outline
  rw [Converted.Reads, rootFragment, dropOuterLayout_none, Markup.fragmentOf,
    Markup.outline, childrenOutline_eq_map, ← h, Text.trimBy_map, hclass]

theorem reads_elementOf {children : List Child} {expected : List Outline}
    (h : children.map Child.outline = expected) (raw : String) (attributes : List Attribute)
    (origin : Origin) :
    (Converted.one (.markup (.elementOf (.ofString raw) attributes children origin))).Reads
      [.element raw expected] := by
  rw [Converted.Reads, Markup.elementOf, Markup.outline,
    ElementName.toString_ofString, childrenOutline_eq_map, h]

theorem reads_fragmentOf {children : List Child} {expected : List Outline}
    (h : children.map Child.outline = expected) (origin : Origin) :
    (Converted.one (.markup (.fragmentOf children origin))).Reads [.fragment expected] := by
  rw [Converted.Reads, Markup.fragmentOf, Markup.outline, childrenOutline_eq_map, h]

/-- A text is a container with that text, or nothing. -/
theorem convertText_reads (space : Namespace) (source : Source) (value : Option String) :
    (convertText source value).Reads ((Node.text source value).outline space) := by
  cases value with
  | none => rfl
  | some value =>
    rw [convertText, Node.outline]
    by_cases h : value = ""
    · rw [if_pos h, h]
      rfl
    · have hempty : value.isEmpty = false := by simpa using h
      rw [if_neg h, Option.getD_some, hempty]
      rfl

/-- The container of an expression never holds a text or a comment. -/
theorem outline_containerOf (expression : Option Json) (inner origin : Origin) :
    (containerOf expression inner origin).outline = .expression := by
  cases expression <;> rfl

/-- **Each rule keeps what is to be kept of a node,** if it is kept of the nodes inside. -/
theorem reads_of_madeFrom [Sorter] {space : Namespace} {spelling : Spelling} {node : Node}
    {converted : Converted}
    (h : MadeFrom (fun space node converted => converted.Reads (node.outline space)) space
      spelling node converted) :
    converted.Reads (node.outline space) := by
  obtain ⟨results, hresults, hmade⟩ := h
  have hinside := map_outline_of_results hresults
  cases hmade with
  | root source children =>
    rw [Node.isTableStructure_root, Bool.and_false] at hinside
    rw [Node.outline]
    exact reads_rootFragment hinside source.origin
  | element source tagName properties children =>
    rw [Node.outline]
    exact reads_elementOf hinside tagName _ source.origin
  | text source value => exact convertText_reads space source value
  | comment source value => rfl
  | doctype source => rfl
  | esm source => rfl
  | expression placement source =>
    show _ = [(containerOf _ _ _).outline]
    rw [outline_containerOf, Node.outline]
  | component placement source name attributes children =>
    rw [Node.isTableStructure_component, Bool.and_false] at hinside
    cases name with
    | none =>
      rw [Node.outline]
      exact reads_fragmentOf hinside source.origin
    | some name =>
      rw [Node.outline]
      exact reads_elementOf hinside name _ source.origin

/-- What is to be kept of a node is kept, however many levels it has. -/
theorem ensures_convert [Sorter] (limit levels : Nat) (start : State) (node : Node) :
    Ensures start (convert (fun _ => none) limit levels node) fun converted _ _ =>
      converted.Reads (node.outline start.space) :=
  ensures_convert_of (fun _ _ _ => reads_of_madeFrom) limit levels start node rfl

end Conversion

/-! ## The whole program -/

/-- A container by itself is put into a fragment. -/
theorem whole_container (value : Container) :
    Outline.whole [value.outline] = [.fragment [value.outline]] := by
  match value with
  | .empty [] _ _ => rfl
  | .empty [_] _ _ => rfl
  | .empty (_ :: _ :: _) _ _ => rfl
  | .expression (.literal ⟨.string _, _⟩) _ => rfl
  | .expression (.literal ⟨.bool _, _⟩) _ => rfl
  | .expression (.foreign _) _ => rfl
  | .expression (.markup _) _ => rfl
  | .expression (.object _) _ => rfl

/-- The expression of a program reads as what the tree became, in a fragment if need be. -/
theorem outline_treeStatement {expected : List Outline} {converted : Converted}
    (h : converted.Reads expected) (origin : Origin) :
    (Program.mk (treeStatement origin converted) [] origin).outline = Outline.whole expected := by
  match converted, h with
  | .nothing, h => rw [h]; rfl
  | .one (.markup (.element ..)), h => rw [h]; rfl
  | .one (.markup (.fragment ..)), h => rw [h]; rfl
  | .one (.container value), h =>
    rw [h, whole_container]
    rfl

/-- The statements taken from scripts are no part of the outline. -/
theorem outline_programOf {state : State} {statements : List Json}
    (h : state.statements = statements.map .foreign) (origin : Origin) (converted : Converted) :
    (programOf origin converted state).outline =
      (Program.mk (treeStatement origin converted) [] origin).outline := by
  have hforeign : ∀ statements : List Json,
      (Program.mk (statements.map Statement.foreign) [] origin).outline = [] := by
    intro statements
    induction statements with
    | nil => rfl
    | cons first rest ih => exact ih
  show List.filterMap _ (state.statements ++ _) = _
  rw [h, List.filterMap_append]
  exact congrArg (· ++ _) (hforeign statements)

/-- **A conversion preserves the document.**  Whenever a tree is converted, in any namespace, in any
fashions and with any limit, and without overrides, then the program reads as the tree does: each
node appears once, in its place, and with what is to be kept of it. -/
theorem outline_of_toProgram [Sorter] (space : Namespace) (spelling : Spelling) (maxDepth : Nat)
    (tree : Node) (program : Program)
    (h : toProgram { space, spelling, maxDepth } tree = .ok program) :
    program.outline = Outline.whole (tree.outline space) := by
  obtain ⟨converted, after, hrun, hprogram⟩ := exists_of_toProgram_eq_ok h
  obtain ⟨statements, hstatements⟩ := Conversion.exists_statements_of_run_convert rfl hrun
  rw [hprogram, outline_programOf hstatements]
  refine outline_treeStatement ?_ _
  exact Conversion.ensures_convert maxDepth maxDepth { space, spelling } tree converted after hrun

/-- A document with each of the things that are left out: whitespace at the two ends, a doctype, a
line break in a table, and an empty text. -/
def tableDocument : Node :=
  .root {} [.text {} (some "\n"), .doctype {},
    .element {} "TABLE" [] [.text {} (some "\n"), .element {} "td" [] [.comment {} "a"]],
    .component .flow {} (some "a.b:c") [] [.text {} (some ""), .text {} (some " ")],
    .component .flow {} none [] [.expression .flow {}],
    .text {} (some " ")]

open scoped Sorting.Insertion in
theorem outline_of_toProgram_table :
    ∃ program, toProgram {} tableDocument = .ok program ∧
      program.outline = [.fragment [.element "TABLE" [.element "td" [.comment "a"]],
        .element "a.b:c" [.text " "], .fragment [.expression]]] := by
  have succeeds : (toProgram {} tableDocument).toOption.isSome = true := by decide +kernel
  rcases h : toProgram {} tableDocument with error | program
  · rw [h] at succeeds
    exact nomatch succeeds
  · refine ⟨program, rfl, ?_⟩
    rw [outline_of_toProgram .html {} 512 tableDocument program h]
    rfl

end MarkupJsx
