import MarkupJsx.Proofs.Conversion.Faults
import MarkupJsx.Proofs.Conversion.Outline
import MarkupJsx.Script.InsertionSort

/-!
# Which namespace an element is converted in

A conversion keeps one namespace in its state.  It is changed for what is inside `svg` and changed
back behind it, and the attributes of an element are made when everything inside the element has
been converted already.  The theory below says that none of this shows: the namespace of an element
depends on the names around it and on its own name, and on nothing that stands before it, behind it
or inside it.

* `scopeOf` is the namespace that a list of names stands for, without any order among them.
* `Node.named` lists the elements and the named components of a tree in document order, each with
  its own name and the names around it; `Program.elements` lists the elements of the output in
  document order, by the structure of the output alone.
* `NamedNode.WrittenAs` says what the element that stands for an element of the tree looks like: its
  name, its attributes, and which of its children are left out.

The main statement is `elements_of_toProgram`: **the two lists agree, place by place.**
-/

namespace MarkupJsx
open Jsx

/-! ## The namespace that names stand for -/

/-- The namespace inside nodes with given names, in a document that starts in a given namespace. -/
def scopeOf (space : Namespace) (names : List String) : Namespace :=
  if space = .svg ∨ ∃ name ∈ names, Text.sameLetters name "svg" then .svg else .html

@[simp] theorem scopeOf_nil (space : Namespace) : scopeOf space [] = space := by
  cases space <;> rfl

theorem scopeOf_eq_svg_iff (space : Namespace) (names : List String) :
    scopeOf space names = .svg ↔ space = .svg ∨ ∃ name ∈ names, Text.sameLetters name "svg" := by
  rw [scopeOf]
  split
  · rename_i h
    exact iff_of_true rfl h
  · rename_i h
    exact iff_of_false (fun hsvg => nomatch hsvg) h

theorem innerSpace_eq_svg_iff (space : Namespace) (name : String) :
    Conversion.innerSpace space name = .svg ↔ space = .svg ∨ Text.sameLetters name "svg" := by
  rw [Conversion.innerSpace]
  cases space <;> simp

/-- There are two namespaces. -/
theorem Namespace.eq_of_eq_svg_iff {left right : Namespace} (h : left = .svg ↔ right = .svg) :
    left = right := by
  cases left <;> cases right <;> simp_all

/-- **One more name** changes the namespace as entering a node of that name does. -/
theorem innerSpace_scopeOf (space : Namespace) (name : String) (names : List String) :
    Conversion.innerSpace (scopeOf space names) name = scopeOf space (name :: names) := by
  refine Namespace.eq_of_eq_svg_iff ?_
  rw [innerSpace_eq_svg_iff, scopeOf_eq_svg_iff, scopeOf_eq_svg_iff, List.exists_mem_cons_iff,
    or_assoc, or_comm (a := ∃ other ∈ names, _)]

/-! ## The named nodes of a tree -/

/-- An element or a named component, with its own name and the names around it. -/
structure NamedNode where
  names : List String
  node : Node

namespace Node

mutual

/-- The elements and the named components in a node, in document order. -/
def named (around : List String) : Node → List NamedNode
  | .root _ children => allNamed around children
  | .element source tagName properties children =>
    ⟨tagName :: around, .element source tagName properties children⟩ ::
      allNamed (tagName :: around) children
  | .component placement source (some name) attributes children =>
    ⟨name :: around, .component placement source (some name) attributes children⟩ ::
      allNamed (name :: around) children
  | .component _ _ none _ children => allNamed around children
  | .text _ _ => []
  | .comment _ _ => []
  | .doctype _ => []
  | .esm _ => []
  | .expression _ _ => []
  | .unknown _ _ _ => []
  | .malformed _ => []
termination_by structural node => node

/-- The elements and the named components in nodes one after the other. -/
def allNamed (around : List String) : List Node → List NamedNode
  | [] => []
  | node :: rest => node.named around ++ allNamed around rest
termination_by structural nodes => nodes

end

/-- A text that is left out has no elements in it. -/
theorem named_of_isLineBreak {node : Node} (h : node.isLineBreak) (around : List String) :
    node.named around = [] := by
  cases node with
  | text source value => rfl
  | _ => exact nomatch h

theorem allNamed_eq_flatMap (around : List String) (nodes : List Node) :
    allNamed around nodes = nodes.flatMap (named around) := by
  induction nodes with
  | nil => rfl
  | cons node rest ih => rw [allNamed, ih, List.flatMap_cons]

/-- Nothing that is named is left out. -/
theorem allNamed_keptChildren (around : List String) (space : Namespace) (node : Node) :
    allNamed around (node.keptChildren space) = allNamed around node.children := by
  rw [keptChildren]
  split
  · induction node.children with
    | nil => rfl
    | cons child rest ih =>
      rw [allNamed, ← ih, List.filter_cons]
      split
      · rw [allNamed]
      · rename_i hbreak
        rw [named_of_isLineBreak (by simpa using hbreak), List.nil_append]
  · rfl

end Node

/-! ## The elements of the output -/

namespace Jsx

/-- What is written of an element. -/
structure WrittenElement where
  name : ElementName
  attributes : List Attribute
  children : List Child

mutual

/-- The elements in an element or fragment, in document order. -/
def Markup.elements : Markup → List WrittenElement
  | .element attributes name _ _ children _ =>
    ⟨name, attributes, children⟩ :: childrenElements children
  | .fragment _ _ children _ => childrenElements children
termination_by structural value => value

/-- The elements in a child. -/
def Child.elements : Child → List WrittenElement
  | .markup value => value.elements
  | .container _ => []
  | .foreign _ => []
termination_by structural value => value

/-- The elements in children one after the other. -/
def childrenElements : List Child → List WrittenElement
  | [] => []
  | child :: rest => child.elements ++ childrenElements rest
termination_by structural children => children

end

@[simp] theorem childrenElements_eq_flatMap (children : List Child) :
    childrenElements children = children.flatMap Child.elements := by
  induction children with
  | nil => rfl
  | cons child rest ih => rw [childrenElements, ih, List.flatMap_cons]

/-- The elements in an expression of the program. -/
def Expression.elements : Expression → List WrittenElement
  | .markup value => value.elements
  | _ => []

/-- The elements in a statement of the program. -/
def Statement.elements : Statement → List WrittenElement
  | .expression value _ => value.elements
  | .foreign _ => []

/-- The elements of a program, in document order. -/
def Program.elements (program : Program) : List WrittenElement :=
  program.body.flatMap Statement.elements

/-- Whitespace has no elements in it, so a root that loses some loses none. -/
theorem flatMap_elements_trimBy (children : List Child) :
    (Text.trimBy Child.isLayout children).flatMap Child.elements =
      children.flatMap Child.elements := by
  have hlayout : ∀ tail : List Child, (∀ child ∈ tail, child.isLayout) →
      tail.flatMap Child.elements = [] := by
    intro tail htail
    refine List.flatMap_eq_nil_iff.2 fun child hchild => ?_
    cases child with
    | markup value => exact nomatch htail _ hchild
    | container value => rfl
    | foreign value => rfl
  obtain ⟨tail, htail, heq⟩ :=
    Text.exists_dropEndWhile_append Child.isLayout (children.dropWhile Child.isLayout)
  conv_rhs => rw [← List.takeWhile_append_dropWhile (p := Child.isLayout) (l := children), heq]
  rw [List.flatMap_append, List.flatMap_append, hlayout tail htail,
    hlayout _ fun child hchild => List.all_eq_true.1 List.all_takeWhile child hchild,
    List.nil_append, List.append_nil, Text.trimBy]

end Jsx

/-! ## How a named node is written -/

/-- The element that stands for a named node.  For a component it is one of that name.  For an
element of the tree, moreover, its attributes are those that the properties of the element become in
the namespace of the names around it, and its children are what appears, in this namespace, of the
children that are kept there. -/
def NamedNode.WrittenAs (space : Namespace) (spelling : Spelling) :
    NamedNode → WrittenElement → Prop
  | ⟨names, .element source tagName properties children⟩, written =>
    let inside := scopeOf space names
    written.name.toString = tagName ∧
      Conversion.attributesOf inside spelling tagName properties = .ok written.attributes ∧
      written.children.map Child.outline =
        ((Node.element source tagName properties children).keptChildren inside).flatMap
          (Node.outline inside)
  | ⟨_, .component _ _ (some name) _ _⟩, written => written.name.toString = name
  | _, _ => False

namespace Conversion

variable {space : Namespace} {spelling : Spelling}

/-- What is to hold of what a node becomes, in a namespace: it reads as the node does, and wherever
names stand for this namespace, its elements are written as the named nodes in the node are to be
when these are the names around it. -/
def Scoped (space : Namespace) (spelling : Spelling) (inner : Namespace) (node : Node)
    (converted : Converted) : Prop :=
  converted.Reads (node.outline inner) ∧
    ∀ around : List String, inner = scopeOf space around →
      List.Forall₂ (NamedNode.WrittenAs space spelling) (node.named around)
        (converted.children.flatMap Child.elements)

/-- What the kept children of a node became has the elements for the named nodes inside the node. -/
theorem elements_of_results {inner : Namespace} {node : Node} {results : List Converted}
    (h : List.Forall₂ (Scoped space spelling inner) (node.keptChildren inner) results)
    {around : List String} (hinner : inner = scopeOf space around) :
    List.Forall₂ (NamedNode.WrittenAs space spelling) (Node.allNamed around node.children)
      ((results.flatMap Converted.children).flatMap Child.elements) := by
  rw [← Node.allNamed_keptChildren around inner, Node.allNamed_eq_flatMap, List.flatMap_assoc]
  exact List.rel_flatMap h fun _ _ hscoped => hscoped.2 around hinner

/-- The element that is made of an element of the tree, in the namespace of the names around and of
its own. -/
theorem writtenAs_elementOf {source : Source} {tagName : String}
    {properties : Entries PropertyValue} {children : List Node} {attributes : List Attribute}
    {inside : List Child} {around : List String}
    (hattributes : attributesOf (scopeOf space (tagName :: around)) spelling tagName properties =
      .ok attributes)
    (hinside : inside.map Child.outline =
      Node.outlines (scopeOf space (tagName :: around))
        (scopeOf space (tagName :: around) = .html &&
          (Node.element source tagName properties children).isTableStructure) children) :
    NamedNode.WrittenAs space spelling
      ⟨tagName :: around, .element source tagName properties children⟩
      ⟨.ofString tagName, attributes, inside⟩ :=
  ⟨ElementName.toString_ofString tagName, hattributes,
    hinside.trans (Node.outlines_children _ (.element source tagName properties children))⟩

/-- **Each rule writes the named nodes in a node as they are to be written,** if this holds of the
nodes inside.  An element and a named component add their names to those around what is inside. -/
theorem scoped_of_madeFrom [Sorter] {inner : Namespace} {node : Node} {converted : Converted}
    (h : MadeFrom (Scoped space spelling) inner spelling node converted) :
    Scoped space spelling inner node converted := by
  obtain ⟨results, hresults, hmade⟩ := h
  have hreads := hresults.imp fun _ _ hscoped => hscoped.1
  refine ⟨reads_of_madeFrom ⟨results, hreads, hmade⟩, fun around hinner => ?_⟩
  have hinside := map_outline_of_results hreads
  cases hmade with
  | root source children =>
    have helements := elements_of_results hresults hinner
    rw [Converted.children, List.flatMap_singleton, Child.elements, rootFragment,
      dropOuterLayout_none, Markup.fragmentOf, Markup.elements, childrenElements_eq_flatMap,
      flatMap_elements_trimBy]
    exact helements
  | element source tagName properties children hattributes =>
    have hscope : innerSpace inner tagName = scopeOf space (tagName :: around) := by
      rw [hinner, innerSpace_scopeOf]
    have helements := elements_of_results hresults hscope
    rw [Node.spaceInside, hscope] at hattributes hinside
    rw [Converted.children, List.flatMap_singleton, Child.elements, Markup.elementOf,
      Markup.elements, childrenElements_eq_flatMap]
    exact .cons (writtenAs_elementOf hattributes hinside) helements
  | component placement source name attributes children =>
    rw [Converted.children, List.flatMap_singleton, Child.elements]
    cases name with
    | none =>
      have helements := elements_of_results hresults hinner
      rw [Node.named, componentMarkup, Markup.fragmentOf, Markup.elements,
        childrenElements_eq_flatMap]
      exact helements
    | some name =>
      have hscope : innerSpace inner name = scopeOf space (name :: around) := by
        rw [hinner, innerSpace_scopeOf]
      have helements := elements_of_results hresults hscope
      rw [Node.named, componentMarkup, Markup.elementOf, Markup.elements,
        childrenElements_eq_flatMap]
      exact .cons (ElementName.toString_ofString name) helements
  | text source value =>
    rw [convertText]
    split <;> exact .nil
  | comment source value => exact .nil
  | doctype source => exact .nil
  | esm source => exact .nil
  | expression placement source => exact .nil

/-- The named nodes in a node are written as they are to be written, however many levels it has. -/
theorem ensures_elements_convert [Sorter] (limit levels : Nat) (start : State)
    (around : List String) (node : Node) (hspace : start.space = scopeOf space around)
    (hspelling : start.spelling = spelling) :
    Ensures start (convert (fun _ => none) limit levels node) fun converted _ _ =>
      List.Forall₂ (NamedNode.WrittenAs space spelling) (node.named around)
        (converted.children.flatMap Child.elements) :=
  (ensures_convert_of (fun _ _ _ => scoped_of_madeFrom) limit levels start node hspelling).imp
    fun _ _ _ hscoped => hscoped.2 around hspace

end Conversion

/-! ## The whole program -/

/-- The elements in the expression of a program are those of what the tree became. -/
theorem elements_treeExpression (origin : Origin) (children : List Child) :
    (treeExpression origin children).elements = children.flatMap Child.elements := by
  have hwrapped : ∀ children : List Child,
      (Expression.markup (.fragmentOf children origin)).elements =
        children.flatMap Child.elements := by
    intro children
    rw [Expression.elements, Markup.fragmentOf, Markup.elements, childrenElements_eq_flatMap]
  rcases children with _ | ⟨child, _ | ⟨other, others⟩⟩
  · exact hwrapped []
  · cases child with
    | markup value => exact (List.append_nil _).symm
    | container value => exact hwrapped _
    | foreign value =>
      show (if (Child.foreign value).isMarkup then Expression.foreign value else _).elements = []
      split <;> rfl
  · exact hwrapped _

/-- The statements taken from scripts have no elements in them. -/
theorem elements_programOf {state : State} {statements : List Json}
    (h : state.statements = statements.map .foreign) (origin : Origin) (converted : Converted) :
    (programOf origin converted state).elements =
      converted.children.flatMap Child.elements := by
  have hforeign : (statements.map Statement.foreign).flatMap Statement.elements = [] := by
    rw [List.flatMap_map]
    exact List.flatMap_eq_nil_iff.2 fun _ _ => rfl
  rw [Program.elements, programOf, h, List.flatMap_append, hforeign, List.nil_append]
  cases converted with
  | nothing => rfl
  | one child => exact (List.append_nil _).trans (elements_treeExpression origin [child])
  | many children => exact (List.append_nil _).trans (elements_treeExpression origin children)

/-- **Namespaces are scoped.**  Whenever a tree is converted, in any namespace, in any fashions and
with any limit, and without overrides, the elements of the program stand, in document order, for the
elements and the named components of the tree.  The attributes of an element of the tree are those
that its properties become in the namespace that belongs to its own name and the names around it,
whatever else is in the document; and it is in this namespace, too, that it is decided whether its
line breaks are left out. -/
theorem elements_of_toProgram [Sorter] (space : Namespace) (spelling : Spelling) (maxDepth : Nat)
    (tree : Node) (program : Program)
    (h : toProgram { space, spelling, maxDepth } tree = .ok program) :
    List.Forall₂ (NamedNode.WrittenAs space spelling) (tree.named []) program.elements := by
  obtain ⟨converted, after, hrun, hprogram⟩ := exists_of_toProgram_eq_ok h
  obtain ⟨statements, hstatements⟩ := Conversion.exists_statements_of_run_convert rfl hrun
  rw [hprogram, elements_programOf hstatements]
  exact Conversion.ensures_elements_convert maxDepth maxDepth { space, spelling } [] tree
    (scopeOf_nil space).symm rfl converted after hrun

/-- A property that is spelled in one way in SVG and in another in HTML. -/
def capProperty : Entries PropertyValue :=
  [("strokeLineCap", .string "round")]

/-- A cell of a table with a line break inside. -/
def cell : Node :=
  .element {} "td" capProperty [.text {} (some "\n")]

/-- A document with the same cell in front of `svg`, inside it, in a table inside it, and behind
it, there in a fragment and a root of its own. -/
def scopedDocument : Node :=
  .root {} [cell, .component .flow {} (some "SVG") [] [cell, .element {} "table" [] [cell]],
    .component .flow {} none [] [.root {} [cell]]]

open scoped Sorting.Insertion in
theorem elements_of_toProgram_scopedDocument :
    ∃ program before component inside table within behind,
      toProgram {} scopedDocument = .ok program ∧
      program.elements = [before, component, inside, table, within, behind] ∧
      Conversion.attributesOf .html {} "td" capProperty = .ok before.attributes ∧
      Conversion.attributesOf .svg {} "td" capProperty = .ok inside.attributes ∧
      within.attributes = inside.attributes ∧ behind.attributes = before.attributes ∧
      [before, inside, within, behind].map (fun written => written.children.length) =
        [0, 1, 1, 0] := by
  obtain ⟨program, h⟩ := exists_toProgram_eq_ok .html {} 512 scopedDocument (by decide) rfl
  have helements := elements_of_toProgram .html {} 512 scopedDocument program h
  generalize hwritten : program.elements = elements at helements
  obtain _ | ⟨⟨-, hbefore, hbreak⟩, _ | ⟨-, _ | ⟨⟨-, hinside, hkept⟩, _ | ⟨-, _ |
    ⟨⟨-, hwithin, hkeptWithin⟩, _ | ⟨⟨-, hbehind, hbreakBehind⟩, _ | _⟩⟩⟩⟩⟩⟩ := helements
  rename_i before component inside table within behind
  refine ⟨program, before, component, inside, table, within, behind, h, hwritten, hbefore,
    hinside, Except.ok.inj (hwithin.symm.trans hinside),
    Except.ok.inj (hbehind.symm.trans hbefore), ?_⟩
  have length_of_outline : ∀ {children : List Child} {outlines : List Outline},
      children.map Child.outline = outlines → children.length = outlines.length := by
    intro children outlines heq
    rw [← heq, List.length_map]
  have hnone : (cell.keptChildren .html).flatMap (Node.outline .html) = [] := rfl
  have hone : (cell.keptChildren .svg).flatMap (Node.outline .svg) = [.text "\n"] := rfl
  simp only [List.map_cons, List.map_nil]
  rw [length_of_outline (hbreak.trans hnone), length_of_outline (hkept.trans hone),
    length_of_outline (hkeptWithin.trans hone), length_of_outline (hbreakBehind.trans hnone)]
  rfl

end MarkupJsx
