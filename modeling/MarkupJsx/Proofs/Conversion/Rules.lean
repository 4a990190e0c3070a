import Mathlib.Data.List.Forall2
import MarkupJsx.Proofs.Conversion.Collected
import MarkupJsx.Proofs.Conversion.Outcome

/-!
# What a rule makes of a node

A rule that succeeds has converted the children of the node one after the other, in the namespace
inside the node and without those that are left out there, and has made something of what they
became.  `Makes` says what, with one case for each kind of node that has a conversion; nothing in it
depends on a state but the namespace and the fashions.

* `run_convertAttribute`: what is written for the attributes of a component is known beforehand, if
  the comments of their scripts can be placed.
* `ensures_convertByKind`: a rule that succeeds has made what `Makes` says.
* `ensures_convert_of`: **what the rules keep holds of every conversion** without overrides.  A
  property of results is proved by one case for each kind of node, and neither steps nor levels have
  to be looked at again.
-/

namespace MarkupJsx
open Jsx

namespace Node

/-- The namespace of what is inside a node. -/
def spaceInside (space : Namespace) : Node → Namespace
  | .element _ tagName _ _ => Conversion.innerSpace space tagName
  | .component _ _ (some name) _ _ => Conversion.innerSpace space name
  | _ => space

/-- The children of a node that are not left out in a namespace: in HTML the parts of a table lose
the line breaks between them. -/
def keptChildren (space : Namespace) (node : Node) : List Node :=
  if space = .html ∧ node.isTableStructure then node.children.filter (!·.isLineBreak)
  else node.children

/-- A node without children keeps none. -/
theorem keptChildren_eq_nil {node : Node} (h : node.children = []) (space : Namespace) :
    node.keptChildren space = [] := by
  rw [keptChildren, h]
  split <;> rfl

end Node

/-! ## Inner nodes -/

namespace Conversion

section Inner

variable {start : State} {convert : Node → Conversion Converted}
  (hadd : ∀ node, Additive (convert node))
include hadd

/-- Nodes one after the other are converted one by one, and their results are put together. -/
theorem ensures_convertNodes {Q : Node → Converted → Prop}
    (h : ∀ node, Ensures start (convert node) fun converted _ _ => Q node converted)
    (skipBreaks : Bool) (nodes : List Node) :
    Ensures start (convertNodes convert skipBreaks nodes) fun children _ _ =>
      ∃ results, List.Forall₂ Q (if skipBreaks then nodes.filter (!·.isLineBreak) else nodes)
        results ∧ children = results.flatMap Converted.children := by
  induction nodes with
  | nil =>
    refine Ensures.pure ⟨[], ?_, rfl⟩
    cases skipBreaks <;> exact List.Forall₂.nil
  | cons node rest ih =>
    have hrest : Additive (convertNodes convert skipBreaks rest) :=
      sequential_additive.convertNodes (g := convert) hadd skipBreaks rest
    rw [convertNodes]
    split
    · rename_i hskip
      obtain ⟨rfl, hbreak⟩ := Bool.and_eq_true_iff.1 hskip
      rw [if_pos rfl, List.filter_cons_of_neg (by rw [hbreak]; decide)]
      exact ih
    · rename_i hskip
      have hkept : (if skipBreaks then (node :: rest).filter (!·.isLineBreak) else node :: rest) =
          node :: if skipBreaks then rest.filter (!·.isLineBreak) else rest := by
        cases skipBreaks with
        | false => rfl
        | true =>
          have hbreak : node.isLineBreak = false := by simpa using hskip
          rw [if_pos rfl, if_pos rfl, List.filter_cons_of_pos (by rw [hbreak]; rfl)]
      rw [hkept]
      refine Ensures.bind (hadd node) (fun _ => hrest.bind fun _ => additive_pure _) (h node)
        fun converted _ _ hconverted => ?_
      refine Ensures.bind hrest (fun _ => additive_pure _) ih fun others _ _ hbehind => ?_
      obtain ⟨results, hresults, rfl⟩ := hbehind
      exact Ensures.pure ⟨converted :: results, .cons hconverted hresults, rfl⟩

variable {Q : Namespace → Node → Converted → Prop}

theorem additive_convertChildren (parent : Node) : Additive (convertChildren convert parent) :=
  sequential_additive.convertChildren (g := convert) hadd parent

variable {spelling : Spelling}
  (h : ∀ (start : State) (node : Node), start.spelling = spelling →
    Ensures start (convert node) fun converted _ _ => Q start.space node converted)
include h

theorem ensures_convertChildren (start : State) (hspelling : start.spelling = spelling)
    (parent : Node) :
    Ensures start (convertChildren convert parent) fun children _ _ =>
      ∃ results, List.Forall₂ (Q start.space) (parent.keptChildren start.space) results ∧
        children = results.flatMap Converted.children := by
  refine Ensures.space_bind ?_
  have hnodes := ensures_convertNodes hadd (fun node => h start node hspelling)
    (start.space = .html && parent.isTableStructure) parent.children
  simp only [Bool.and_eq_true, decide_eq_true_eq] at hnodes
  exact hnodes

end Inner

end Conversion

/-! ## Scripts and the attributes of components -/

/-- What is written for an attribute of a component. -/
def ComponentAttribute.written [Sorter] : ComponentAttribute → Attribute
  | .spread source =>
    Conversion.spreadOf ((source.script.map Script.annotatedBody).bind Script.spreadArgument?)
      source.origin
  | .named source name none => .bare (.ofString name) source.origin
  | .named source name (some (.literal value)) =>
    .named (.ofString name) (.literal (.string value.text)) source.origin
  | .named source name (some (.expression inner)) =>
    .named (.ofString name) (.container (Conversion.containerOf
      ((inner.script.map Script.annotatedBody).bind Script.firstExpression?) {} inner.origin))
      source.origin

namespace Conversion

/-- A step that gives one value if something is settled gives that value whenever it succeeds. -/
theorem Ensures.of_settled {α : Type} {start : State} {step : Conversion α} {settled : Bool}
    {value : α} {after : State → State}
    (h : ∀ state, step.run state =
      (if settled then .ok value else .error .unsorted, after state)) :
    Ensures start step fun result _ _ => result = value := by
  intro result last hrun
  rw [h] at hrun
  cases settled with
  | true => exact (Except.ok.inj (Prod.mk.inj hrun).1).symm
  | false => exact nomatch (Prod.mk.inj hrun).1

variable [Sorter]

theorem run_takeExpression (source : Source) (state : State) :
    (takeExpression source).run state =
      (if source.settled then
          .ok ((source.script.map Script.annotatedBody).bind Script.firstExpression?)
        else .error .unsorted,
        { state with comments := state.comments ++ source.scriptComments }) := by
  rw [takeExpression, run_bind, run_takeScript]
  cases source.settled <;> rfl

theorem run_takeSpread (source : Source) (state : State) :
    (takeSpread source).run state =
      (if source.settled then
          .ok ((source.script.map Script.annotatedBody).bind Script.spreadArgument?)
        else .error .unsorted,
        { state with comments := state.comments ++ source.scriptComments }) := by
  rw [takeSpread, run_bind, run_takeScript]
  cases source.settled <;> rfl

theorem run_convertAttribute (item : ComponentAttribute) (state : State) :
    (convertAttribute item).run state =
      (if item.settled then .ok item.written else .error .unsorted,
        { state with comments := state.comments ++ item.comments }) := by
  match item with
  | .spread source =>
    rw [convertAttribute, run_bind, run_takeSpread]
    show _ = (if source.settled then _ else _, _)
    cases source.settled <;> rfl
  | .named source name none =>
    rw [convertAttribute, ComponentAttribute.comments, List.append_nil]
    rfl
  | .named source name (some (.literal value)) =>
    rw [convertAttribute, ComponentAttribute.comments, List.append_nil]
    rfl
  | .named source name (some (.expression inner)) =>
    rw [convertAttribute, run_bind, run_takeExpression]
    show _ = (if inner.settled then _ else _, _)
    cases inner.settled <;> rfl

theorem additive_convertAttributes (attributes : List ComponentAttribute) :
    Additive (convertAttributes attributes) :=
  sequential_additive.convertAttributes attributes

/-- **What is written for the attributes of a component is known beforehand,** and depends on no
state. -/
theorem ensures_convertAttributes (start : State) (attributes : List ComponentAttribute) :
    Ensures start (convertAttributes attributes)
      fun result _ _ => result = attributes.map ComponentAttribute.written := by
  induction attributes with
  | nil => exact Ensures.pure rfl
  | cons item rest ih =>
    refine Ensures.bind (sequential_additive.convertAttribute item)
      (fun _ => (additive_convertAttributes rest).bind fun _ => additive_pure _)
      (Ensures.of_settled (run_convertAttribute item)) fun first _ _ hfirst => ?_
    refine Ensures.bind (additive_convertAttributes rest) (fun _ => additive_pure _) ih
      fun others _ _ hothers => Ensures.pure ?_
    rw [hfirst, hothers, List.map_cons]

/-! ## The cases -/

/-- What a rule makes of a node out of the children that stand for what is inside it, given the
namespace inside the node and the fashions. -/
inductive Makes (space : Namespace) (spelling : Spelling) (inside : List Child) :
    Node → Converted → Prop
  | root (source : Source) (children : List Node) :
      Makes space spelling inside (.root source children)
        (.one (.markup (rootFragment inside source.origin)))
  | element (source : Source) (tagName : String) (properties : Entries PropertyValue)
      (children : List Node) {attributes : List Attribute}
      (hattributes : attributesOf space spelling tagName properties = .ok attributes) :
      Makes space spelling inside (.element source tagName properties children)
        (.one (.markup (.elementOf (.ofString tagName) attributes inside source.origin)))
  | text (source : Source) (value : Option String) :
      Makes space spelling inside (.text source value) (convertText source value)
  | comment (source : Source) (value : String) :
      Makes space spelling inside (.comment source value)
        (.one (.container (commentContainer source value)))
  | doctype (source : Source) : Makes space spelling inside (.doctype source) .nothing
  | esm (source : Source) : Makes space spelling inside (.esm source) .nothing
  | expression (placement : Placement) (source : Source) :
      Makes space spelling inside (.expression placement source)
        (.one (.container (containerOf
          ((source.script.map Script.annotatedBody).bind Script.firstExpression?)
          source.spanOrigin source.origin)))
  | component (placement : Placement) (source : Source) (name : Option String)
      (attributes : List ComponentAttribute) (children : List Node) :
      Makes space spelling inside (.component placement source name attributes children)
        (.one (.markup (componentMarkup name (attributes.map ComponentAttribute.written) inside
          source.origin)))

/-- What a node becomes is made of what its kept children become, and something holds of each of
these. -/
def MadeFrom (Q : Namespace → Node → Converted → Prop) (space : Namespace) (spelling : Spelling)
    (node : Node) (converted : Converted) : Prop :=
  ∃ results, List.Forall₂ (Q (node.spaceInside space)) (node.keptChildren (node.spaceInside space))
      results ∧
    Makes (node.spaceInside space) spelling (results.flatMap Converted.children) node converted

theorem MadeFrom.of_leaf {Q : Namespace → Node → Converted → Prop} {space : Namespace}
    {spelling : Spelling} {node : Node} {converted : Converted} (hleaf : node.children = [])
    (h : Makes (node.spaceInside space) spelling [] node converted) :
    MadeFrom Q space spelling node converted := by
  refine ⟨[], ?_, h⟩
  rw [Node.keptChildren_eq_nil hleaf]
  exact List.Forall₂.nil

/-! ## The rules -/

section Rules

variable (start : State) {convert : Node → Conversion Converted}
  (hadd : ∀ node, Additive (convert node))
include hadd

variable {Q : Namespace → Node → Converted → Prop} {spelling : Spelling}
  (h : ∀ (start : State) (node : Node), start.spelling = spelling →
    Ensures start (convert node) fun converted _ _ => Q start.space node converted)
include h

variable (hspelling : start.spelling = spelling)
include hspelling

/-- The properties of an element are converted behind its children, but in the same namespace. -/
theorem ensures_convertElement (source : Source) (tagName : String)
    (properties : Entries PropertyValue) (children : List Node) :
    Ensures start (convertElement convert source tagName properties children)
      fun converted _ _ =>
        MadeFrom Q start.space spelling (.element source tagName properties children)
          converted := by
  refine Ensures.space_bind (Ensures.within ?_)
  have hproperties : ∀ (space : Namespace) (spelling : Spelling),
      Additive (ofExcept (attributesOf space spelling tagName properties)) :=
    fun _ _ => additive_ofExcept _
  refine Ensures.bind (additive_convertChildren hadd _) (fun _ => ?_)
    (ensures_convertChildren hadd h { start with space := innerSpace start.space tagName }
      hspelling _)
    fun inside _ _ ⟨results, hresults, hinside⟩ => ?_
  · refine sequential_additive.space.bind fun space => ?_
    refine sequential_additive.spelling.bind fun spelling => ?_
    exact (hproperties space spelling).bind fun _ => additive_pure _
  · refine Ensures.space_bind (Ensures.spelling_bind ?_)
    refine Ensures.bind (hproperties _ _) (fun _ => additive_pure _)
      (Ensures.ofExcept _)
      fun attributes _ _ hattributes => Ensures.pure ?_
    rw [← hspelling, hinside]
    exact ⟨results, hresults, .element source tagName properties children hattributes⟩

theorem ensures_convertComponent (placement : Placement) (source : Source)
    (name : Option String) (attributes : List ComponentAttribute) (children : List Node) :
    Ensures start (convertComponent convert placement source name attributes children)
      fun converted _ _ =>
        MadeFrom Q start.space spelling (.component placement source name attributes children)
          converted := by
  have hspace : (name.map (innerSpace start.space)).getD start.space =
      (Node.component placement source name attributes children).spaceInside start.space := by
    cases name <;> rfl
  refine Ensures.space_bind (Ensures.within ?_)
  rw [hspace]
  refine Ensures.bind (additive_convertChildren hadd _)
    (fun _ => (additive_convertAttributes _).bind fun _ => additive_pure _)
    (ensures_convertChildren hadd h { start with space := Node.spaceInside start.space _ }
      hspelling _)
    fun inside _ _ ⟨results, hresults, hinside⟩ => ?_
  refine Ensures.bind (additive_convertAttributes _) (fun _ => additive_pure _)
    (ensures_convertAttributes _ _) fun written _ _ hwritten => Ensures.pure ?_
  rw [hinside, hwritten]
  exact ⟨results, hresults, .component placement source name attributes children⟩

/-- **A rule that succeeds has made something of what the kept children of the node became.** -/
theorem ensures_convertByKind (node : Node) :
    Ensures start (convertByKind convert node) fun converted _ _ =>
      MadeFrom Q start.space spelling node converted := by
  cases node with
  | root source children =>
    refine Ensures.bind (additive_convertChildren hadd _) (fun _ => additive_pure _)
      (ensures_convertChildren hadd h start hspelling _)
      fun inside _ _ ⟨results, hresults, hinside⟩ => Ensures.pure ?_
    rw [hinside]
    exact ⟨results, hresults, .root source children⟩
  | element source tagName properties children =>
    exact ensures_convertElement start hadd h hspelling source tagName properties children
  | text source value => exact Ensures.pure (.of_leaf rfl (.text source value))
  | comment source value =>
    exact Ensures.bind (additive_logComments _) (fun _ => additive_pure _) (Ensures.trivial _)
      fun _ _ _ _ => Ensures.pure (.of_leaf rfl (.comment source value))
  | doctype source => exact Ensures.pure (.of_leaf rfl (.doctype source))
  | esm source =>
    refine Ensures.bind (sequential_additive.takeScript source)
      (fun _ => (additive_logStatements _).bind fun _ => additive_pure _) (Ensures.trivial _)
      fun _ _ _ _ => ?_
    exact Ensures.bind (additive_logStatements _) (fun _ => additive_pure _) (Ensures.trivial _)
      fun _ _ _ _ => Ensures.pure (.of_leaf rfl (.esm source))
  | expression placement source =>
    refine Ensures.bind (sequential_additive.takeExpression source) (fun _ => additive_pure _)
      (Ensures.of_settled (run_takeExpression source))
      fun expression _ _ hexpression => Ensures.pure ?_
    rw [hexpression]
    exact .of_leaf rfl (.expression placement source)
  | component placement source name attributes children =>
    exact ensures_convertComponent start hadd h hspelling placement source name attributes
      children
  | unknown source kind fields => exact Ensures.fail _
  | malformed value => exact Ensures.fail _

end Rules

/-- **What the rules keep holds of every conversion.**  If something holds of what is made of a node
whenever it holds of what the kept children became, then it holds of what every node becomes without
overrides, in the namespace that the conversion starts in. -/
theorem ensures_convert_of {spelling : Spelling} {Q : Namespace → Node → Converted → Prop}
    (hQ : ∀ space node converted, MadeFrom Q space spelling node converted →
      Q space node converted)
    (limit levels : Nat) (start : State) (node : Node) (hspelling : start.spelling = spelling) :
    Ensures start (convert (fun _ => none) limit levels node) fun converted _ _ =>
      Q start.space node converted := by
  induction levels generalizing start node with
  | zero => exact Ensures.fail _
  | succ levels ih =>
    rw [convert_succ]
    refine Ensures.depth_bind ?_
    split
    · rw [convertWith_none]
      have hrule := ensures_convertByKind { start with depth := start.depth + 1 }
        (additive_convert _ limit levels) ih hspelling node
      exact Ensures.deeper (hrule.imp fun converted _ _ => hQ start.space node converted)
    · exact Ensures.fail _

end Conversion
end MarkupJsx
