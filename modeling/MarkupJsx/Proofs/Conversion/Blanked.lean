import MarkupJsx.Conversion.Program
import MarkupJsx.Proofs.Conversion.ListStyles
import MarkupJsx.Proofs.Tree.Unscripted
import MarkupJsx.Script.InsertionSort

/-!
# Scripts change nothing but what is made of them

Anything can stand where a script is expected.  It is read leniently, its comments are placed on its
nodes, and an expression or what is to be spread is looked for in it.  Only the second of these can
go wrong, when a sort gives up on the comments, and then there is no outcome at all.  What comes of
a script goes into the output in two places only: as the contents of a container, and as the object
that a spread takes attributes from.

* `Markup.blanked` is the output with these two places blanked.  A container that was made of an
  expression and one in which an expression is missing are the same then.
* `SameButScripts` says of two outcomes of a conversion that both are programs, with the same
  blanked tree, or both are errors, the same up to the scripts in a value that is quoted.
* `Mirrors` relates two steps that may be about different nodes, as far as no sort gives up in the
  first.  It holds between the conversion of a node and that of the node without its scripts
  (`mirrors_convert`), by one case for each rule.

The main statement is `sameButScripts_toProgram`: **trees that differ in nothing but scripts are
read as nodes of the same shape, and are converted to the same output but for what is made of the
scripts,** unless the comments of a script cannot be placed.  The exception is not idle
(`toProgram_scatteredPayload`).
-/

namespace MarkupJsx
open Jsx

/-! ## The output without what is made of scripts -/

namespace Jsx

/-- A container without the expression of a script. -/
def Container.blanked : Container → Container
  | .expression (.foreign _) origin => .empty [] {} origin
  | .empty [] _ origin => .empty [] {} origin
  | value => value

/-- The value of an attribute without the expression of a script. -/
def AttributeValue.blanked : AttributeValue → AttributeValue
  | .literal value => .literal value
  | .container value => .container value.blanked

/-- An attribute without the expression of a script. -/
def Attribute.blanked : Attribute → Attribute
  | .bare name origin => .bare name origin
  | .named name value origin => .named name value.blanked origin
  | .spread (.foreign _) origin => .spread (.object []) origin
  | .spread argument origin => .spread argument origin

mutual

/-- An element or fragment without the expressions of scripts. -/
def Markup.blanked : Markup → Markup
  | .element attributes name selfClosing closing children origin =>
    .element (attributes.map Attribute.blanked) name selfClosing closing (childrenBlanked children)
      origin
  | .fragment attributes selfClosing children origin =>
    .fragment (attributes.map Attribute.blanked) selfClosing (childrenBlanked children) origin
termination_by structural value => value

/-- A child without the expressions of scripts. -/
def Child.blanked : Child → Child
  | .markup value => .markup value.blanked
  | .container value => .container value.blanked
  | .foreign value => .foreign value
termination_by structural value => value

/-- Children without the expressions of scripts. -/
def childrenBlanked : List Child → List Child
  | [] => []
  | child :: rest => child.blanked :: childrenBlanked rest
termination_by structural children => children

end

@[simp] theorem childrenBlanked_eq_map (children : List Child) :
    childrenBlanked children = children.map Child.blanked := by
  induction children with
  | nil => rfl
  | cons child rest ih => rw [childrenBlanked, ih, List.map_cons]

/-- The tree in the expression of a program without the expressions of scripts. -/
def Expression.blanked : Expression → Expression
  | .markup value => .markup value.blanked
  | value => value

/-- The statements of a program that do not come from scripts, each with its origin. -/
def Program.tree (program : Program) : List (Expression × Origin) :=
  program.body.filterMap fun
    | .expression value origin => some (value, origin)
    | .foreign _ => none

/-- The tree of a program without the expressions of scripts. -/
def Program.blankedTree (program : Program) : List (Expression × Origin) :=
  program.tree.map fun statement => (statement.1.blanked, statement.2)

/-- No expression of a script is whitespace. -/
theorem Child.isLayout_blanked (child : Child) : child.blanked.isLayout = child.isLayout := by
  match child with
  | .markup _ => rfl
  | .foreign _ => rfl
  | .container (.empty [] _ _) => rfl
  | .container (.empty (_ :: _) _ _) => rfl
  | .container (.expression (.literal ⟨.string _, _⟩) _) => rfl
  | .container (.expression (.literal ⟨.bool _, _⟩) _) => rfl
  | .container (.expression (.foreign _) _) => rfl
  | .container (.expression (.markup _) _) => rfl
  | .container (.expression (.object _) _) => rfl

theorem Markup.blanked_fragmentOf (children : List Child) (origin : Origin) :
    (Markup.fragmentOf children origin).blanked =
      .fragmentOf (children.map Child.blanked) origin := by
  rw [Markup.fragmentOf, Markup.blanked, childrenBlanked_eq_map]
  rfl

/-- An element closes itself with blanked children if it does with the others. -/
theorem Markup.blanked_elementOf (name : ElementName) (attributes : List Attribute)
    (children : List Child) (origin : Origin) :
    (Markup.elementOf name attributes children origin).blanked =
      .elementOf name (attributes.map Attribute.blanked) (children.map Child.blanked) origin := by
  rw [Markup.elementOf, Markup.blanked, childrenBlanked_eq_map, Markup.elementOf,
    List.isEmpty_map]

end Jsx

/-- What a node becomes without the expressions of scripts. -/
def Converted.blanked : Converted → Converted
  | .nothing => .nothing
  | .one child => .one child.blanked
  | .many children => .many (children.map Child.blanked)

theorem Converted.children_blanked (converted : Converted) :
    converted.blanked.children = converted.children.map Child.blanked := by
  cases converted <;> rfl

/-- An error with the scripts taken from the value that it quotes. -/
def ConversionError.withoutScripts : ConversionError → ConversionError
  | .malformed value => .malformed value.withoutScripts
  | error => error

/-- Two outcomes that differ in nothing but what is made of scripts. -/
def SameButScripts :
    Except ConversionError Program → Except ConversionError Program → Prop
  | .ok program, .ok other =>
    program.blankedTree = other.blankedTree ∧ program.origin = other.origin
  | .error error, .error other => error.withoutScripts = other.withoutScripts
  | _, _ => False

namespace Conversion

variable {α β γ δ : Type}

/-! ## Steps that give the same but for scripts -/

/-- A result of which only a view is kept, and of an error all but scripts. -/
def seen (view : α → β) : Except ConversionError α → Except ConversionError β
  | .ok value => .ok (view value)
  | .error error => .error error.withoutScripts

/-- Two additive steps whose results, in states that agree in all but their logs, are the same as
far as a view of them goes, unless a sort gives up in the first step. -/
def Mirrors (view : α → β) (step other : Conversion α) : Prop :=
  Additive step ∧ Additive other ∧ ∀ state mirror : State, state.cleared = mirror.cleared →
    (step.run state).1 = .error .unsorted ∨
      seen view (step.run state).1 = seen view (other.run mirror).1

namespace Mirrors

variable {view : α → β} {viewNext : γ → δ}

theorem pure {value other : α} (h : view value = view other) :
    Mirrors view (pure value) (pure other) :=
  ⟨additive_pure value, additive_pure other, fun _ _ _ => Or.inr (congrArg Except.ok h)⟩

theorem fail {error other : ConversionError} (h : error.withoutScripts = other.withoutScripts) :
    Mirrors view (fail error) (fail other) :=
  ⟨additive_fail error, additive_fail other, fun _ _ _ => Or.inr (congrArg Except.error h)⟩

/-- A step that depends on nothing but a result mirrors itself. -/
theorem ofExcept (result : Except ConversionError α) :
    Mirrors view (ofExcept result) (ofExcept result) :=
  ⟨additive_ofExcept result, additive_ofExcept result, fun _ _ _ => Or.inr rfl⟩

/-- What is logged is not seen. -/
theorem logComments (comments others : List Comment) :
    Mirrors id (logComments comments) (logComments others) :=
  ⟨additive_logComments comments, additive_logComments others, fun _ _ _ => Or.inr rfl⟩

theorem logStatements (statements others : List Statement) :
    Mirrors id (logStatements statements) (logStatements others) :=
  ⟨additive_logStatements statements, additive_logStatements others, fun _ _ _ => Or.inr rfl⟩

/-- **One after the other:** the second steps have to mirror each other wherever the first ones give
values that look the same. -/
theorem bind {p q : Conversion α} {f g : α → Conversion γ} (hpq : Mirrors view p q)
    (hf : ∀ value, Additive (f value)) (hg : ∀ value, Additive (g value))
    (hfg : ∀ value other, view value = view other → Mirrors viewNext (f value) (g other)) :
    Mirrors viewNext (p >>= f) (q >>= g) := by
  obtain ⟨hp, hq, hsame⟩ := hpq
  refine ⟨hp.bind hf, hq.bind hg, fun state mirror hstates => ?_⟩
  have hfirst := hsame state mirror hstates
  have hafter := hp.cleared_after state
  have hother := hq.cleared_after mirror
  rw [run_bind, run_bind]
  rcases hrun : p.run state with ⟨result, after⟩
  rcases hmirror : q.run mirror with ⟨reflected, afterMirror⟩
  rw [hrun, hmirror] at hfirst
  rw [hrun] at hafter
  rw [hmirror] at hother
  rcases hfirst with hunsorted | hfirst
  · have hresult : result = .error .unsorted := hunsorted
    rw [hresult]
    exact Or.inl rfl
  · match result, reflected with
    | .error _, .error _ => exact Or.inr (congrArg Except.error (Except.error.inj hfirst))
    | .error _, .ok _ => exact nomatch hfirst
    | .ok _, .error _ => exact nomatch hfirst
    | .ok value, .ok other =>
      exact (hfg value other (Except.ok.inj hfirst)).2.2 after afterMirror
        (hafter.trans (hstates.trans hother.symm))

/-- What is done with values that look the same has to look the same. -/
theorem bind_pure {p q : Conversion α} {f g : α → γ} (hpq : Mirrors view p q)
    (hfg : ∀ value other, view value = view other → viewNext (f value) = viewNext (g other)) :
    Mirrors viewNext (p >>= fun value => Pure.pure (f value))
      (q >>= fun value => Pure.pure (g value)) :=
  hpq.bind (fun _ => additive_pure _) (fun _ => additive_pure _) fun value other h =>
    Mirrors.pure (hfg value other h)

/-- What is read from a state is the same in states that agree in all but their logs, if it is not
read from the logs. -/
theorem read_bind {β : Type} {view : α → γ} {read : Conversion β} (field : State → β)
    (hrun : ∀ (state : State) (f : β → Conversion α),
      (read >>= f).run state = (f (field state.cleared)).run state)
    (hadd : ∀ f : β → Conversion α, (∀ value, Additive (f value)) → Additive (read >>= f))
    {f g : β → Conversion α} (h : ∀ value, Mirrors view (f value) (g value)) :
    Mirrors view (read >>= f) (read >>= g) := by
  refine ⟨hadd f fun value => (h value).1, hadd g fun value => (h value).2.1,
    fun state mirror hstates => ?_⟩
  rw [hrun, hrun, hstates]
  exact (h (field mirror.cleared)).2.2 state mirror hstates

theorem space_bind {f g : Namespace → Conversion α}
    (h : ∀ space, Mirrors view (f space) (g space)) :
    Mirrors view (space >>= f) (space >>= g) :=
  read_bind State.space (fun _ _ => rfl) (fun _ hf => sequential_additive.space.bind hf) h

theorem spelling_bind {f g : Spelling → Conversion α}
    (h : ∀ spelling, Mirrors view (f spelling) (g spelling)) :
    Mirrors view (spelling >>= f) (spelling >>= g) :=
  read_bind State.spelling (fun _ _ => rfl) (fun _ hf => sequential_additive.spelling.bind hf) h

theorem depth_bind {f g : Nat → Conversion α} (h : ∀ depth, Mirrors view (f depth) (g depth)) :
    Mirrors view (depth >>= f) (depth >>= g) :=
  read_bind State.depth (fun _ _ => rfl) (fun _ hf => Additive.depth_bind hf) h

theorem within (space : Namespace) {p q : Conversion α} (h : Mirrors view p q) :
    Mirrors view (within space p) (within space q) := by
  refine ⟨h.1.within space, h.2.1.within space, fun state mirror hstates => ?_⟩
  exact h.2.2 { state with space } { mirror with space }
    (congrArg (fun state : State => { state with space }) hstates)

theorem deeper {p q : Conversion α} (h : Mirrors view p q) :
    Mirrors view (deeper p) (deeper q) := by
  refine ⟨h.1.deeper, h.2.1.deeper, fun state mirror hstates => ?_⟩
  exact h.2.2 { state with depth := state.depth + 1 } { mirror with depth := mirror.depth + 1 }
    (congrArg (fun state : State => { state with depth := state.depth + 1 }) hstates)

end Mirrors

/-! ## Scripts and the attributes of components -/

/-- A view that shows nothing. -/
def unseen (_ : α) : Unit := ()

section Scripts

variable [Sorter]

/-- Whatever a script is, taking it ends as if there was none, unless its comments cannot be
placed. -/
theorem mirrors_takeScript (source : Source) :
    Mirrors unseen (takeScript source) (takeScript source.withoutScript) := by
  refine ⟨sequential_additive.takeScript source, sequential_additive.takeScript _,
    fun state mirror _ => ?_⟩
  have hnone : source.withoutScript.settled = true := by
    rw [Source.settled, Source.script_withoutScript, Option.all_none]
  rw [run_takeScript, run_takeScript, if_pos hnone]
  by_cases hsettled : source.settled = true
  · rw [if_pos hsettled]
    exact Or.inr rfl
  · rw [if_neg hsettled]
    exact Or.inl rfl

theorem mirrors_takeExpression (source : Source) :
    Mirrors unseen (takeExpression source) (takeExpression source.withoutScript) :=
  (mirrors_takeScript source).bind_pure fun _ _ _ => rfl

theorem mirrors_takeSpread (source : Source) :
    Mirrors unseen (takeSpread source) (takeSpread source.withoutScript) :=
  (mirrors_takeScript source).bind_pure fun _ _ _ => rfl

end Scripts

/-- A blanked container does not show which expression is in it, or whether one is. -/
theorem blanked_containerOf (expression other : Option Json) (inner outer origin : Origin) :
    (containerOf expression inner origin).blanked = (containerOf other outer origin).blanked := by
  cases expression <;> cases other <;> rfl

theorem blanked_spreadOf (argument other : Option Json) (origin : Origin) :
    (spreadOf argument origin).blanked = (spreadOf other origin).blanked := by
  cases argument <;> cases other <;> rfl

theorem mirrors_convertAttribute [Sorter] (item : ComponentAttribute) :
    Mirrors Attribute.blanked (convertAttribute item) (convertAttribute item.withoutScripts) := by
  match item with
  | .spread source =>
    rw [ComponentAttribute.withoutScripts, convertAttribute, convertAttribute,
      Source.origin_withoutScript]
    exact (mirrors_takeSpread source).bind_pure fun _ _ _ => blanked_spreadOf _ _ _
  | .named source name none =>
    refine Mirrors.pure ?_
    rw [Source.origin_withoutScript]
  | .named source name (some (.literal value)) =>
    refine Mirrors.pure ?_
    rw [Source.origin_withoutScript]
  | .named source name (some (.expression inner)) =>
    rw [ComponentAttribute.withoutScripts, Option.map_some, ComponentValue.withoutScript,
      convertAttribute, convertAttribute, Source.origin_withoutScript, Source.origin_withoutScript]
    refine (mirrors_takeExpression inner).bind_pure fun value other _ => ?_
    rw [Attribute.blanked, Attribute.blanked, AttributeValue.blanked, AttributeValue.blanked,
      blanked_containerOf value other]

theorem mirrors_convertAttributes [Sorter] (attributes : List ComponentAttribute) :
    Mirrors (List.map Attribute.blanked) (convertAttributes attributes)
      (convertAttributes (attributes.map ComponentAttribute.withoutScripts)) := by
  induction attributes with
  | nil => exact Mirrors.pure rfl
  | cons first rest ih =>
    rw [List.map_cons, convertAttributes, convertAttributes]
    refine (mirrors_convertAttribute first).bind
      (fun _ => (sequential_additive.convertAttributes _).bind fun _ => additive_pure _)
      (fun _ => (sequential_additive.convertAttributes _).bind fun _ => additive_pure _)
      fun value other hfirst => ?_
    refine ih.bind_pure fun values others hrest => ?_
    rw [List.map_cons, List.map_cons, hfirst, hrest]

/-! ## Nodes -/

section Rules

variable {convert : Node → Conversion Converted}
  (h : ∀ node, Mirrors Converted.blanked (convert node) (convert node.withoutScripts))
include h

theorem mirrors_convertNodes (hadd : ∀ node, Additive (convert node)) (skipBreaks : Bool)
    (nodes : List Node) :
    Mirrors (List.map Child.blanked) (convertNodes convert skipBreaks nodes)
      (convertNodes convert skipBreaks (nodes.map Node.withoutScripts)) := by
  have hnodes : ∀ nodes, Additive (convertNodes convert skipBreaks nodes) :=
    sequential_additive.convertNodes (g := convert) hadd skipBreaks
  induction nodes with
  | nil => exact Mirrors.pure rfl
  | cons node rest ih =>
    rw [List.map_cons, convertNodes, convertNodes, Node.isLineBreak_withoutScripts]
    split
    · exact ih
    · refine (h node).bind (fun _ => (hnodes _).bind fun _ => additive_pure _)
        (fun _ => (hnodes _).bind fun _ => additive_pure _) fun value other hvalue => ?_
      refine ih.bind_pure fun values others hothers => ?_
      have hchildren := congrArg Converted.children hvalue
      rw [Converted.children_blanked, Converted.children_blanked] at hchildren
      rw [List.map_append, List.map_append, hchildren, hothers]

variable (hadd : ∀ node, Additive (convert node))
include hadd

theorem mirrors_convertChildren (parent : Node) :
    Mirrors (List.map Child.blanked) (convertChildren convert parent)
      (convertChildren convert parent.withoutScripts) := by
  refine Mirrors.space_bind fun space => ?_
  rw [Node.isTableStructure_withoutScripts, Node.children_withoutScripts]
  exact mirrors_convertNodes h hadd _ parent.children

/-- What the children of an element are does not show in how its properties are converted. -/
theorem mirrors_convertElement (source : Source) (tagName : String)
    (properties : Entries PropertyValue) (children : List Node) :
    Mirrors Converted.blanked (convertElement convert source tagName properties children)
      (convertElement convert source.withoutScript tagName properties
        (children.map Node.withoutScripts)) := by
  have hinside := mirrors_convertChildren h hadd (.element source tagName properties children)
  rw [Node.withoutScripts, Node.allWithoutScripts_eq_map] at hinside
  have hrest : ∀ (origin : Origin) (inside : List Child), Additive (α := Converted) (do
      let space ← space
      let spelling ← spelling
      let attributes ← ofExcept (attributesOf space spelling tagName properties)
      Pure.pure (.one (.markup (.elementOf (.ofString tagName) attributes inside origin)))) := by
    intro origin inside
    refine sequential_additive.space.bind fun space => ?_
    refine sequential_additive.spelling.bind fun spelling => ?_
    exact (additive_ofExcept _).bind fun _ => additive_pure _
  rw [convertElement, convertElement, Source.origin_withoutScript]
  refine Mirrors.space_bind fun outside => Mirrors.within _ ?_
  refine hinside.bind (hrest _) (hrest _) fun value other hvalue => ?_
  refine Mirrors.space_bind fun inside => Mirrors.spelling_bind fun spelling => ?_
  refine (Mirrors.ofExcept _ : Mirrors id _ _).bind_pure fun attributes others hattributes => ?_
  have hattributes : attributes = others := hattributes
  rw [Converted.blanked, Converted.blanked, Child.blanked, Child.blanked,
    Markup.blanked_elementOf, Markup.blanked_elementOf, hvalue, hattributes]

theorem mirrors_convertComponent [Sorter] (placement : Placement) (source : Source)
    (name : Option String) (attributes : List ComponentAttribute) (children : List Node) :
    Mirrors Converted.blanked
      (convertComponent convert placement source name attributes children)
      (convertComponent convert placement source.withoutScript name
        (attributes.map ComponentAttribute.withoutScripts)
        (children.map Node.withoutScripts)) := by
  have hinside :=
    mirrors_convertChildren h hadd (.component placement source name attributes children)
  rw [Node.withoutScripts, Node.allWithoutScripts_eq_map] at hinside
  have hrest : ∀ (attributes : List ComponentAttribute) (make : List Attribute → Converted),
      Additive (convertAttributes attributes >>= fun attributes => Pure.pure (make attributes)) :=
    fun attributes make =>
      (sequential_additive.convertAttributes attributes).bind fun _ => additive_pure _
  rw [convertComponent, convertComponent, Source.origin_withoutScript]
  refine Mirrors.space_bind fun outside => Mirrors.within _ ?_
  refine hinside.bind (fun _ => hrest _ _) (fun _ => hrest _ _) fun value other hvalue => ?_
  refine (mirrors_convertAttributes attributes).bind_pure fun written others hattributes => ?_
  rw [Converted.blanked, Converted.blanked, Child.blanked, Child.blanked]
  cases name with
  | none =>
    rw [componentMarkup, componentMarkup, Markup.blanked_fragmentOf, Markup.blanked_fragmentOf,
      hvalue]
  | some name =>
    rw [componentMarkup, componentMarkup, Markup.blanked_elementOf, Markup.blanked_elementOf,
      hvalue, hattributes]

/-- **Each rule does the same without scripts,** but for what is made of them, if the conversion of
the nodes inside does. -/
theorem mirrors_convertByKind [Sorter] (node : Node) :
    Mirrors Converted.blanked (convertByKind convert node)
      (convertByKind convert node.withoutScripts) := by
  cases node with
  | root source children =>
    have hinside := mirrors_convertChildren h hadd (.root source children)
    rw [Node.withoutScripts] at hinside ⊢
    rw [convertByKind, convertByKind, Source.origin_withoutScript]
    refine hinside.bind_pure fun value other hvalue => ?_
    rw [Converted.blanked, Converted.blanked, Child.blanked, Child.blanked, rootFragment,
      rootFragment, Markup.blanked_fragmentOf, Markup.blanked_fragmentOf,
      map_dropOuterLayout Child.isLayout_blanked, map_dropOuterLayout Child.isLayout_blanked,
      hvalue]
  | element source tagName properties children =>
    rw [Node.withoutScripts, Node.allWithoutScripts_eq_map]
    exact mirrors_convertElement h hadd source tagName properties children
  | text source value =>
    refine Mirrors.pure ?_
    rw [convertText, convertText, Source.origin_withoutScript, Source.spanOrigin_withoutScript]
  | comment source value =>
    refine (Mirrors.logComments _ _).bind_pure fun _ _ _ => ?_
    rw [commentContainer, commentContainer, commentOf, commentOf, Source.origin_withoutScript,
      Source.spanOrigin_withoutScript]
  | doctype source => exact Mirrors.pure rfl
  | esm source =>
    refine (mirrors_takeScript source).bind
      (fun _ => (additive_logStatements _).bind fun _ => additive_pure _)
      (fun _ => (additive_logStatements _).bind fun _ => additive_pure _) fun value other _ => ?_
    exact (Mirrors.logStatements _ _).bind_pure fun _ _ _ => rfl
  | expression placement source =>
    rw [Node.withoutScripts, convertByKind, convertByKind, Source.origin_withoutScript,
      Source.spanOrigin_withoutScript]
    refine (mirrors_takeExpression source).bind_pure fun value other _ => ?_
    rw [Converted.blanked, Converted.blanked, Child.blanked, Child.blanked,
      blanked_containerOf value other]
  | component placement source name attributes children =>
    rw [Node.withoutScripts, Node.allWithoutScripts_eq_map]
    exact mirrors_convertComponent h hadd placement source name attributes children
  | unknown source kind fields => exact Mirrors.fail rfl
  | malformed value =>
    exact Mirrors.fail
      (congrArg ConversionError.malformed (Json.withoutScripts_withoutScripts value).symm)

end Rules

/-- What is wrong with a node for which no level is left is the same without scripts. -/
theorem withoutScripts_beyondLimit (limit : Nat) (node : Node) :
    (beyondLimit limit node).withoutScripts =
      (beyondLimit limit node.withoutScripts).withoutScripts := by
  cases node with
  | malformed value =>
    exact congrArg ConversionError.malformed (Json.withoutScripts_withoutScripts value).symm
  | _ => rfl

/-- **The conversion of a node does the same without scripts,** however many levels it has. -/
theorem mirrors_convert [Sorter] (limit levels : Nat) (node : Node) :
    Mirrors Converted.blanked (convert (fun _ => none) limit levels node)
      (convert (fun _ => none) limit levels node.withoutScripts) := by
  induction levels generalizing node with
  | zero => exact Mirrors.fail (withoutScripts_beyondLimit limit node)
  | succ levels ih =>
    rw [convert_succ, convert_succ]
    refine Mirrors.depth_bind fun depth => ?_
    split
    · rw [convertWith_none, convertWith_none]
      exact (mirrors_convertByKind ih (additive_convert _ limit levels) node).deeper
    · exact Mirrors.fail (withoutScripts_beyondLimit limit node)

end Conversion

/-! ## The whole program -/

/-- The expression for what a tree became shows no more of the scripts than that. -/
theorem blanked_treeExpression (origin : Origin) (children : List Child) :
    (treeExpression origin children).blanked =
      treeExpression origin (children.map Child.blanked) := by
  have hwrapped : ∀ children : List Child,
      (Expression.markup (.fragmentOf children origin)).blanked =
        .markup (.fragmentOf (children.map Child.blanked) origin) :=
    fun children => congrArg Expression.markup (Markup.blanked_fragmentOf children origin)
  match children with
  | [] => exact hwrapped []
  | first :: second :: rest => exact hwrapped (first :: second :: rest)
  | [.markup value] => rfl
  | [.container value] => exact hwrapped [.container value]
  | [.foreign value] =>
    show (if (Child.foreign value).isMarkup then Expression.foreign value else _).blanked =
      if (Child.foreign value).isMarkup then Expression.foreign value else _
    split
    · rfl
    · exact hwrapped [.foreign value]

/-- The tree of a program shows no more of the scripts than what the tree became, if all that is
hoisted comes from scripts. -/
theorem blankedTree_programOf (origin : Origin) (converted : Converted) {state : State}
    (h : ∃ statements : List Json, state.statements = statements.map .foreign) :
    (programOf origin converted state).blankedTree =
      (Program.mk (treeStatement origin converted.blanked) [] origin).tree := by
  obtain ⟨statements, hstatements⟩ := h
  have hforeign : ∀ statements : List Json,
      (Program.mk (statements.map Statement.foreign) [] origin).tree = [] := by
    intro statements
    induction statements with
    | nil => rfl
    | cons first rest ih => exact ih
  have hbody : (programOf origin converted state).tree =
      (Program.mk (treeStatement origin converted) [] origin).tree := by
    rw [Program.tree, programOf, List.filterMap_append, hstatements]
    exact congrArg (· ++ _) (hforeign statements)
  have hexpression : ∀ children : List Child,
      [((treeExpression origin children).blanked, origin)] =
        [(treeExpression origin (children.map Child.blanked), origin)] :=
    fun children => congrArg (fun expression => [(expression, origin)])
      (blanked_treeExpression origin children)
  rw [Program.blankedTree, hbody]
  cases converted with
  | nothing => rfl
  | one child => exact hexpression [child]
  | many children => exact hexpression children

theorem spanOrigin_source_withoutScripts (node : Node) :
    node.withoutScripts.source.spanOrigin = node.source.spanOrigin := by
  cases node <;> rfl

section Outcomes

variable [Sorter] (space : Namespace) (spelling : Spelling) (maxDepth : Nat)

/-- What a tree becomes without overrides, or why it cannot be converted. -/
def becomes (tree : Node) : Except ConversionError Converted :=
  let options : Options := { space, spelling, maxDepth }
  ((options.convertNode tree).run options.initialState).1

/-- Conversions that look the same have outcomes that differ in nothing but what is made of
scripts. -/
theorem sameButScripts_of_seen {tree other : Node}
    (horigin : tree.source.spanOrigin = other.source.spanOrigin)
    (h : Conversion.seen Converted.blanked (becomes space spelling maxDepth tree) =
      Conversion.seen Converted.blanked (becomes space spelling maxDepth other)) :
    SameButScripts (toProgram { space, spelling, maxDepth } tree)
      (toProgram { space, spelling, maxDepth } other) := by
  let options : Options := { space, spelling, maxDepth }
  have h : Conversion.seen Converted.blanked
        ((options.convertNode tree).run options.initialState).1 =
      Conversion.seen Converted.blanked
        ((options.convertNode other).run options.initialState).1 := h
  rw [toProgram_eq, toProgram_eq, horigin]
  rcases hfirst : (options.convertNode tree).run options.initialState with ⟨result, after⟩
  rcases hsecond : (options.convertNode other).run options.initialState with ⟨mirrored, behind⟩
  rw [hfirst, hsecond] at h
  match result, mirrored with
  | .error _, .error _ => exact Except.error.inj h
  | .error _, .ok _ => exact nomatch h
  | .ok _, .error _ => exact nomatch h
  | .ok converted, .ok reflected =>
    have hconverted : converted.blanked = reflected.blanked := Except.ok.inj h
    have hafter := Conversion.exists_statements_of_run_convert rfl hfirst
    have hbehind := Conversion.exists_statements_of_run_convert rfl hsecond
    refine ⟨?_, rfl⟩
    rw [blankedTree_programOf _ _ hafter, blankedTree_programOf _ _ hbehind, hconverted]

/-- A tree becomes what it becomes without its scripts, unless a sort gives up. -/
theorem unsorted_or_seen_becomes (tree : Node) :
    toProgram { space, spelling, maxDepth } tree = .error .unsorted ∨
      Conversion.seen Converted.blanked (becomes space spelling maxDepth tree) =
        Conversion.seen Converted.blanked
          (becomes space spelling maxDepth tree.withoutScripts) := by
  rcases (Conversion.mirrors_convert maxDepth maxDepth tree).2.2 _ _ rfl with hunsorted | hsame
  · rw [toProgram_eq]
    exact Or.inl (congrArg (Except.map _) hunsorted)
  · exact Or.inr hsame

/-- **Scripts cannot break a conversion,** but for one thing.  Take two JSON trees that are the same
without what stands under `estree` in the data of their nodes, of attributes and of the values of
attributes, whatever that is.  They are read as trees of nodes of the same shape.  In any namespace,
in any fashions, with any limit and without overrides, both have a program or neither has.  In the
first case the trees in the programs are the same once the contents of the containers that were made
of expressions, and what is spread, are blanked; in the second case the errors are the same, up to
scripts in a value that is quoted.

The one thing is a sort that gives up on the comments of a script.  It ends the conversion of the
tree with that script, and then nothing is said of the other tree. -/
theorem sameButScripts_toProgram (value other : Json)
    (h : value.withoutScripts = other.withoutScripts) :
    let outcome (value : Json) := toProgram { space, spelling, maxDepth } (Node.ofJson value)
    (Node.ofJson value).withoutScripts = (Node.ofJson other).withoutScripts ∧
      (outcome value = .error .unsorted ∨ outcome other = .error .unsorted ∨
        SameButScripts (outcome value) (outcome other)) ∧
      ∀ value, outcome value = .error .unsorted →
        ∃ script ∈ (Node.ofJson value).scripts, script.attach = none := by
  intro outcome
  have hshape : (Node.ofJson value).withoutScripts = (Node.ofJson other).withoutScripts := by
    rw [← Node.ofJson_withoutScripts, ← Node.ofJson_withoutScripts, h]
  refine ⟨hshape, ?_, fun value hunsorted => exists_script_of_toProgram hunsorted⟩
  -- Each of the two looks like the tree that both are without their scripts.
  rcases unsorted_or_seen_becomes space spelling maxDepth (Node.ofJson value) with hvalue | hvalue
  · exact Or.inl hvalue
  rcases unsorted_or_seen_becomes space spelling maxDepth (Node.ofJson other) with hother | hother
  · exact Or.inr (Or.inl hother)
  refine Or.inr (Or.inr (sameButScripts_of_seen space spelling maxDepth ?_ ?_))
  · rw [← spanOrigin_source_withoutScripts, hshape, spanOrigin_source_withoutScripts]
  · rw [hvalue, hother, hshape]

end Outcomes

/-- A document with an expression, and with a component that has an attribute with an expression,
which is written as an array, and a spread.  Given values stand for their scripts. -/
def scriptedDocument (expression value spread : Json) : Json :=
  let data (script : Json) : Json :=
    .object [("before", .bool true), ("estree", script), ("behind", .null)]
  let named : Json := .array [.string "mdxJsxAttribute", .string "b",
    .object [("data", data value)], .null, data .null]
  let spreads : Json :=
    .object [("type", .string "mdxJsxExpressionAttribute"), ("data", data spread)]
  .object [("type", .string "root"), ("children", .array [
    .object [("type", .string "mdxTextExpression"), ("data", data expression)],
    .object [("type", .string "mdxJsxTextElement"), ("name", .string "a"),
      ("attributes", .array [named, spreads])]])]

/-- A script of one statement with an expression. -/
def identifierScript : Json :=
  .object [("body", .array [.object [("type", .string "ExpressionStatement"),
    ("expression", .object [("type", .string "Identifier"), ("name", .string "c")])]])]

open scoped Sorting.Insertion in
theorem sameButScripts_toProgram_scriptedDocument :
    ∃ program other,
      toProgram {} (Node.ofJson (scriptedDocument identifierScript identifierScript .null)) =
        .ok program ∧
      toProgram {} (Node.ofJson (scriptedDocument (.array []) (.bool true) identifierScript)) =
        .ok other ∧
      program.blankedTree = other.blankedTree ∧ program.origin = other.origin := by
  have succeeds : (toProgram {} (Node.ofJson (scriptedDocument identifierScript identifierScript
      .null))).toOption.isSome = true := by decide +kernel
  have too : (toProgram {} (Node.ofJson (scriptedDocument (.array []) (.bool true)
      identifierScript))).toOption.isSome = true := by decide +kernel
  obtain ⟨-, hsame, -⟩ := sameButScripts_toProgram .html {} 512
    (scriptedDocument identifierScript identifierScript .null)
    (scriptedDocument (.array []) (.bool true) identifierScript) rfl
  rcases hfirst : toProgram {} (Node.ofJson (scriptedDocument identifierScript identifierScript
    .null)) with error | program
  · rw [hfirst] at succeeds
    exact nomatch succeeds
  rcases hsecond : toProgram {} (Node.ofJson (scriptedDocument (.array []) (.bool true)
    identifierScript)) with error | other
  · rw [hsecond] at too
    exact nomatch too
  rcases hsame with hunsorted | hunsorted | hsame
  · exact nomatch hfirst.symm.trans hunsorted
  · exact nomatch hsecond.symm.trans hunsorted
  · have hsame : SameButScripts (.ok program) (.ok other) := by
      rw [← hfirst, ← hsecond]
      exact hsame
    exact ⟨program, other, rfl, rfl, hsame⟩

/-- A script without statements and with comments that are in no order, as it is written. -/
def scatteredPayload : Json :=
  .object [("body", .array []),
    ("comments", .array (Script.scatteredScript.comments.map Comment.toJson))]

open scoped Sorting.Insertion in
/-- An attribute without a script is an empty container, but with comments that are in no order in
its script a sort may give up on it. -/
theorem toProgram_scatteredPayload :
    (scriptedDocument .null scatteredPayload .null).withoutScripts =
        (scriptedDocument .null .null .null).withoutScripts ∧
      (toProgram {} (Node.ofJson (scriptedDocument .null .null .null))).toOption.isSome ∧
      toProgram {} (Node.ofJson (scriptedDocument .null scatteredPayload .null)) =
        .error .unsorted := by
  have hnone : (Node.ofJson (scriptedDocument .null scatteredPayload .null)).properties.length =
      0 := by decide +kernel
  refine ⟨rfl, by decide +kernel, toProgram_eq_unsorted ?_ (by decide +kernel)⟩
  rw [List.length_eq_zero_iff.1 hnone]
  exact List.forall_mem_nil _

end MarkupJsx
