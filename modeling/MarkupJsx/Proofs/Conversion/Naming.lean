import MarkupJsx.Proofs.Conversion.Rules
import MarkupJsx.Proofs.Vocabulary.StyleName
import MarkupJsx.Script.InsertionSort

/-!
# The fashion of attribute names only renames

A property of an element can be written under two names, one for each fashion of attribute names.
The name is not only written: it decides whether the value is a style, and whether there can be an
attribute of this name or an object has to be spread.  The theory below says that all this leaves no
trace but the name.

* `Markup.nameless` is the output with each attribute that has the form of one made of a property
  reduced to its value; an attribute without a value has the value `true`, and a spread of one
  property has the value of the property.
* `Renames` relates the runs of two steps in states that differ in the fashion, and in the names of
  attributes in the statements logged so far (`State.Renamed`), so that the results are related and
  the states after the runs differ in this alone again.
* `Recipe.Alike` relates what two overrides ask for.  They may be told what is the same but for
  names, and then have to go on alike.  `Override.IgnoresNames` says of an override that it is alike
  to itself: it does not tell what it gets by the names of attributes.

The attributes of components are the same in both fashions, with their names
(`renames_convertAttributes`).  The main statement is `nameless_toProgram`: **in both fashions the
outcome is the same, but for names.**  It does not hold of overrides that look at the names of what
they get (`toProgram_keepingClasses`).
-/

namespace MarkupJsx
open Jsx

/-! ## The output without the names of attributes -/

/-- Whether nothing is known of where a node comes from. -/
def Origin.isAbsent : Origin → Bool
  | ⟨⟨none, none, none, none⟩, none⟩ => true
  | _ => false

namespace Jsx

/-- The value of an attribute that has the form of one made of a property.  Such an attribute comes
from nowhere.  It has a simple name, and then no value, a text or a style as its value; or it
spreads an object of one property. -/
def Attribute.propertyValue? : Attribute → Option Expression
  | .bare (.identifier _) origin =>
    if origin.isAbsent then some (.literal ⟨.bool true, {}⟩) else none
  | .named (.identifier _) (.literal value) origin =>
    if origin.isAbsent then some (.literal value) else none
  | .named (.identifier _) (.container (.expression (.object properties) inner)) origin =>
    if inner.isAbsent && origin.isAbsent then some (.object properties) else none
  | .spread (.object [.mk false false false (.literal _) value]) origin =>
    if origin.isAbsent then some value else none
  | _ => none

/-- A value under no name. -/
def Attribute.ofValue (value : Expression) : Attribute :=
  .named (.identifier "") (.container (.expression value {})) {}

/-- An attribute without its name, if it has the form of one made of a property. -/
def Attribute.dropName (item : Attribute) : Attribute :=
  match item.propertyValue? with
  | some value => .ofValue value
  | none => item

mutual

/-- An element or fragment without the names of attributes. -/
def Markup.nameless : Markup → Markup
  | .element attributes name selfClosing closing children origin =>
    .element (attributesNameless attributes) name selfClosing closing (childrenNameless children)
      origin
  | .fragment attributes selfClosing children origin =>
    .fragment (attributesNameless attributes) selfClosing (childrenNameless children) origin
termination_by structural value => value

/-- A child without the names of attributes. -/
def Child.nameless : Child → Child
  | .markup value => .markup value.nameless
  | .container value => .container value.nameless
  | .foreign value => .foreign value
termination_by structural value => value

/-- A container without the names of attributes. -/
def Container.nameless : Container → Container
  | .empty comments inner origin => .empty comments inner origin
  | .expression value origin => .expression value.nameless origin
termination_by structural value => value

/-- An expression without the names of attributes. -/
def Expression.nameless : Expression → Expression
  | .markup value => .markup value.nameless
  | .literal value => .literal value
  | .object properties => .object (propertiesNameless properties)
  | .foreign value => .foreign value
termination_by structural value => value

/-- A property of an object without the names of attributes; it keeps its own name. -/
def Property.nameless : Property → Property
  | .mk method shorthand computed key value =>
    .mk method shorthand computed key value.nameless
termination_by structural value => value

/-- An attribute without its name, and without the names of attributes inside it. -/
def Attribute.nameless : Attribute → Attribute
  | .bare name origin => (Attribute.bare name origin).dropName
  | .named name value origin => (Attribute.named name value.nameless origin).dropName
  | .spread argument origin => (Attribute.spread argument.nameless origin).dropName
termination_by structural value => value

/-- The value of an attribute without the names of attributes inside it. -/
def AttributeValue.nameless : AttributeValue → AttributeValue
  | .literal value => .literal value
  | .container value => .container value.nameless
termination_by structural value => value

/-- Children without the names of attributes. -/
def childrenNameless : List Child → List Child
  | [] => []
  | child :: rest => child.nameless :: childrenNameless rest
termination_by structural children => children

/-- Attributes without their names. -/
def attributesNameless : List Attribute → List Attribute
  | [] => []
  | first :: rest => first.nameless :: attributesNameless rest
termination_by structural attributes => attributes

/-- Properties without the names of attributes in their values. -/
def propertiesNameless : List Property → List Property
  | [] => []
  | property :: rest => property.nameless :: propertiesNameless rest
termination_by structural properties => properties

end

@[simp] theorem childrenNameless_eq_map (children : List Child) :
    childrenNameless children = children.map Child.nameless := by
  induction children with
  | nil => rfl
  | cons child rest ih => rw [childrenNameless, ih, List.map_cons]

@[simp] theorem attributesNameless_eq_map (attributes : List Attribute) :
    attributesNameless attributes = attributes.map Attribute.nameless := by
  induction attributes with
  | nil => rfl
  | cons first rest ih => rw [attributesNameless, ih, List.map_cons]

@[simp] theorem propertiesNameless_eq_map (properties : List Property) :
    propertiesNameless properties = properties.map Property.nameless := by
  induction properties with
  | nil => rfl
  | cons property rest ih => rw [propertiesNameless, ih, List.map_cons]

/-- A statement without the names of attributes. -/
def Statement.nameless : Statement → Statement
  | .expression value origin => .expression value.nameless origin
  | .foreign value => .foreign value

/-- A program without the names of attributes. -/
def Program.nameless (program : Program) : Program :=
  { program with body := program.body.map Statement.nameless }

theorem Child.isLayout_nameless (child : Child) : child.nameless.isLayout = child.isLayout := by
  match child with
  | .markup _ => rfl
  | .foreign _ => rfl
  | .container (.empty _ _ _) => rfl
  | .container (.expression (.literal ⟨.string _, _⟩) _) => rfl
  | .container (.expression (.literal ⟨.bool _, _⟩) _) => rfl
  | .container (.expression (.foreign _) _) => rfl
  | .container (.expression (.markup _) _) => rfl
  | .container (.expression (.object _) _) => rfl

theorem Markup.nameless_fragmentOf (children : List Child) (origin : Origin) :
    (Markup.fragmentOf children origin).nameless =
      .fragmentOf (children.map Child.nameless) origin := by
  rw [Markup.fragmentOf, Markup.nameless, childrenNameless_eq_map]
  rfl

/-- An element closes itself without names if it does with them. -/
theorem Markup.nameless_elementOf (name : ElementName) (attributes : List Attribute)
    (children : List Child) (origin : Origin) :
    (Markup.elementOf name attributes children origin).nameless =
      .elementOf name (attributes.map Attribute.nameless) (children.map Child.nameless) origin := by
  rw [Markup.elementOf, Markup.nameless, childrenNameless_eq_map, attributesNameless_eq_map,
    Markup.elementOf, List.isEmpty_map]

end Jsx

/-- What a node becomes without the names of attributes. -/
def Converted.nameless : Converted → Converted
  | .nothing => .nothing
  | .one child => .one child.nameless
  | .many children => .many (children.map Child.nameless)

theorem Converted.children_nameless (converted : Converted) :
    converted.nameless.children = converted.children.map Child.nameless := by
  cases converted <;> rfl

namespace Conversion

/-! ## The attributes of elements -/

theorem nameless_styleObject (declarations : Entries String) :
    (styleObject declarations).nameless = styleObject declarations := by
  rw [styleObject, Expression.nameless, propertiesNameless_eq_map, List.map_map]
  rfl

/-- **Without its name an attribute is its value.** -/
theorem nameless_attributeOf (name : String) (written : WrittenValue) :
    (attributeOf name written).nameless = .ofValue (WrittenValue.expression written) := by
  rw [attributeOf]
  split
  · cases written with
    | bare => rfl
    | text value => rfl
    | style declarations =>
      have hobject := nameless_styleObject declarations
      rw [simpleAttribute, Attribute.nameless, AttributeValue.nameless, Container.nameless, hobject]
      rfl
  · have hvalue : (WrittenValue.expression written).nameless =
        WrittenValue.expression written := by
      cases written with
      | bare => rfl
      | text value => rfl
      | style declarations => exact nameless_styleObject declarations
    rw [Attribute.nameless, Expression.nameless, propertiesNameless_eq_map, List.map_singleton,
      Property.init, Property.nameless, hvalue]
    rfl

/-! ## Runs in the two fashions -/

/-- Two results that are both values, which are related, or both the same error. -/
def Agree {α : Type} (R : α → α → Prop) :
    Except ConversionError α → Except ConversionError α → Prop
  | .ok value, .ok other => R value other
  | .error error, .error other => error = other
  | _, _ => False

end Conversion

/-- Two states, one in the one fashion of attribute names and the other in the other, that are the
same but for names of attributes in the statements logged so far. -/
structure State.Renamed (state other : State) : Prop where
  react : state.spelling.attributes = .react
  html : other.spelling.attributes = .html
  space : state.space = other.space
  styles : state.spelling.styles = other.spelling.styles
  comments : state.comments = other.comments
  statements : state.statements.map Statement.nameless = other.statements.map Statement.nameless
  depth : state.depth = other.depth

namespace Conversion

variable {α β : Type}

/-- A result is the same as itself. -/
theorem agree_self (result : Except ConversionError α) : Agree Eq result result := by
  cases result with
  | ok value => exact rfl
  | error error => exact rfl

/-- What can be gone on with is the same on both sides. -/
theorem agree_caught {R : α → α → Prop} {result other : Except ConversionError α}
    (h : Agree R result other) : Agree (Agree R) (caught result) (caught other) := by
  match result, other with
  | .ok value, .ok other => exact h
  | .error error, .error other =>
    have herror : error = other := h
    rw [herror]
    cases other <;> exact rfl
  | .ok _, .error _ => exact h.elim
  | .error _, .ok _ => exact h.elim

/-- Two steps, one run in the one fashion of attribute names and the other in the other.  In states
that are the same but for names the results are related, and the states behind them are the same but
for names. -/
def Renames (R : α → α → Prop) (step other : Conversion α) : Prop :=
  ∀ state state' : State, state.Renamed state' →
    Agree R (step.run state).1 (other.run state').1 ∧
      (step.run state).2.Renamed (other.run state').2

namespace Renames

variable {R : α → α → Prop} {S : β → β → Prop}

theorem pure {value other : α} (h : R value other) : Renames R (pure value) (pure other) :=
  fun _ _ hstate => ⟨h, hstate⟩

theorem fail (error : ConversionError) : Renames R (fail error) (fail error) :=
  fun _ _ hstate => ⟨rfl, hstate⟩

theorem ofExcept {result other : Except ConversionError α} (h : Agree R result other) :
    Renames R (ofExcept result) (ofExcept other) :=
  fun _ _ hstate => ⟨h, hstate⟩

theorem logComments (comments : List Comment) :
    Renames Eq (logComments comments) (logComments comments) :=
  fun _ _ hstate => ⟨rfl, { hstate with comments := congrArg (· ++ comments) hstate.comments }⟩

theorem logStatements {statements others : List Statement}
    (h : statements.map Statement.nameless = others.map Statement.nameless) :
    Renames Eq (logStatements statements) (logStatements others) := by
  intro state state' hstate
  refine ⟨rfl, { hstate with statements := ?_ }⟩
  show (state.statements ++ statements).map _ = (state'.statements ++ others).map _
  rw [List.map_append, List.map_append, hstate.statements, h]

/-- **One after the other:** the second steps have to be related wherever the first ones give values
that are. -/
theorem bind {p q : Conversion α} {f g : α → Conversion β} (hpq : Renames R p q)
    (hfg : ∀ value other, R value other → Renames S (f value) (g other)) :
    Renames S (p >>= f) (q >>= g) := by
  intro state state' hstate
  obtain ⟨hagree, hafter⟩ := hpq state state' hstate
  rw [run_bind, run_bind]
  generalize p.run state = first, q.run state' = first' at hagree hafter
  match first, first' with
  | (.ok value, after), (.ok other, after') => exact hfg value other hagree after after' hafter
  | (.error _, after), (.error _, after') => exact ⟨hagree, hafter⟩
  | (.ok _, _), (.error _, _) => exact hagree.elim
  | (.error _, _), (.ok _, _) => exact hagree.elim

/-- What is done with related values has to be related. -/
theorem bind_pure {p q : Conversion α} {f g : α → β} (hpq : Renames R p q)
    (hfg : ∀ value other, R value other → S (f value) (g other)) :
    Renames S (p >>= fun value => Pure.pure (f value))
      (q >>= fun value => Pure.pure (g value)) :=
  hpq.bind fun value other h => Renames.pure (hfg value other h)

theorem space_bind {f g : Namespace → Conversion α}
    (h : ∀ space, Renames R (f space) (g space)) : Renames R (space >>= f) (space >>= g) := by
  rintro state ⟨space, _, _, _, _⟩ hstate
  obtain rfl : state.space = space := hstate.space
  exact h state.space state _ hstate

/-- A step that asks for the fashions gets to know the one that differs. -/
theorem spelling_bind {f g : Spelling → Conversion α}
    (h : ∀ styles, Renames R (f { attributes := .react, styles })
      (g { attributes := .html, styles })) :
    Renames R (spelling >>= f) (spelling >>= g) := by
  intro state state' hstate
  have hreact : state.spelling = { attributes := .react, styles := state.spelling.styles } := by
    rw [← hstate.react]
  have hhtml : state'.spelling = { attributes := .html, styles := state.spelling.styles } := by
    rw [← hstate.html, hstate.styles]
  have hnext := h state.spelling.styles state state' hstate
  rw [← hreact, ← hhtml] at hnext
  exact hnext

theorem depth_bind {f g : Nat → Conversion α} (h : ∀ depth, Renames R (f depth) (g depth)) :
    Renames R (depth >>= f) (depth >>= g) := by
  rintro state ⟨_, _, _, _, depth⟩ hstate
  obtain rfl : state.depth = depth := hstate.depth
  exact h state.depth state _ hstate

theorem within (space : Namespace) {p q : Conversion α} (h : Renames R p q) :
    Renames R (within space p) (within space q) := by
  intro state state' hstate
  have hinside : State.Renamed { state with space } { state' with space } :=
    { hstate with space := rfl }
  obtain ⟨hagree, hafter⟩ := h _ _ hinside
  exact ⟨hagree, { hafter with space := hstate.space }⟩

theorem deeper {p q : Conversion α} (h : Renames R p q) :
    Renames R (deeper p) (deeper q) := by
  intro state state' hstate
  have hinside : State.Renamed { state with depth := state.depth + 1 }
      { state' with depth := state'.depth + 1 } :=
    { hstate with depth := congrArg (· + 1) hstate.depth }
  obtain ⟨hagree, hafter⟩ := h _ _ hinside
  exact ⟨hagree, { hafter with depth := congrArg (· - 1) hafter.depth }⟩

theorem attempt {p q : Conversion α} (h : Renames R p q) :
    Renames (Agree R) (attempt p) (attempt q) := by
  intro state state' hstate
  obtain ⟨hagree, hafter⟩ := h state state' hstate
  exact ⟨agree_caught hagree, hafter⟩

end Renames

/-! ## The attributes of elements in the two fashions -/

/-- All that the name decides about the value is whether it is a style. -/
theorem writtenValue_congr {name other : String} (h : name = "style" ↔ other = "style")
    (names : StyleCase) (tagName : String) (value : PropertyValue) :
    writtenValue names tagName name value = writtenValue names tagName other value := by
  by_cases hname : name = "style"
  · rw [hname, h.1 hname]
  · have hother : ¬other = "style" := fun heq => hname (h.2 heq)
    unfold writtenValue
    rw [if_neg hname, if_neg hother]

/-- A property is the style in both fashions or in neither, so it has the same value in both. -/
theorem agree_attributeFor (space : Namespace) (styles : StyleCase) (tagName property : String)
    (value : PropertyValue) :
    Agree (fun first other => first.map Attribute.nameless = other.map Attribute.nameless)
      (attributeFor space { attributes := .react, styles } tagName property value)
      (attributeFor space { attributes := .html, styles } tagName property value) := by
  have hstyle : (Vocabulary.find space property).writtenName .react = "style" ↔
      (Vocabulary.find space property).writtenName .html = "style" := by
    rw [Vocabulary.writtenName_find_eq_style_iff, Vocabulary.writtenName_find_eq_style_iff]
  rw [attributeFor, attributeFor]
  dsimp only
  split
  · exact rfl
  · rw [writtenValue_congr hstyle]
    cases writtenValue styles tagName ((Vocabulary.find space property).writtenName .html)
        (flatten (Vocabulary.find space property) value) with
    | error error => exact rfl
    | ok written =>
      show some _ = some _
      rw [nameless_attributeOf, nameless_attributeOf]

theorem agree_attributesOf (space : Namespace) (styles : StyleCase) (tagName : String)
    (properties : Entries PropertyValue) :
    Agree (fun attributes others =>
        attributes.map Attribute.nameless = others.map Attribute.nameless)
      (attributesOf space { attributes := .react, styles } tagName properties)
      (attributesOf space { attributes := .html, styles } tagName properties) := by
  induction properties with
  | nil => exact rfl
  | cons entry rest ih =>
    obtain ⟨property, value⟩ := entry
    have hfirst := agree_attributeFor space styles tagName property value
    rw [attributesOf_cons, attributesOf_cons]
    generalize attributeFor space { attributes := .react, styles } tagName property value = result
      at hfirst ⊢
    generalize attributeFor space { attributes := .html, styles } tagName property value = result'
      at hfirst ⊢
    generalize attributesOf space { attributes := .react, styles } tagName rest = behind at ih ⊢
    generalize attributesOf space { attributes := .html, styles } tagName rest = behind' at ih ⊢
    match result, result', behind, behind' with
    | .error _, .error _, _, _ => exact hfirst
    | .ok _, .error _, _, _ => exact hfirst.elim
    | .error _, .ok _, _, _ => exact hfirst.elim
    | .ok _, .ok _, .error _, .error _ => exact ih
    | .ok _, .ok _, .ok _, .error _ => exact ih.elim
    | .ok _, .ok _, .error _, .ok _ => exact ih.elim
    | .ok first, .ok first', .ok others, .ok others' =>
      show (first.toList ++ others).map _ = (first'.toList ++ others').map _
      have hlist : ∀ first : Option Attribute,
          first.toList.map Attribute.nameless = (first.map Attribute.nameless).toList := by
        intro first
        cases first <;> rfl
      rw [List.map_append, List.map_append, hlist, hlist, hfirst, ih]

/-! ## Scripts and the attributes of components -/

/-- A step that only logs comments and whose result depends on no state does the same in both
fashions. -/
theorem renames_of_run {step : Conversion α} {result : Except ConversionError α}
    {comments : List Comment}
    (h : ∀ state, step.run state =
      (result, { state with comments := state.comments ++ comments })) :
    Renames Eq step step := by
  intro state state' hstate
  rw [h, h]
  exact ⟨agree_self result,
    { hstate with comments := congrArg (· ++ comments) hstate.comments }⟩

section Scripts

variable [Sorter]

theorem renames_takeScript (source : Source) :
    Renames Eq (takeScript source) (takeScript source) :=
  renames_of_run (run_takeScript source)

theorem renames_takeExpression (source : Source) :
    Renames Eq (takeExpression source) (takeExpression source) :=
  renames_of_run (run_takeExpression source)

/-- **The attributes of a component are the same in both fashions,** with their names. -/
theorem renames_convertAttributes (attributes : List ComponentAttribute) :
    Renames Eq (convertAttributes attributes) (convertAttributes attributes) := by
  induction attributes with
  | nil => exact Renames.pure rfl
  | cons first rest ih =>
    rw [convertAttributes]
    refine (renames_of_run (run_convertAttribute first)).bind fun written _ hwritten => ?_
    rw [← hwritten]
    exact ih.bind_pure fun _ _ hothers => congrArg (written :: ·) hothers

end Scripts

end Conversion

/-! ## What overrides ask for -/

open Conversion (Agree)

/-- Two values that look the same. -/
def SameUnder {α β : Type} (view : α → β) (value other : α) : Prop :=
  view value = view other

/-- Two recipes that ask for the same, and that go on in this way as long as they get what is the
same but for the names of attributes.  Their results are related; an override may answer whatever is
related to what another answers. -/
inductive Recipe.Alike : {α : Type} → (α → α → Prop) → Recipe α → Recipe α → Prop
  | done {α : Type} {R : α → α → Prop} {value other : α} (h : R value other) :
      Alike R (.done value) (.done other)
  | fail {α : Type} {R : α → α → Prop} (error : ConversionError) :
      Alike R (.fail error) (.fail error)
  | convert (node : Node) : Alike (SameUnder Converted.nameless) (.convert node) (.convert node)
  | convertChildren (parent : Node) : Alike (SameUnder (List.map Child.nameless))
      (.convertChildren parent) (.convertChildren parent)
  | within {α : Type} {R : α → α → Prop} {p q : Recipe α} (space : Namespace) (h : Alike R p q) :
      Alike R (.within space p) (.within space q)
  | attempt {α : Type} {R : α → α → Prop} {p q : Recipe α} (h : Alike R p q) :
      Alike (Agree R) (.attempt p) (.attempt q)
  | comment (value : Comment) : Alike Eq (.comment value) (.comment value)
  | statement {value other : Statement} (h : value.nameless = other.nameless) :
      Alike Eq (.statement value) (.statement other)
  | andThen {α β : Type} {R : α → α → Prop} {S : β → β → Prop} {p q : Recipe α}
      {f g : α → Recipe β} (h : Alike R p q)
      (hnext : ∀ value other, R value other → Alike S (f value) (g other)) :
      Alike S (.andThen p f) (.andThen q g)

/-- An override that does not tell what it gets by the names of attributes: with names of either
fashion in what it gets it asks for the same, and answers the same but for names. -/
def Override.IgnoresNames (override : Override) : Prop :=
  ∀ node, Recipe.Alike (SameUnder Converted.nameless) (override node) (override node)

namespace Conversion

/-! ## The rules -/

section Rules

variable {convert : Node → Conversion Converted}
  (h : ∀ node, Renames (SameUnder Converted.nameless) (convert node) (convert node))
include h

theorem renames_convertNodes (skipBreaks : Bool) (nodes : List Node) :
    Renames (SameUnder (List.map Child.nameless)) (convertNodes convert skipBreaks nodes)
      (convertNodes convert skipBreaks nodes) := by
  induction nodes with
  | nil => exact Renames.pure rfl
  | cons node rest ih =>
    rw [convertNodes]
    split
    · exact ih
    · refine (h node).bind fun value other hvalue => ih.bind_pure fun values others hvalues => ?_
      have hchildren := congrArg Converted.children hvalue
      rw [Converted.children_nameless, Converted.children_nameless] at hchildren
      rw [SameUnder, List.map_append, List.map_append, hchildren, hvalues]

theorem renames_convertChildren (parent : Node) :
    Renames (SameUnder (List.map Child.nameless)) (convertChildren convert parent)
      (convertChildren convert parent) :=
  Renames.space_bind fun _ => renames_convertNodes h _ parent.children

theorem renames_convertElement (source : Source) (tagName : String)
    (properties : Entries PropertyValue) (children : List Node) :
    Renames (SameUnder Converted.nameless)
      (convertElement convert source tagName properties children)
      (convertElement convert source tagName properties children) := by
  rw [convertElement]
  refine Renames.space_bind fun outside => Renames.within _ ?_
  refine (renames_convertChildren h _).bind fun inside inside' hinside => ?_
  refine Renames.space_bind fun space => Renames.spelling_bind fun styles => ?_
  refine (Renames.ofExcept (agree_attributesOf space styles tagName properties)).bind_pure
    fun attributes attributes' hattributes => ?_
  rw [SameUnder, Converted.nameless, Converted.nameless, Child.nameless, Child.nameless,
    Markup.nameless_elementOf, Markup.nameless_elementOf, hattributes, hinside]

theorem renames_convertComponent [Sorter] (placement : Placement) (source : Source)
    (name : Option String) (attributes : List ComponentAttribute) (children : List Node) :
    Renames (SameUnder Converted.nameless)
      (convertComponent convert placement source name attributes children)
      (convertComponent convert placement source name attributes children) := by
  rw [convertComponent]
  refine Renames.space_bind fun outside => Renames.within _ ?_
  refine (renames_convertChildren h _).bind fun inside inside' hinside => ?_
  refine (renames_convertAttributes attributes).bind_pure fun written _ hwritten => ?_
  rw [← hwritten, SameUnder, Converted.nameless, Converted.nameless, Child.nameless, Child.nameless]
  cases name with
  | none =>
    rw [componentMarkup, componentMarkup, Markup.nameless_fragmentOf, Markup.nameless_fragmentOf,
      hinside]
  | some name =>
    rw [componentMarkup, componentMarkup, Markup.nameless_elementOf, Markup.nameless_elementOf,
      hinside]

/-- **Each rule does the same in both fashions** but for names, if the conversion of the nodes
inside does. -/
theorem renames_convertByKind [Sorter] (node : Node) :
    Renames (SameUnder Converted.nameless) (convertByKind convert node)
      (convertByKind convert node) := by
  cases node with
  | root source children =>
    refine (renames_convertChildren h _).bind_pure fun inside inside' hinside => ?_
    rw [SameUnder, Converted.nameless, Converted.nameless, Child.nameless, Child.nameless,
      rootFragment, rootFragment, Markup.nameless_fragmentOf, Markup.nameless_fragmentOf,
      map_dropOuterLayout Child.isLayout_nameless, map_dropOuterLayout Child.isLayout_nameless,
      hinside]
  | element source tagName properties children =>
    exact renames_convertElement h source tagName properties children
  | text source value => exact Renames.pure rfl
  | comment source value => exact (Renames.logComments _).bind_pure fun _ _ _ => rfl
  | doctype source => exact Renames.pure rfl
  | esm source =>
    refine (renames_takeScript source).bind fun body other hbody => ?_
    rw [hbody]
    exact (Renames.logStatements rfl).bind_pure fun _ _ _ => rfl
  | expression placement source =>
    refine (renames_takeExpression source).bind_pure fun value other hvalue => ?_
    rw [hvalue]
    rfl
  | component placement source name attributes children =>
    exact renames_convertComponent h placement source name attributes children
  | unknown source kind fields => exact Renames.fail _
  | malformed value => exact Renames.fail _

/-- **Alike recipes do the same in both fashions** but for names, by induction on the relation. -/
theorem renames_follow {α : Type} {R : α → α → Prop} {p q : Recipe α} (hpq : p.Alike R q) :
    Renames R (follow convert p) (follow convert q) := by
  induction hpq with
  | done hvalue => exact Renames.pure hvalue
  | fail error => exact Renames.fail error
  | convert node => exact h node
  | convertChildren parent => exact renames_convertChildren h parent
  | within space _ ih => exact ih.within space
  | attempt _ ih => exact ih.attempt
  | comment value => exact Renames.logComments [value]
  | statement hvalue => exact Renames.logStatements (congrArg (fun value => [value]) hvalue)
  | andThen _ _ ih ihNext => exact ih.bind ihNext

theorem renames_convertWith [Sorter] {overrides : String → Option Override}
    (hoverrides : ∀ kind override, overrides kind = some override → override.IgnoresNames)
    (node : Node) :
    Renames (SameUnder Converted.nameless) (convertWith convert overrides node)
      (convertWith convert overrides node) := by
  rw [convertWith]
  cases hoverride : node.kind?.bind overrides with
  | none => exact renames_convertByKind h node
  | some override =>
    obtain ⟨kind, -, hkind⟩ := Option.bind_eq_some_iff.1 hoverride
    exact renames_follow h (hoverrides kind override hkind node)

end Rules

/-- The conversion of a node does the same in both fashions but for names, however many levels it
has. -/
theorem renames_convert [Sorter] {overrides : String → Option Override}
    (hoverrides : ∀ kind override, overrides kind = some override → override.IgnoresNames)
    (limit levels : Nat) (node : Node) :
    Renames (SameUnder Converted.nameless) (convert overrides limit levels node)
      (convert overrides limit levels node) := by
  induction levels generalizing node with
  | zero => exact Renames.fail _
  | succ levels ih =>
    rw [convert_succ]
    refine Renames.depth_bind fun depth => ?_
    split
    · exact (renames_convertWith ih hoverrides node).deeper
    · exact Renames.fail _

end Conversion

/-! ## The whole program -/

/-- Which expression a program has does not depend on the names of attributes. -/
theorem nameless_treeExpression (origin : Origin) (children : List Child) :
    (treeExpression origin children).nameless =
      treeExpression origin (children.map Child.nameless) := by
  have hwrapped : ∀ children : List Child,
      (Expression.markup (.fragmentOf children origin)).nameless =
        .markup (.fragmentOf (children.map Child.nameless) origin) :=
    fun children => congrArg Expression.markup (Markup.nameless_fragmentOf children origin)
  match children with
  | [] => exact hwrapped []
  | first :: second :: rest => exact hwrapped (first :: second :: rest)
  | [.markup value] => rfl
  | [.container value] => exact hwrapped [.container value]
  | [.foreign value] =>
    show (if (Child.foreign value).isMarkup then Expression.foreign value else _).nameless =
      if (Child.foreign value).isMarkup then Expression.foreign value else _
    split
    · rfl
    · exact hwrapped [.foreign value]

theorem nameless_treeStatement (origin : Origin) (converted : Converted) :
    (treeStatement origin converted).map Statement.nameless =
      treeStatement origin converted.nameless := by
  have hexpression : ∀ children : List Child,
      [Statement.expression (treeExpression origin children).nameless origin] =
        [.expression (treeExpression origin (children.map Child.nameless)) origin] := by
    intro children
    rw [nameless_treeExpression]
  cases converted with
  | nothing => rfl
  | one child => exact hexpression [child]
  | many children => exact hexpression children

/-- Programs of what is the same but for names are the same but for names. -/
theorem nameless_programOf {converted converted' : Converted} {state state' : State}
    (hconverted : converted.nameless = converted'.nameless) (hstate : state.Renamed state')
    (origin : Origin) :
    (programOf origin converted state).nameless =
      (programOf origin converted' state').nameless := by
  simp only [Program.nameless, programOf, List.map_append, nameless_treeStatement,
    hconverted, hstate.statements, hstate.comments]

/-- An override that puts what the children of a node become in SVG in the place of the node, and
nothing if an error is met in them. -/
def withoutParent : Override := fun node =>
  .andThen (.attempt (.within .svg (.convertChildren node))) fun
    | .ok children => .done (.many children)
    | .error _ => .andThen (.comment { kind := .line, text := "left out" }) fun _ => .done .nothing

theorem ignoresNames_withoutParent : withoutParent.IgnoresNames := by
  intro node
  refine .andThen (.attempt (.within .svg (.convertChildren node))) fun result other h => ?_
  match result, other with
  | .ok children, .ok others => exact .done (congrArg Converted.many h)
  | .error _, .error _ => exact .andThen (.comment _) fun _ _ _ => .done rfl
  | .ok _, .error _ => exact h.elim
  | .error _, .ok _ => exact h.elim

/-- Overrides that take the components in running text away from around what is inside them. -/
def withoutParents : String → Option Override
  | "mdxJsxTextElement" => some withoutParent
  | _ => none

/-- An element with a property that has one name in both fashions only in SVG, one with a name of
its own in either, one without a value, and one that has to be spread; it stands in a component. -/
def renamedDocument : Node :=
  .component .flow {} (some "b") [.named {} "className" (some (.literal (.string "c")))]
    [.component .text {} none [] [.element {} "a" [("strokeLinecap", .string "round"),
      ("className", .string "d"), ("hidden", .bool true), ("1st", .string "e")] []]]

/-- Whether a child is an element with an attribute `class` in front of its others. -/
def isClassed : Child → Bool
  | .markup (.element (.named (.identifier name) _ _ :: _) _ _ _ _ _) => name = "class"
  | _ => false

/-- An override that keeps what the children of a node become if one of them has a class, and
otherwise leaves out the node. -/
def keepingClasses : Override := fun node =>
  .andThen (.convertChildren node) fun children =>
    .done (if children.any isClassed then .many children else .nothing)

/-- A node around an element with a class. -/
def classedDocument : Node :=
  .component .text {} none [] [.element {} "a" [("className", .string "b")] []]

end MarkupJsx
