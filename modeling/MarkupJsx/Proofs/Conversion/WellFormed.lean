import Mathlib.Data.List.Nodup
import MarkupJsx.Proofs.Conversion.Scoping
import MarkupJsx.Script.InsertionSort

/-!
# The output is well-formed

The types of the output allow for more than markup does: an element can close itself and still have
children, or be closed under another name; a fragment can have attributes; a key can be written as
an identifier that is none, or twice in one object.  None of this comes out of a conversion.

* `Program.WellFormed` says so of everything in a program that is not foreign, at every depth, by
  the structure of the output alone.
* `Attribute.IsOfProperty` lists the forms that the attribute of an element of the tree can have.
  The attributes of components are not bound to them: their names may have a namespace, and they may
  spread what they like.

The main statement is `wellFormed_of_toProgram`: **every program is well-formed,** and the
attributes of what stands in it for the elements of the tree have one of these forms.
-/

namespace MarkupJsx
open Jsx

/-- What can be written as a key without quotes can be written as a name in markup. -/
theorem Text.isMarkupName_of_isIdentifierName {name : String} (h : isIdentifierName name) :
    isMarkupName name := by
  rw [isIdentifierName] at h
  rw [isMarkupName]
  cases hletters : name.toList with
  | nil =>
    rw [hletters] at h
    exact h
  | cons first rest =>
    rw [hletters] at h
    simp only [isNameOf, Bool.and_eq_true, List.all_eq_true] at h ⊢
    exact ⟨h.1, fun c hc => by rw [h.2 c hc, Bool.true_or]⟩

/-! ## Well-formed output -/

namespace Jsx

/-- The name that a key stands for. -/
def PropertyKey.name : PropertyKey → String
  | .identifier name => name
  | .literal ⟨.string value, _⟩ => value
  | .literal ⟨.bool value, _⟩ => if value then "true" else "false"

/-- The name of a property. -/
def Property.name : Property → String
  | .mk _ _ _ key _ => key.name

/-- A key is a name, and it is written as an identifier exactly if it can be one. -/
def PropertyKey.WellFormed : PropertyKey → Prop
  | .identifier name => Text.isIdentifierName name
  | .literal ⟨.string value, _⟩ => Text.isIdentifierName value = false
  | .literal ⟨.bool _, _⟩ => False

mutual

/-- An element closes itself exactly if it has no children, and has no closing name exactly then;
otherwise it is closed under its own name.  A fragment has no attributes and does not close itself.
-/
def Markup.WellFormed : Markup → Prop
  | .element attributes name selfClosing closing children _ =>
    (selfClosing = true ↔ children = []) ∧ (closing = none ↔ children = []) ∧
      (∀ other, closing = some other → other = name) ∧
      attributesWellFormed attributes ∧ childrenWellFormed children
  | .fragment attributes selfClosing children _ =>
    attributes = [] ∧ selfClosing = false ∧ childrenWellFormed children
termination_by structural value => value

/-- Nothing is said about what is foreign. -/
def Child.WellFormed : Child → Prop
  | .markup value => value.WellFormed
  | .container value => value.WellFormed
  | .foreign _ => True
termination_by structural value => value

/-- A container has to hold a well-formed expression, or none. -/
def Container.WellFormed : Container → Prop
  | .empty _ _ _ => True
  | .expression value _ => value.WellFormed
termination_by structural value => value

/-- The properties of an object have different names. -/
def Expression.WellFormed : Expression → Prop
  | .markup value => value.WellFormed
  | .literal _ => True
  | .object properties =>
    (properties.map Property.name).Nodup ∧ propertiesWellFormed properties
  | .foreign _ => True
termination_by structural value => value

/-- A property is a plain one with a well-formed key. -/
def Property.WellFormed : Property → Prop
  | .mk method shorthand computed key value =>
    method = false ∧ shorthand = false ∧ computed = false ∧ key.WellFormed ∧ value.WellFormed
termination_by structural value => value

/-- An attribute has to have a well-formed value, or none. -/
def Attribute.WellFormed : Attribute → Prop
  | .bare _ _ => True
  | .named _ value _ => value.WellFormed
  | .spread argument _ => argument.WellFormed
termination_by structural value => value

/-- A value is a literal or a well-formed container. -/
def AttributeValue.WellFormed : AttributeValue → Prop
  | .literal _ => True
  | .container value => value.WellFormed
termination_by structural value => value

/-- Each of some children is well-formed. -/
def childrenWellFormed : List Child → Prop
  | [] => True
  | child :: rest => child.WellFormed ∧ childrenWellFormed rest
termination_by structural children => children

/-- Each of some attributes is well-formed. -/
def attributesWellFormed : List Attribute → Prop
  | [] => True
  | first :: rest => first.WellFormed ∧ attributesWellFormed rest
termination_by structural attributes => attributes

/-- Each of some properties is well-formed. -/
def propertiesWellFormed : List Property → Prop
  | [] => True
  | property :: rest => property.WellFormed ∧ propertiesWellFormed rest
termination_by structural properties => properties

end

@[simp] theorem childrenWellFormed_iff (children : List Child) :
    childrenWellFormed children ↔ ∀ child ∈ children, child.WellFormed := by
  induction children with
  | nil => simp [childrenWellFormed]
  | cons child rest ih => simp [childrenWellFormed, ih]

@[simp] theorem attributesWellFormed_iff (attributes : List Attribute) :
    attributesWellFormed attributes ↔ ∀ item ∈ attributes, item.WellFormed := by
  induction attributes with
  | nil => simp [attributesWellFormed]
  | cons first rest ih => simp [attributesWellFormed, ih]

@[simp] theorem propertiesWellFormed_iff (properties : List Property) :
    propertiesWellFormed properties ↔ ∀ property ∈ properties, property.WellFormed := by
  induction properties with
  | nil => simp [propertiesWellFormed]
  | cons property rest ih => simp [propertiesWellFormed, ih]

/-- A statement is foreign, or that of a well-formed expression. -/
def Statement.WellFormed : Statement → Prop
  | .expression value _ => value.WellFormed
  | .foreign _ => True

/-- Every statement of the program is well-formed. -/
def Program.WellFormed (program : Program) : Prop :=
  ∀ statement ∈ program.body, statement.WellFormed

/-- The forms of the attribute of a property.  Either its name is a simple one that can be written
in markup; or the name cannot be, and the attribute spreads an object with this property alone. -/
inductive Attribute.IsOfProperty : Attribute → Prop
  | bare {name : String} (isName : Text.isMarkupName name) (origin : Origin) :
      IsOfProperty (.bare (.identifier name) origin)
  | named {name : String} (isName : Text.isMarkupName name) (value : AttributeValue)
      (origin : Origin) : IsOfProperty (.named (.identifier name) value origin)
  | spread {name : String} (noName : Text.isMarkupName name = false) (value : Expression)
      (origin : Origin) :
      IsOfProperty (.spread (.object [.init (.literal (.string name)) value]) origin)

/-! ## What is put together from well-formed parts -/

theorem wellFormed_elementOf {attributes : List Attribute} {children : List Child}
    (hattributes : ∀ item ∈ attributes, item.WellFormed)
    (hchildren : ∀ child ∈ children, child.WellFormed) (name : ElementName) (origin : Origin) :
    (Markup.elementOf name attributes children origin).WellFormed := by
  rw [Markup.elementOf, Markup.WellFormed]
  refine ⟨List.isEmpty_iff, ?_, ?_, (attributesWellFormed_iff _).2 hattributes,
    (childrenWellFormed_iff _).2 hchildren⟩
  · rw [← List.isEmpty_iff]
    cases children.isEmpty <;> simp
  · intro other hother
    cases hempty : children.isEmpty with
    | true =>
      rw [hempty] at hother
      cases hother
    | false =>
      rw [hempty] at hother
      exact (Option.some.inj hother).symm

theorem wellFormed_fragmentOf {children : List Child}
    (hchildren : ∀ child ∈ children, child.WellFormed) (origin : Origin) :
    (Markup.fragmentOf children origin).WellFormed := by
  rw [Markup.fragmentOf, Markup.WellFormed]
  exact ⟨rfl, rfl, (childrenWellFormed_iff _).2 hchildren⟩

theorem wellFormed_init {key : PropertyKey} {value : Expression} (hkey : key.WellFormed)
    (hvalue : value.WellFormed) : (Property.init key value).WellFormed := by
  rw [Property.init, Property.WellFormed]
  exact ⟨rfl, rfl, rfl, hkey, hvalue⟩

end Jsx

namespace Conversion

/-! ## Attributes -/

/-- No style has a name twice: it is made by writing one declaration after the other. -/
theorem nodup_keys_of_declarationsOf {names : StyleCase} {tagName : String}
    {value : PropertyValue} {declarations : Entries String}
    (h : declarationsOf names tagName value = .ok declarations) :
    (Entries.keys declarations).Nodup := by
  unfold declarationsOf at h
  split at h
  · split at h
    · rename_i text declarations' hparse
      rw [← Except.ok.inj h]
      unfold Style.parse at hparse
      dsimp only at hparse
      split at hparse
      · cases hparse
      · rw [← Except.ok.inj hparse]
        exact Entries.nodup_keys_ofPairs _
    · cases h
  · rw [← Except.ok.inj h]
    exact Entries.nodup_keys_ofPairs _
  · rw [← Except.ok.inj h]
    exact List.nodup_nil

theorem name_declarationKey (name : String) : (declarationKey name).name = name := by
  rw [declarationKey]
  split <;> rfl

theorem wellFormed_declarationKey (name : String) : (declarationKey name).WellFormed := by
  rw [declarationKey]
  split
  · rename_i h
    exact h
  · rename_i h
    exact eq_false_of_ne_true h

theorem wellFormed_styleObject {declarations : Entries String}
    (h : (Entries.keys declarations).Nodup) : (styleObject declarations).WellFormed := by
  rw [styleObject, Expression.WellFormed, List.map_map]
  refine ⟨?_, (propertiesWellFormed_iff _).2 fun property hproperty => ?_⟩
  · have hnames : Property.name ∘ (fun declaration : String × String =>
        Property.init (declarationKey declaration.1) (.literal (.string declaration.2))) =
          Prod.fst := by
      funext declaration
      exact name_declarationKey declaration.1
    rw [hnames]
    exact h
  · obtain ⟨declaration, -, rfl⟩ := List.mem_map.1 hproperty
    exact wellFormed_init (wellFormed_declarationKey _) trivial

theorem wellFormed_of_writtenValue {names : StyleCase} {tagName name : String}
    {value : PropertyValue} {written : WrittenValue}
    (h : writtenValue names tagName name value = .ok written) :
    (WrittenValue.expression written).WellFormed := by
  unfold writtenValue at h
  split at h
  · cases hdeclarations : declarationsOf names tagName value with
    | error error =>
      rw [hdeclarations] at h
      exact nomatch h
    | ok declarations =>
      rw [hdeclarations] at h
      rw [← Except.ok.inj h]
      exact wellFormed_styleObject (nodup_keys_of_declarationsOf hdeclarations)
  · split at h
    all_goals
      rw [← Except.ok.inj h]
      exact trivial

/-- A name that cannot be written in markup is no identifier, so it is well-formed as a literal. -/
theorem wellFormed_attributeOf {written : WrittenValue}
    (h : (WrittenValue.expression written).WellFormed) (name : String) :
    (attributeOf name written).WellFormed := by
  rw [attributeOf]
  split
  · cases written with
    | bare => exact trivial
    | text value => exact trivial
    | style declarations => exact h
  · rename_i hname
    have hkey : (PropertyKey.literal (.string name)).WellFormed :=
      eq_false_of_ne_true fun hidentifier =>
        hname (Text.isMarkupName_of_isIdentifierName hidentifier)
    rw [Attribute.WellFormed, Expression.WellFormed, propertiesWellFormed_iff]
    refine ⟨List.nodup_singleton _, fun property hproperty => ?_⟩
    rw [List.mem_singleton.1 hproperty]
    exact wellFormed_init hkey h

theorem isOfProperty_attributeOf (name : String) (written : WrittenValue) :
    (attributeOf name written).IsOfProperty := by
  rw [attributeOf]
  split
  · rename_i hname
    cases written with
    | bare => exact .bare hname _
    | text value => exact .named hname _ _
    | style declarations => exact .named hname _ _
  · rename_i hname
    exact .spread (eq_false_of_ne_true hname) _ _

/-- An attribute of an element is made from its name and a well-formed value. -/
theorem exists_of_attributeFor {space : Namespace} {spelling : Spelling}
    {tagName property : String} {value : PropertyValue} {item : Attribute}
    (h : attributeFor space spelling tagName property value = .ok (some item)) :
    ∃ name written, item = attributeOf name written ∧
      (WrittenValue.expression written).WellFormed := by
  unfold attributeFor at h
  dsimp only at h
  split at h
  · exact nomatch Except.ok.inj h
  · split at h
    · rename_i written hwritten
      exact ⟨_, written, (Option.some.inj (Except.ok.inj h)).symm,
        wellFormed_of_writtenValue hwritten⟩
    · exact nomatch h

theorem exists_of_mem_attributesOf {space : Namespace} {spelling : Spelling} {tagName : String}
    {properties : Entries PropertyValue} {attributes : List Attribute}
    (h : attributesOf space spelling tagName properties = .ok attributes) :
    ∀ item ∈ attributes, ∃ name written, item = attributeOf name written ∧
      (WrittenValue.expression written).WellFormed := by
  induction properties generalizing attributes with
  | nil =>
    rw [← Except.ok.inj h]
    exact List.forall_mem_nil _
  | cons entry rest ih =>
    obtain ⟨property, value⟩ := entry
    rw [attributesOf] at h
    split at h
    · cases h
    · rename_i first hfirst
      split at h
      · cases h
      · rename_i others hothers
        rw [← Except.ok.inj h]
        intro item hitem
        rcases List.mem_append.1 hitem with hitem | hitem
        · rw [Option.mem_toList] at hitem
          rw [Option.mem_def.1 hitem] at hfirst
          exact exists_of_attributeFor hfirst
        · exact ih hothers item hitem

theorem wellFormed_of_attributesOf {space : Namespace} {spelling : Spelling} {tagName : String}
    {properties : Entries PropertyValue} {attributes : List Attribute}
    (h : attributesOf space spelling tagName properties = .ok attributes) :
    ∀ item ∈ attributes, item.WellFormed := by
  intro item hitem
  obtain ⟨name, written, rfl, hwritten⟩ := exists_of_mem_attributesOf h item hitem
  exact wellFormed_attributeOf hwritten name

theorem isOfProperty_of_attributesOf {space : Namespace} {spelling : Spelling} {tagName : String}
    {properties : Entries PropertyValue} {attributes : List Attribute}
    (h : attributesOf space spelling tagName properties = .ok attributes) :
    ∀ item ∈ attributes, item.IsOfProperty := by
  intro item hitem
  obtain ⟨name, written, rfl, -⟩ := exists_of_mem_attributesOf h item hitem
  exact isOfProperty_attributeOf name written

theorem wellFormed_containerOf (expression : Option Json) (inner origin : Origin) :
    (containerOf expression inner origin).WellFormed := by
  cases expression <;> exact trivial

theorem wellFormed_spreadOf (argument : Option Json) (origin : Origin) :
    (spreadOf argument origin).WellFormed := by
  cases argument with
  | none => exact ⟨List.nodup_nil, trivial⟩
  | some value => exact trivial

theorem wellFormed_written [Sorter] (item : ComponentAttribute) : item.written.WellFormed := by
  match item with
  | .spread _ => exact wellFormed_spreadOf _ _
  | .named _ _ none => exact trivial
  | .named _ _ (some (.literal _)) => exact trivial
  | .named _ _ (some (.expression _)) => exact wellFormed_containerOf _ _ _

/-! ## The rules -/

/-- What the kept children of a node became is well-formed if each of their results is. -/
theorem wellFormed_of_results {nodes : List Node} {results : List Converted}
    (h : List.Forall₂ (fun _ result => ∀ child ∈ Converted.children result, child.WellFormed) nodes
      results) :
    ∀ child ∈ results.flatMap Converted.children, child.WellFormed := by
  induction h with
  | nil => exact fun _ hchild => nomatch hchild
  | cons hfirst _ ih => exact List.forall_mem_append.2 ⟨hfirst, ih⟩

/-- **Each rule makes something well-formed** of something well-formed. -/
theorem wellFormed_of_madeFrom [Sorter] {space : Namespace} {spelling : Spelling} {node : Node}
    {converted : Converted}
    (h : MadeFrom (fun _ _ converted => ∀ child ∈ converted.children, child.WellFormed) space
      spelling node converted) :
    ∀ child ∈ converted.children, child.WellFormed := by
  obtain ⟨results, hresults, hmade⟩ := h
  have hinside := wellFormed_of_results hresults
  cases hmade with
  | root source children =>
    refine List.forall_mem_singleton.2 (wellFormed_fragmentOf ?_ source.origin)
    rw [dropOuterLayout_none]
    exact fun child hchild => hinside child ((Text.trimBy_sublist _ _).subset hchild)
  | element source tagName properties children hattributes =>
    exact List.forall_mem_singleton.2 (wellFormed_elementOf
      (wellFormed_of_attributesOf hattributes) hinside (.ofString tagName) source.origin)
  | component placement source name attributes children =>
    refine List.forall_mem_singleton.2 ?_
    cases name with
    | none => exact wellFormed_fragmentOf hinside source.origin
    | some name =>
      have hattributes : ∀ item ∈ attributes.map ComponentAttribute.written, item.WellFormed :=
        List.forall_mem_map.2 fun item _ => wellFormed_written item
      exact wellFormed_elementOf hattributes hinside (.ofString name) source.origin
  | text source value =>
    rw [convertText]
    split
    · exact List.forall_mem_nil _
    · exact List.forall_mem_singleton.2 trivial
  | comment source value => exact List.forall_mem_singleton.2 trivial
  | doctype source => exact List.forall_mem_nil _
  | esm source => exact List.forall_mem_nil _
  | expression placement source =>
    exact List.forall_mem_singleton.2 (wellFormed_containerOf _ _ _)

/-- What a node becomes is well-formed, however many levels the node has. -/
theorem ensures_wellFormed_convert [Sorter] (limit levels : Nat) (start : State) (node : Node) :
    Ensures start (convert (fun _ => none) limit levels node) fun converted _ _ =>
      ∀ child ∈ converted.children, child.WellFormed :=
  ensures_convert_of (fun _ _ _ => wellFormed_of_madeFrom) limit levels start node rfl

end Conversion

/-! ## The whole program -/

/-- The expression of a program is foreign, or it is the child that it was, or a fragment. -/
theorem wellFormed_treeExpression {children : List Child}
    (h : ∀ child ∈ children, child.WellFormed) (origin : Origin) :
    (treeExpression origin children).WellFormed := by
  rcases children with _ | ⟨child, _ | ⟨other, others⟩⟩
  · exact wellFormed_fragmentOf h origin
  · cases child with
    | markup value => exact h _ List.mem_cons_self
    | container value => exact wellFormed_fragmentOf h origin
    | foreign value =>
      show (if (Child.foreign value).isMarkup then Expression.foreign value else _).WellFormed
      split
      · exact trivial
      · exact wellFormed_fragmentOf h origin
  · exact wellFormed_fragmentOf h origin

theorem wellFormed_programOf {converted : Converted}
    (h : ∀ child ∈ converted.children, child.WellFormed) (origin : Origin) {state : State}
    {statements : List Json} (hstatements : state.statements = statements.map .foreign) :
    (programOf origin converted state).WellFormed := by
  have htree : ∀ statement ∈ treeStatement origin converted, statement.WellFormed := by
    cases converted with
    | nothing => exact fun _ hstatement => nomatch hstatement
    | one child => exact List.forall_mem_singleton.2 (wellFormed_treeExpression h origin)
    | many children => exact List.forall_mem_singleton.2 (wellFormed_treeExpression h origin)
  refine List.forall_mem_append.2 ⟨fun statement hstatement => ?_, htree⟩
  rw [hstatements] at hstatement
  obtain ⟨value, -, rfl⟩ := List.mem_map.1 hstatement
  exact trivial

/-- The element that stands for an element of the tree has attributes of the forms that the
attributes of properties have. -/
def NamedNode.HasPropertyAttributes : NamedNode → WrittenElement → Prop
  | ⟨_, .element _ tagName _ _⟩, written =>
    written.name.toString = tagName ∧ ∀ item ∈ written.attributes, item.IsOfProperty
  | _, _ => True

theorem NamedNode.WrittenAs.hasPropertyAttributes {space : Namespace} {spelling : Spelling}
    {named : NamedNode} {written : WrittenElement} (h : named.WrittenAs space spelling written) :
    named.HasPropertyAttributes written := by
  obtain ⟨names, node⟩ := named
  cases node with
  | element source tagName properties children =>
    exact ⟨h.1, Conversion.isOfProperty_of_attributesOf h.2.1⟩
  | _ => exact trivial

/-- **Every program is well-formed.**  Whenever a tree is converted, in any namespace, in any
fashions and with any limit, and without overrides, then everything in the program that is not
foreign is well-formed, at every depth; and the elements of the program stand, in document order,
for the elements and the named components of the tree, where each attribute of an element of the
tree has one of the forms that the attributes of properties have. -/
theorem wellFormed_of_toProgram [Sorter] (space : Namespace) (spelling : Spelling) (maxDepth : Nat)
    (tree : Node) (program : Program)
    (h : toProgram { space, spelling, maxDepth } tree = .ok program) :
    program.WellFormed ∧
      List.Forall₂ NamedNode.HasPropertyAttributes (tree.named []) program.elements := by
  obtain ⟨converted, after, hrun, rfl⟩ := exists_of_toProgram_eq_ok h
  obtain ⟨statements, hstatements⟩ := Conversion.exists_statements_of_run_convert rfl hrun
  constructor
  · exact wellFormed_programOf (Conversion.ensures_wellFormed_convert maxDepth maxDepth
      { space, spelling } tree converted after hrun) _ hstatements
  · rw [elements_programOf hstatements]
    exact (Conversion.ensures_elements_convert maxDepth maxDepth { space, spelling } [] tree
      (scopeOf_nil space).symm rfl converted after hrun).imp
        fun _ _ => NamedNode.WrittenAs.hasPropertyAttributes

/-- A component without a name around an element with an attribute of each form.  The style declares
one of its two properties twice, and the name of the other cannot be an identifier. -/
def formsDocument : Node :=
  .component .flow {} none [.spread {}] [.element {} "a"
    [("hidden", .bool true), ("1st", .string "b"), ("style", .string "color:c;--d:e;color:f")]
    [.text {} (some "g")]]

open scoped Sorting.Insertion in
theorem wellFormed_of_toProgram_formsDocument :
    ∃ program written, toProgram {} formsDocument = .ok program ∧ program.WellFormed ∧
      program.elements = [written] ∧ written.name.toString = "a" ∧
      ∀ item ∈ written.attributes, item.IsOfProperty := by
  have hfaults : formsDocument.faults .dom 512 .html 0 = [] :=
    List.isEmpty_iff.1 (by decide +kernel)
  obtain ⟨program, h⟩ := exists_toProgram_eq_ok .html {} 512 formsDocument (by decide) hfaults
  obtain ⟨hprogram, helements⟩ := wellFormed_of_toProgram .html {} 512 formsDocument program h
  generalize hwritten : program.elements = elements at helements
  obtain _ | ⟨hfirst, _ | _⟩ := helements
  exact ⟨program, _, h, hprogram, hwritten, hfirst⟩

end MarkupJsx
