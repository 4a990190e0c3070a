import MarkupJsx.Conversion.Nodes

/-!
# Relations that the rules of a conversion keep

A rule for a node is put together from a few steps of its own (answering, failing, asking for the
namespace or the fashions, adding to a log) and from the conversion of inner nodes, in two ways: one
after the other, and in another namespace.  The rules catch no errors, and no rule says by itself
that a node is too deep; the depth is checked around the rules.  So a relation between steps that
holds of the former and is kept by the latter (`Sequential`) holds between two conversions of a node
as soon as it holds between the two conversions of inner nodes that they are given.

An override may do both, but need not.  `Recipe.PassesErrors` says of what it asks for that it does
neither, and then an override is no different from a rule.

* `Sequential.convertNodes`, `Sequential.convertChildren`: several nodes, and the children of one.
* `Sequential.convertByKind_of_children`: the rules, one case for each kind of node; the two sides
  may have different children.  `Sequential.convertByKind` is the case of the same children.
* `Sequential.follow`: what an override asks for, by induction on the recipe.
* `Sequential.convertWith`: the override for a node or the rule for it.

A property of single steps is a relation that looks at one of its two sides only.
-/

namespace MarkupJsx

/-- Whether an error says that a node is too deep. -/
def ConversionError.isTooDeep : ConversionError → Bool
  | tooDeep _ => true
  | _ => false

/-- A recipe that catches no errors, and that does not say by itself that a node is too deep. -/
def Recipe.PassesErrors {α : Type} : Recipe α → Prop
  | .done _ => True
  | .fail error => error.isTooDeep = false
  | .convert _ => True
  | .convertChildren _ => True
  | .within _ inner => inner.PassesErrors
  | .attempt _ => False
  | .comment _ => True
  | .statement _ => True
  | .andThen first next => first.PassesErrors ∧ ∀ result, (next result).PassesErrors

namespace Conversion

/-! ## The errors of properties -/

theorem isTooDeep_of_declarationsOf {names : StyleCase} {tagName : String} {value : PropertyValue}
    {error : ConversionError} (h : declarationsOf names tagName value = .error error) :
    error.isTooDeep = false := by
  unfold declarationsOf at h
  split at h
  · split at h
    · exact nomatch h
    · rw [← Except.error.inj h]
      rfl
  · exact nomatch h
  · exact nomatch h

theorem isTooDeep_of_writtenValue {names : StyleCase} {tagName name : String}
    {value : PropertyValue} {error : ConversionError}
    (h : writtenValue names tagName name value = .error error) : error.isTooDeep = false := by
  unfold writtenValue at h
  split at h
  · cases hdeclarations : declarationsOf names tagName value with
    | ok declarations =>
      rw [hdeclarations] at h
      exact nomatch h
    | error other =>
      rw [hdeclarations] at h
      rw [← Except.error.inj h]
      exact isTooDeep_of_declarationsOf hdeclarations
  · split at h
    · exact nomatch h
    · exact nomatch h

theorem isTooDeep_of_attributeFor {space : Namespace} {spelling : Spelling}
    {tagName property : String} {value : PropertyValue} {error : ConversionError}
    (h : attributeFor space spelling tagName property value = .error error) :
    error.isTooDeep = false := by
  unfold attributeFor at h
  dsimp only at h
  split at h
  · exact nomatch h
  · split at h
    · exact nomatch h
    · rename_i hwritten
      rw [← Except.error.inj h]
      exact isTooDeep_of_writtenValue hwritten

/-- Properties are nowhere too deep. -/
theorem isTooDeep_of_attributesOf {space : Namespace} {spelling : Spelling} {tagName : String}
    {properties : Entries PropertyValue} {error : ConversionError}
    (h : attributesOf space spelling tagName properties = .error error) :
    error.isTooDeep = false := by
  induction properties with
  | nil => cases h
  | cons entry rest ih =>
    obtain ⟨property, value⟩ := entry
    rw [attributesOf_cons] at h
    cases hfirst : attributeFor space spelling tagName property value with
    | error other =>
      rw [hfirst] at h
      rw [← Except.error.inj h]
      exact isTooDeep_of_attributeFor hfirst
    | ok first =>
      rw [hfirst] at h
      cases hrest : attributesOf space spelling tagName rest with
      | error other =>
        rw [hrest] at h
        exact ih (hrest.trans (congrArg Except.error (Except.error.inj h)))
      | ok others =>
        rw [hrest] at h
        cases h

/-! ## What the rules are put together from -/

/-- A relation between steps that holds of every step that the rules take by themselves, and that
is kept by every way in which they put steps together. -/
structure Sequential (R : ∀ {α : Type}, Conversion α → Conversion α → Prop) : Prop where
  pure : ∀ {α : Type} (value : α), R (Pure.pure value) (Pure.pure value)
  fail : ∀ {α : Type} (error : ConversionError), error.isTooDeep = false →
    R (fail error : Conversion α) (fail error)
  space : R space space
  spelling : R spelling spelling
  logComments : ∀ comments : List Comment, R (logComments comments) (logComments comments)
  logStatements : ∀ statements : List Jsx.Statement,
    R (logStatements statements) (logStatements statements)
  bind : ∀ {α β : Type} {p q : Conversion α} {f g : α → Conversion β},
    R p q → (∀ value, R (f value) (g value)) → R (p >>= f) (q >>= g)
  within : ∀ {α : Type} (space : Namespace) {p q : Conversion α},
    R p q → R (within space p) (within space q)

namespace Sequential

variable {R : ∀ {α : Type}, Conversion α → Conversion α → Prop} (hR : Sequential R)
include hR

/-- A result that needs no state is a value or an error. -/
theorem ofExcept {α : Type} {result : Except ConversionError α}
    (h : ∀ error, result = .error error → error.isTooDeep = false) :
    R (ofExcept result) (ofExcept result) := by
  cases result with
  | ok value => exact hR.pure value
  | error error => exact hR.fail error (h error rfl)

/-! ## Inner nodes -/

variable {f g : Node → Conversion Converted} (h : ∀ node, R (f node) (g node))
include h

theorem convertNodes (skipBreaks : Bool) (nodes : List Node) :
    R (convertNodes f skipBreaks nodes) (convertNodes g skipBreaks nodes) := by
  induction nodes with
  | nil => exact hR.pure []
  | cons node rest ih =>
    rw [Conversion.convertNodes, Conversion.convertNodes]
    split
    · exact ih
    · refine hR.bind (h node) fun _ => ?_
      exact hR.bind ih fun _ => hR.pure _

theorem convertChildren (parent : Node) :
    R (convertChildren f parent) (convertChildren g parent) :=
  hR.bind hR.space fun _ => hR.convertNodes h _ _

/-- A recipe that catches no errors is put together as the rules are. -/
theorem follow {α : Type} {recipe : Recipe α} (hrecipe : recipe.PassesErrors) :
    R (follow f recipe) (follow g recipe) := by
  induction recipe with
  | done result => exact hR.pure result
  | fail error => exact hR.fail error hrecipe
  | convert node => exact h node
  | convertChildren parent => exact hR.convertChildren h parent
  | within space inner ih => exact hR.within space (ih hrecipe)
  | attempt inner ih => exact hrecipe.elim
  | comment value => exact hR.logComments [value]
  | statement value => exact hR.logStatements [value]
  | andThen first next ihFirst ihNext =>
    exact hR.bind (ihFirst hrecipe.1) fun result => ihNext result (hrecipe.2 result)

omit h

/-! ## The rules

What a rule does besides converting the children of its node does not depend on these.  So the two
sides may have different children, as long as the relation holds between converting them. -/

theorem convertElement_of_children {source : Source} {tagName : String}
    {properties : Entries PropertyValue} {children others : List Node}
    (h : R (Conversion.convertChildren f (.element source tagName properties children))
      (Conversion.convertChildren g (.element source tagName properties others))) :
    R (convertElement f source tagName properties children)
      (convertElement g source tagName properties others) := by
  refine hR.bind hR.space fun outside => hR.within _ ?_
  refine hR.bind h fun _ => ?_
  refine hR.bind hR.space fun _ => hR.bind hR.spelling fun _ => ?_
  exact hR.bind (hR.ofExcept fun _ => isTooDeep_of_attributesOf) fun _ => hR.pure _

variable [Sorter]

/-! ### Scripts and the attributes of components -/

theorem takeScript (source : Source) : R (takeScript source) (takeScript source) := by
  rw [Conversion.takeScript]
  cases source.script with
  | none => exact hR.pure none
  | some script =>
    refine hR.bind (hR.logComments _) fun _ => ?_
    cases script.attach with
    | some attached => exact hR.pure _
    | none => exact hR.fail _ rfl

theorem takeExpression (source : Source) : R (takeExpression source) (takeExpression source) :=
  hR.bind (hR.takeScript source) fun _ => hR.pure _

theorem takeSpread (source : Source) : R (takeSpread source) (takeSpread source) :=
  hR.bind (hR.takeScript source) fun _ => hR.pure _

theorem convertAttribute (item : ComponentAttribute) :
    R (convertAttribute item) (convertAttribute item) := by
  match item with
  | .spread source => exact hR.bind (hR.takeSpread source) fun _ => hR.pure _
  | .named _ _ none => exact hR.pure _
  | .named _ _ (some (.literal _)) => exact hR.pure _
  | .named _ _ (some (.expression inner)) =>
    exact hR.bind (hR.takeExpression inner) fun _ => hR.pure _

theorem convertAttributes (attributes : List ComponentAttribute) :
    R (convertAttributes attributes) (convertAttributes attributes) := by
  induction attributes with
  | nil => exact hR.pure []
  | cons first rest ih =>
    refine hR.bind (hR.convertAttribute first) fun _ => ?_
    exact hR.bind ih fun _ => hR.pure _

/-! ### Components, and all kinds -/

theorem convertComponent_of_children {placement : Placement} {source : Source}
    {name : Option String} {attributes : List ComponentAttribute} {children others : List Node}
    (h : R (Conversion.convertChildren f (.component placement source name attributes children))
      (Conversion.convertChildren g (.component placement source name attributes others))) :
    R (convertComponent f placement source name attributes children)
      (convertComponent g placement source name attributes others) := by
  refine hR.bind hR.space fun outside => hR.within _ ?_
  refine hR.bind h fun _ => ?_
  exact hR.bind (hR.convertAttributes attributes) fun _ => hR.pure _

/-- **A relation that the rules keep passes from the conversion of the children of a node to the
conversion of the node,** also if the other side has other children. -/
theorem convertByKind_of_children {node : Node} {others : List Node}
    (h : R (Conversion.convertChildren f node)
      (Conversion.convertChildren g (node.withChildren others))) :
    R (Conversion.convertByKind f node)
      (Conversion.convertByKind g (node.withChildren others)) := by
  cases node with
  | root source children => exact hR.bind h fun _ => hR.pure _
  | element source tagName properties children => exact hR.convertElement_of_children h
  | text source value => exact hR.pure _
  | comment source value => exact hR.bind (hR.logComments _) fun _ => hR.pure _
  | doctype source => exact hR.pure _
  | esm source =>
    refine hR.bind (hR.takeScript source) fun _ => ?_
    exact hR.bind (hR.logStatements _) fun _ => hR.pure _
  | expression placement source => exact hR.bind (hR.takeExpression source) fun _ => hR.pure _
  | component placement source name attributes children =>
    exact hR.convertComponent_of_children h
  | unknown source kind fields => exact hR.fail _ rfl
  | malformed value => exact hR.fail _ rfl

include h

theorem convertByKind (node : Node) : R (convertByKind f node) (convertByKind g node) := by
  have hrule : R (Conversion.convertByKind f node)
      (Conversion.convertByKind g (node.withChildren node.children)) := by
    refine hR.convertByKind_of_children ?_
    rw [node.withChildren_children]
    exact hR.convertChildren h node
  rwa [node.withChildren_children] at hrule

/-- **A relation that the rules keep passes from the conversion of inner nodes to the conversion of
a node,** if the overrides catch no errors. -/
theorem convertWith {overrides : String → Option Override}
    (hoverrides : ∀ kind override, overrides kind = some override →
      ∀ node, (override node).PassesErrors) (node : Node) :
    R (convertWith f overrides node) (convertWith g overrides node) := by
  rw [Conversion.convertWith, Conversion.convertWith]
  cases hoverride : node.kind?.bind overrides with
  | none => exact hR.convertByKind h node
  | some override =>
    obtain ⟨kind, -, hkind⟩ := Option.bind_eq_some_iff.1 hoverride
    exact hR.follow h (hoverrides kind override hkind node)

end Sequential
end Conversion
end MarkupJsx
