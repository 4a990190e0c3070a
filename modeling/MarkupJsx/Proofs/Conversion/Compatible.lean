import MarkupJsx.Proofs.Conversion.Sequential

/-!
# Relations that overrides keep as well

An override can do two things that no rule does: it can catch errors, and it can fail with any
error.  A relation between steps that is kept also by these (`Compatible`) is one that the rules
keep, and that holds between two ways to do what an override asks for, whatever that is.

* `Compatible.sequential`: the rules keep it, and with this what is proved of the rules applies.
* `Compatible.follow`: what an override asks for, by induction on the recipe.
* `Compatible.convertWith`: the override for a node or the rule for it.
-/

namespace MarkupJsx
namespace Conversion

/-- A relation between steps that holds of every step that rules and overrides take by themselves,
and that is kept by every way in which they put steps together. -/
structure Compatible (R : ∀ {α : Type}, Conversion α → Conversion α → Prop) : Prop where
  pure : ∀ {α : Type} (value : α), R (Pure.pure value) (Pure.pure value)
  fail : ∀ {α : Type} (error : ConversionError), R (fail error : Conversion α) (fail error)
  space : R space space
  spelling : R spelling spelling
  logComments : ∀ comments : List Comment, R (logComments comments) (logComments comments)
  logStatements : ∀ statements : List Jsx.Statement,
    R (logStatements statements) (logStatements statements)
  bind : ∀ {α β : Type} {p q : Conversion α} {f g : α → Conversion β},
    R p q → (∀ value, R (f value) (g value)) → R (p >>= f) (q >>= g)
  within : ∀ {α : Type} (space : Namespace) {p q : Conversion α},
    R p q → R (within space p) (within space q)
  attempt : ∀ {α : Type} {p q : Conversion α}, R p q → R (attempt p) (attempt q)

namespace Compatible

variable {R : ∀ {α : Type}, Conversion α → Conversion α → Prop} (hR : Compatible R)
include hR

/-- What rules and overrides keep, the rules keep. -/
theorem sequential : Sequential R where
  pure := hR.pure
  fail := fun error _ => hR.fail error
  space := hR.space
  spelling := hR.spelling
  logComments := hR.logComments
  logStatements := hR.logStatements
  bind := hR.bind
  within := hR.within

variable {f g : Node → Conversion Converted} (h : ∀ node, R (f node) (g node))
include h

/-- Whatever holds of the requests, and of doing one after the other, holds of all recipes. -/
theorem follow {α : Type} (recipe : Recipe α) : R (follow f recipe) (follow g recipe) := by
  induction recipe with
  | done result => exact hR.pure result
  | fail error => exact hR.fail error
  | convert node => exact h node
  | convertChildren parent => exact hR.sequential.convertChildren h parent
  | within space inner ih => exact hR.within space ih
  | attempt inner ih => exact hR.attempt ih
  | comment value => exact hR.logComments [value]
  | statement value => exact hR.logStatements [value]
  | andThen first next ihFirst ihNext => exact hR.bind ihFirst ihNext

/-- **A compatible relation passes from the conversion of inner nodes to the conversion of a
node,** whatever the overrides are. -/
theorem convertWith [Sorter] (overrides : String → Option Override) (node : Node) :
    R (convertWith f overrides node) (convertWith g overrides node) := by
  rw [Conversion.convertWith, Conversion.convertWith]
  cases node.kind?.bind overrides with
  | none => exact hR.sequential.convertByKind h node
  | some recipe => exact hR.follow h (recipe node)

end Compatible
end Conversion
end MarkupJsx
