import MarkupJsx.Conversion.Program
import MarkupJsx.Script.InsertionSort

/-!
# How a program is put together

Whatever a tree became, be it under overrides that supply values of their own, its program ends with
at most one statement of the library, and the expression of that statement is an element or a
fragment.  What counts is what is written: a value that an override supplied is an element or a
fragment by its `type`, and nothing else is known of it.

* `Child.isMarkup_iff`: the test on a child is a test on what is written for it.
* `isMarkup_toJson_treeExpression`: what is written for the expression is an element or a fragment.
* `treeExpression_of_isMarkup`: an only child that is one already stands for itself
  (`Child.isChild_toExpression`).  A container is none, so the expression that `Child.toExpression`
  gives a container is never needed.
* `treeExpression_of_not_isMarkup`: everything else is put into a fragment as it is.

The main statement is `toProgram_assembles`: **the hoisted statements come first, then the tree.**
-/

namespace MarkupJsx
open Jsx

/-- Whether a value is an element or a fragment, as far as its `type` says. -/
def Json.IsMarkup (value : Json) : Prop :=
  value.kind? = some "JSXElement" ∨ value.kind? = some "JSXFragment"

namespace Jsx

theorem Container.not_isMarkup_toJson (value : Container) : ¬value.toJson.IsMarkup := by
  rw [Json.IsMarkup, value.kind?_toJson]
  decide

/-- **A child is an element or a fragment exactly if one is written for it.** -/
theorem Child.isMarkup_iff (child : Child) : child.isMarkup ↔ child.toJson.IsMarkup := by
  cases child with
  | markup value => exact iff_of_true rfl value.kind?_toJson
  | container value => exact iff_of_false Bool.false_ne_true value.not_isMarkup_toJson
  | foreign value =>
    rw [Child.isMarkup, Child.toJson, Json.IsMarkup]
    split
    · rename_i hkind
      exact iff_of_true rfl (Or.inl hkind)
    · rename_i hkind
      exact iff_of_true rfl (Or.inr hkind)
    · rename_i helement hfragment
      exact iff_of_false Bool.false_ne_true (not_or.2 ⟨helement, hfragment⟩)

/-- An expression that is a child itself, with everything that is in it.  A container has none. -/
inductive Expression.IsChild : Expression → Child → Prop
  | markup (value : Markup) : IsChild (.markup value) (.markup value)
  | foreign (value : Json) : IsChild (.foreign value) (.foreign value)

theorem Child.isChild_toExpression {child : Child} (h : child.toJson.IsMarkup) :
    child.toExpression.IsChild child := by
  cases child with
  | markup value => exact .markup value
  | container value => exact absurd h value.not_isMarkup_toJson
  | foreign value => exact .foreign value

end Jsx

/-! ## The expression of a tree -/

section Expression

variable {children : List Child} (origin : Origin)

theorem treeExpression_of_isMarkup {child : Child} (h : child.toJson.IsMarkup) :
    treeExpression origin [child] = child.toExpression :=
  if_pos ((Child.isMarkup_iff child).2 h)

theorem treeExpression_of_not_isMarkup
    (h : ∀ child, children = [child] → ¬child.toJson.IsMarkup) :
    treeExpression origin children = .markup (.fragment [] false children origin) := by
  match children, h with
  | [], _ => rfl
  | [child], h => exact if_neg fun hmarkup => h child rfl ((Child.isMarkup_iff child).1 hmarkup)
  | _ :: _ :: _, _ => rfl

/-- **Whatever a tree became, an element or a fragment is written for it.** -/
theorem isMarkup_toJson_treeExpression (children : List Child) :
    (treeExpression origin children).toJson.IsMarkup := by
  by_cases honly : ∃ child, children = [child] ∧ child.toJson.IsMarkup
  · obtain ⟨child, rfl, hmarkup⟩ := honly
    rw [treeExpression_of_isMarkup origin hmarkup, Child.toJson_toExpression]
    exact hmarkup
  · rw [treeExpression_of_not_isMarkup origin fun child hchild hmarkup =>
      honly ⟨child, hchild, hmarkup⟩]
    exact Markup.kind?_toJson _

end Expression

/-! ## The whole program -/

/-- **The hoisted statements come first, then the tree.**  Take any tree and any options, with any
overrides.  If the tree has a program, then the program starts with the statements that were
hoisted, in the order in which they were logged.  If the tree became nothing, then this is all.
Otherwise one statement follows, and what is written for its expression is an element or a fragment:
an only child itself, if it is one, and otherwise a fragment of all that the tree became, in order,
even if this is no child at all.  The program, that statement and that fragment stand where the tree
stands, and have no data. -/
theorem toProgram_assembles [Sorter] (options : Options) (tree : Node) (program : Program)
    (h : toProgram options tree = .ok program) :
    let origin : Origin := { span := tree.source.span, data := none }
    ∃ converted state,
      (options.convertNode tree).run options.initialState = (.ok converted, state) ∧
      program.origin = origin ∧
      (converted = .nothing → program.body = state.statements) ∧
      (converted ≠ .nothing → ∃ expression : Expression,
        program.body = state.statements ++ [.expression expression origin] ∧
        expression.toJson.IsMarkup ∧
        (∀ child, converted.children = [child] → child.toJson.IsMarkup →
          expression.IsChild child) ∧
        ((∀ child, converted.children = [child] → ¬child.toJson.IsMarkup) →
          expression = .markup (.fragment [] false converted.children origin))) := by
  intro origin
  obtain ⟨converted, state, hrun, rfl⟩ := exists_of_toProgram_eq_ok h
  refine ⟨converted, state, hrun, rfl, fun hnothing => ?_, fun hsome => ?_⟩
  · rw [hnothing]
    exact List.append_nil _
  · have hstatement : treeStatement origin converted =
        [.expression (treeExpression origin converted.children) origin] := by
      cases converted with
      | nothing => exact absurd rfl hsome
      | one child => rfl
      | many children => rfl
    refine ⟨treeExpression origin converted.children, congrArg (_ ++ ·) hstatement,
      isMarkup_toJson_treeExpression origin _, fun child honly hmarkup => ?_, fun hother => ?_⟩
    · rw [honly, treeExpression_of_isMarkup origin hmarkup]
      exact Child.isChild_toExpression hmarkup
    · exact treeExpression_of_not_isMarkup origin hother

/-- A note that logs two statements, a supplied one and one with an expression, and becomes a list
of values that are supplied for it. -/
def Override.supplying (values : List Json) : Override := fun _ =>
  .andThen (.statement (.foreign (.string "first"))) fun _ =>
    .andThen (.statement (.expression (.foreign (.string "last")) {})) fun _ =>
      .done (.many (values.map Child.foreign))

/-- A note with a position and with data. -/
def placedNote : Node :=
  .unknown
    { position := some {
        start := { line := some 1, column := some 1, offset := some 0 }
        stop := { line := some 1, column := some 3, offset := some 2 } }
      data := some { fields := [("id", .string "n")] } }
    "note" []

open scoped Sorting.Insertion in
/-- A list of one fragment is that fragment, and a list of nothing is a fragment of nothing. -/
theorem toProgram_assembles_placedNote :
    let fragment : Json := .object [("type", .string "JSXFragment")]
    let supplying (values : List Json) : Options :=
      { overrides := fun _ => some (Override.supplying values) }
    let origin : Origin := { span := {
      start := some 0, stop := some 2, location := some ⟨⟨1, 0⟩, ⟨1, 2⟩⟩, range := some (0, 2) } }
    let hoisted : List Statement := [.foreign (.string "first"),
      .expression (.foreign (.string "last")) {}]
    (∃ program, toProgram (supplying [fragment]) placedNote = .ok program ∧
      program.body = hoisted ++ [.expression (.foreign fragment) origin]) ∧
    ∃ program, toProgram (supplying []) placedNote = .ok program ∧
      program.body = hoisted ++ [.expression (.markup (.fragment [] false [] origin)) origin] := by
  intro fragment supplying origin hoisted
  refine ⟨⟨_, rfl, ?_⟩, ⟨_, rfl, ?_⟩⟩
  · obtain ⟨converted, state, hrun, -, -, hsome⟩ :=
      toProgram_assembles (supplying [fragment]) placedNote _ rfl
    cases hrun
    obtain ⟨expression, hbody, -, honly, -⟩ := hsome Converted.noConfusion
    have hchild : expression.IsChild (.foreign fragment) := honly _ rfl (Or.inr rfl)
    cases hchild
    exact hbody
  · obtain ⟨converted, state, hrun, -, -, hsome⟩ :=
      toProgram_assembles (supplying []) placedNote _ rfl
    cases hrun
    obtain ⟨expression, hbody, -, -, hother⟩ := hsome Converted.noConfusion
    rw [hbody, hother fun child honly => absurd honly (List.cons_ne_nil child []).symm]
    rfl

end MarkupJsx
