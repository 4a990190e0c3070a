import MarkupJsx.Conversion.Nodes
import MarkupJsx.Jsx.Encode

/-!
# Converting a tree to a program

The program of a tree holds the statements taken out of the tree, and behind them one statement
with the converted tree, unless the tree became nothing.  If the tree became a single element or
fragment, then that is the expression of the statement.  Otherwise whatever it became is put into
a fragment, so the expression is always an element or a fragment.
-/

namespace MarkupJsx
open Jsx

/-- How a tree is converted. -/
structure Options where
  space : Namespace := .html
  spelling : Spelling := {}
  /-- How many levels of nodes a tree may have. -/
  maxDepth : Nat := 512
  overrides : String → Option Override := fun _ => none

namespace Options

/-- The state in which a conversion starts. -/
def initialState (options : Options) : State :=
  { space := options.space, spelling := options.spelling }

variable [Sorter]

/-- Converts a node. -/
def convertNode (options : Options) (node : Node) : Conversion Converted :=
  MarkupJsx.convertNode options.overrides options.maxDepth node

/-- Converts the children of a node. -/
def convertChildren (options : Options) (parent : Node) : Conversion (List Child) :=
  Conversion.convertChildren options.convertNode parent

end Options

/-- The expression for what a tree became. -/
def treeExpression (origin : Origin) (children : List Child) : Expression :=
  let wrapped := Expression.markup (.fragmentOf children origin)
  match children with
  | [child] => if child.isMarkup then child.toExpression else wrapped
  | _ => wrapped

/-- The statement for what a tree became, if it became something. -/
def treeStatement (origin : Origin) : Converted → List Statement
  | .nothing => []
  | converted => [.expression (treeExpression origin converted.children) origin]

/-- The program for what a tree became and what was logged on the way. -/
def programOf (origin : Origin) (converted : Converted) (state : State) : Program :=
  { body := state.statements ++ treeStatement origin converted
    comments := state.comments
    origin }

variable [Sorter]

/-- Converts a tree to a program. -/
def toProgram (options : Options) (tree : Node) : Except ConversionError Program :=
  match (options.convertNode tree).run options.initialState with
  | (.ok converted, state) => .ok (programOf tree.source.spanOrigin converted state)
  | (.error error, _) => .error error

/-- The outcome is that of the conversion, with a program around the value. -/
theorem toProgram_eq (options : Options) (tree : Node) :
    toProgram options tree =
      ((options.convertNode tree).run options.initialState).1.map fun converted =>
        programOf tree.source.spanOrigin converted
          ((options.convertNode tree).run options.initialState).2 := by
  rw [toProgram]
  rcases (options.convertNode tree).run options.initialState with ⟨result, state⟩
  cases result with
  | ok converted => rfl
  | error error => rfl

/-- A tree that has a program has been converted, and the program is that of the value. -/
theorem exists_of_toProgram_eq_ok {options : Options} {tree : Node} {program : Program}
    (h : toProgram options tree = .ok program) :
    ∃ converted state,
      (options.convertNode tree).run options.initialState = (.ok converted, state) ∧
        program = programOf tree.source.spanOrigin converted state := by
  rw [toProgram_eq] at h
  rcases hrun : (options.convertNode tree).run options.initialState with ⟨result, state⟩
  rw [hrun] at h
  cases result with
  | ok converted => exact ⟨converted, state, rfl, (Except.ok.inj h).symm⟩
  | error error => cases h

end MarkupJsx
