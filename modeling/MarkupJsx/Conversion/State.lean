import MarkupJsx.Conversion.Error
import MarkupJsx.Jsx.Basic
import MarkupJsx.Vocabulary.Lookup

/-!
# The state of a conversion

While a tree is converted five things are known besides the node at hand: the namespace that
properties are looked up in, the fashions in which names are written, two logs, of the comments
met and of the statements taken out of the tree, and the depth, that is, how many nodes are being
converted around the one at hand.

A step of a conversion (`Conversion α`) is a function on that state.  It answers a value or an
error, and the state that it leaves behind in either case: what a failing step has logged before
it failed stays logged.

Steps can ask for the namespace, the fashions and the depth, but not for the logs.  The namespace
and the depth are changed in one way only, for the length of a step (`Conversion.within`,
`Conversion.deeper`), and the logs in one way only, by adding to their ends.
-/

namespace MarkupJsx

/-- The fashions in which names are written. -/
structure Spelling where
  attributes : AttributeCase := .react
  styles : StyleCase := .dom
  deriving DecidableEq, Inhabited

/-- The state of a conversion. -/
structure State where
  space : Namespace := .html
  spelling : Spelling := {}
  comments : List Comment := []
  statements : List Jsx.Statement := []
  /-- How many nodes are being converted around the one at hand. -/
  depth : Nat := 0
  deriving Inhabited

/-- A step of a conversion. -/
def Conversion (α : Type) : Type :=
  State → Except ConversionError α × State

namespace Conversion

variable {α β : Type}

/-- Runs a step. -/
def run (step : Conversion α) (state : State) : Except ConversionError α × State :=
  step state

/-- A step that does nothing. -/
protected def pure (value : α) : Conversion α :=
  fun state => (.ok value, state)

/-- Two steps, one after the other; an error in the first leaves the second out. -/
protected def bind (step : Conversion α) (next : α → Conversion β) : Conversion β :=
  fun state =>
    match step.run state with
    | (.ok value, after) => (next value).run after
    | (.error error, after) => (.error error, after)

instance : Monad Conversion where
  pure := Conversion.pure
  bind := Conversion.bind

/-- A step that fails. -/
def fail (error : ConversionError) : Conversion α :=
  fun state => (.error error, state)

/-- A step that is a result which needs no state. -/
def ofExcept (result : Except ConversionError α) : Conversion α :=
  fun state => (result, state)

/-- The namespace that properties are looked up in. -/
def space : Conversion Namespace :=
  fun state => (.ok state.space, state)

/-- The fashions in which names are written. -/
def spelling : Conversion Spelling :=
  fun state => (.ok state.spelling, state)

/-- How many nodes are being converted around the one at hand. -/
def depth : Conversion Nat :=
  fun state => (.ok state.depth, state)

/-- Adds comments to their log. -/
def logComments (comments : List Comment) : Conversion Unit :=
  fun state => (.ok (), { state with comments := state.comments ++ comments })

/-- Adds statements to their log. -/
def logStatements (statements : List Jsx.Statement) : Conversion Unit :=
  fun state => (.ok (), { state with statements := state.statements ++ statements })

/-- Runs a step in a namespace.  Afterwards the namespace is what it was, also if the step fails. -/
def within (space : Namespace) (step : Conversion α) : Conversion α :=
  fun state =>
    let outcome := step.run { state with space }
    (outcome.1, { outcome.2 with space := state.space })

/-- Runs a step one level deeper.  Afterwards that level is left again, also if the step fails. -/
def deeper (step : Conversion α) : Conversion α :=
  fun state =>
    let outcome := step.run { state with depth := state.depth + 1 }
    (outcome.1, { outcome.2 with depth := outcome.2.depth - 1 })

/-- What can be gone on with: a value or an error, but not a sort that has given up. -/
def caught : Except ConversionError α → Except ConversionError (Except ConversionError α)
  | .error .unsorted => .error .unsorted
  | result => .ok result

/-- Runs a step and goes on with its value or with its error. -/
def attempt (step : Conversion α) : Conversion (Except ConversionError α) :=
  fun state =>
    let outcome := step.run state
    (caught outcome.1, outcome.2)

@[simp] theorem run_pure (value : α) (state : State) :
    (pure value : Conversion α).run state = (.ok value, state) := rfl

theorem run_bind (step : Conversion α) (next : α → Conversion β) (state : State) :
    (step >>= next).run state =
      match step.run state with
      | (.ok value, after) => (next value).run after
      | (.error error, after) => (.error error, after) := rfl

@[simp] theorem run_fail (error : ConversionError) (state : State) :
    (fail error : Conversion α).run state = (.error error, state) := rfl

@[simp] theorem run_ofExcept (result : Except ConversionError α) (state : State) :
    (ofExcept result).run state = (result, state) := rfl

@[simp] theorem run_space (state : State) : space.run state = (.ok state.space, state) := rfl

@[simp] theorem run_spelling (state : State) :
    spelling.run state = (.ok state.spelling, state) := rfl

@[simp] theorem run_depth (state : State) : depth.run state = (.ok state.depth, state) := rfl

@[simp] theorem run_logComments (comments : List Comment) (state : State) :
    (logComments comments).run state =
      (.ok (), { state with comments := state.comments ++ comments }) := rfl

@[simp] theorem run_logStatements (statements : List Jsx.Statement) (state : State) :
    (logStatements statements).run state =
      (.ok (), { state with statements := state.statements ++ statements }) := rfl

theorem run_within (space : Namespace) (step : Conversion α) (state : State) :
    (within space step).run state =
      ((step.run { state with space }).1,
        { (step.run { state with space }).2 with space := state.space }) := rfl

theorem run_deeper (step : Conversion α) (state : State) :
    (deeper step).run state =
      ((step.run { state with depth := state.depth + 1 }).1,
        { (step.run { state with depth := state.depth + 1 }).2 with
          depth := (step.run { state with depth := state.depth + 1 }).2.depth - 1 }) := rfl

theorem run_attempt (step : Conversion α) (state : State) :
    (attempt step).run state = (caught (step.run state).1, (step.run state).2) := rfl

end Conversion
end MarkupJsx
