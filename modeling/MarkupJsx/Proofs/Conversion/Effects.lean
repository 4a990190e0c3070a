import MarkupJsx.Proofs.Conversion.Compatible

/-!
# What a conversion does to its state

A step is *additive* if all that it does to the state is to add entries to the ends of the two logs,
and if neither the result nor these entries depend on what the logs held before.  Both halves are
one equation, `Additive`: the step run on a state is the step run on the same state with empty logs
(`State.cleared`), with what it logged there added to the logs (`State.extend`).  In particular the
namespace, the fashions and the depth are afterwards what they were.

Being additive is compatible with the rules (`compatible_additive`), so that the conversion of a
node is additive by induction on the levels (`additive_convert`), whatever the overrides ask for and
whether or not it fails.

* `convertNode_eq`: the levels that `convertNode` starts with are never missed.  It satisfies the
  equation in which the depth alone decides how far a conversion goes.
* `perform_frame`: **the effect of a request on the state,** for single requests, for two states
  that differ in their logs, and for requests that are served one after the other.
-/

namespace MarkupJsx

namespace State

/-- A state with nothing in its logs. -/
def cleared (state : State) : State :=
  { state with comments := [], statements := [] }

/-- A state with the entries of other logs behind its own. -/
def extend (state added : State) : State :=
  { state with
    comments := state.comments ++ added.comments
    statements := state.statements ++ added.statements }

@[simp] theorem space_cleared (state : State) : state.cleared.space = state.space := rfl

@[simp] theorem spelling_cleared (state : State) : state.cleared.spelling = state.spelling := rfl

@[simp] theorem depth_cleared (state : State) : state.cleared.depth = state.depth := rfl

@[simp] theorem cleared_cleared (state : State) : state.cleared.cleared = state.cleared := rfl

@[simp] theorem cleared_extend (state added : State) :
    (state.extend added).cleared = state.cleared := rfl

@[simp] theorem extend_cleared (state added : State) : state.extend added.cleared = state := by
  simp [extend, cleared]

theorem extend_extend (state first second : State) :
    (state.extend first).extend second = state.extend (first.extend second) := by
  simp [extend]

end State

namespace Conversion

variable {α β : Type}

/-! ## Additive steps -/

/-- A step that adds to the logs, does nothing else to the state, and does not depend on what has
been logged before. -/
def Additive (step : Conversion α) : Prop :=
  ∀ state : State,
    step.run state = ((step.run state.cleared).1, state.extend (step.run state.cleared).2)

/-- What an additive step leaves behind differs from what it found in the logs alone. -/
theorem Additive.cleared_after {step : Conversion α} (h : Additive step) (state : State) :
    (step.run state).2.cleared = state.cleared := by
  rw [h state]
  exact State.cleared_extend _ _

theorem Additive.depth_after {step : Conversion α} (h : Additive step) (state : State) :
    (step.run state).2.depth = state.depth := by
  rw [← State.depth_cleared, h.cleared_after, State.depth_cleared]

theorem additive_pure (value : α) : Additive (pure value) := by
  intro state
  simp

theorem additive_fail (error : ConversionError) : Additive (fail error : Conversion α) := by
  intro state
  simp

theorem additive_ofExcept (result : Except ConversionError α) : Additive (ofExcept result) := by
  intro state
  simp

theorem additive_logComments (comments : List Comment) : Additive (logComments comments) := by
  intro state
  simp [State.extend, State.cleared]

theorem additive_logStatements (statements : List Jsx.Statement) :
    Additive (logStatements statements) := by
  intro state
  simp [State.extend, State.cleared]

/-- **One after the other.**  The second step starts from a state whose logs are those of the first
one; without its logs that state is the one the first step started from. -/
theorem Additive.bind {step : Conversion α} {next : α → Conversion β} (h : Additive step)
    (hnext : ∀ value, Additive (next value)) : Additive (step >>= next) := by
  intro state
  have hafter := h.cleared_after state.cleared
  rw [run_bind, run_bind, h state]
  rcases hown : step.run state.cleared with ⟨result, own⟩
  rw [hown] at hafter
  cases result with
  | error error => rfl
  | ok value =>
    show (next value).run (state.extend own) = _
    have howned : (next value).run own = _ := hnext value own
    show _ = (((next value).run own).1, state.extend ((next value).run own).2)
    rw [hnext value (state.extend own), State.cleared_extend, howned, hafter,
      State.cleared_cleared, State.extend_extend]

theorem Additive.within (space : Namespace) {step : Conversion α} (h : Additive step) :
    Additive (within space step) := by
  intro state
  rw [run_within, run_within, h]
  rfl

theorem Additive.attempt {step : Conversion α} (h : Additive step) : Additive (attempt step) := by
  intro state
  rw [run_attempt, run_attempt, h]

/-- The level that is entered is left again. -/
theorem Additive.deeper {step : Conversion α} (h : Additive step) : Additive (deeper step) := by
  intro state
  rw [run_deeper, run_deeper, h]
  rfl

/-- A step that looks at the depth and then is additive is additive. -/
theorem Additive.depth_bind {next : Nat → Conversion α} (hnext : ∀ depth, Additive (next depth)) :
    Additive (depth >>= next) :=
  Additive.bind (fun state => by simp) hnext

/-- The rules keep steps additive. -/
theorem compatible_additive : Compatible fun step _ => Additive step where
  pure := additive_pure
  fail := additive_fail
  space := fun state => by simp
  spelling := fun state => by simp
  logComments := additive_logComments
  logStatements := additive_logStatements
  bind := fun h hnext => h.bind hnext
  within := by
    intro α space p q h
    exact h.within space
  attempt := fun h => h.attempt

theorem sequential_additive : Sequential fun step _ => Additive step :=
  compatible_additive.sequential

/-- Two steps that are the same wherever the depth is a given one; the first of them is additive, so
that what follows it finds that depth again. -/
def SameAt (depth : Nat) (step other : Conversion α) : Prop :=
  Additive step ∧ ∀ state : State, state.depth = depth → step.run state = other.run state

theorem compatible_sameAt (depth : Nat) : Compatible fun p q => SameAt depth p q where
  pure := fun value => ⟨additive_pure value, fun _ _ => rfl⟩
  fail := fun error => ⟨additive_fail error, fun _ _ => rfl⟩
  space := ⟨sequential_additive.space, fun _ _ => rfl⟩
  spelling := ⟨sequential_additive.spelling, fun _ _ => rfl⟩
  logComments := fun comments => ⟨additive_logComments comments, fun _ _ => rfl⟩
  logStatements := fun statements => ⟨additive_logStatements statements, fun _ _ => rfl⟩
  bind := by
    rintro α β p q f g ⟨hp, hpq⟩ hfg
    refine ⟨hp.bind fun value => (hfg value).1, fun state hd => ?_⟩
    have hafter : (p.run state).2.depth = depth := (hp.depth_after state).trans hd
    rw [run_bind, run_bind, ← hpq state hd]
    rcases hrun : p.run state with ⟨result, after⟩
    rw [hrun] at hafter
    cases result with
    | error error => rfl
    | ok value => exact (hfg value).2 after hafter
  within := by
    rintro α space p q ⟨hp, hpq⟩
    refine ⟨hp.within space, fun state hd => ?_⟩
    rw [run_within, run_within, hpq]
    exact hd
  attempt := by
    rintro α p q ⟨hp, hpq⟩
    refine ⟨hp.attempt, fun state hd => ?_⟩
    rw [run_attempt, run_attempt, hpq state hd]

variable [Sorter]

/-- **Converting a node is additive,** with any overrides and any number of levels. -/
theorem additive_convert (overrides : String → Option Override) (limit levels : Nat)
    (node : Node) : Additive (convert overrides limit levels node) := by
  induction levels generalizing node with
  | zero => exact additive_fail _
  | succ levels ih =>
    rw [convert_succ]
    refine Additive.depth_bind fun depth => ?_
    split
    · refine Additive.deeper ?_
      exact compatible_additive.convertWith (g := convert overrides limit levels) ih _ node
    · exact additive_fail _

theorem additive_convertNode (overrides : String → Option Override) (limit : Nat) (node : Node) :
    Additive (convertNode overrides limit node) :=
  Additive.depth_bind fun _ => additive_convert overrides limit _ node

/-! ## The levels are no bound of their own -/

/-- **The depth alone decides how far a conversion goes.**  A node is converted by its override or
its rule, one level deeper, as long as the depth is below the limit; inner nodes are converted in
the same way. -/
theorem convertNode_eq (overrides : String → Option Override) (limit : Nat) (node : Node) :
    convertNode overrides limit node = (do
      let depth ← depth
      if depth < limit then deeper (convertWith (convertNode overrides limit) overrides node)
      else fail (beyondLimit limit node)) := by
  funext state
  show (convert overrides limit (limit - state.depth) node).run state =
    (if state.depth < limit then deeper (convertWith (convertNode overrides limit) overrides node)
      else fail (beyondLimit limit node)).run state
  by_cases hlt : state.depth < limit
  · obtain ⟨levels, hlevels⟩ : ∃ levels, limit - state.depth = levels + 1 :=
      ⟨limit - (state.depth + 1), by omega⟩
    have inner : ∀ node, SameAt (state.depth + 1) (convert overrides limit levels node)
        (convertNode overrides limit node) := by
      intro node
      refine ⟨additive_convert overrides limit levels node, fun inside hd => ?_⟩
      rw [run_convertNode, hd, show limit - (state.depth + 1) = levels by omega]
    have whole := (compatible_sameAt (state.depth + 1)).convertWith inner overrides node
    rw [hlevels, convert_succ, run_bind, run_depth]
    show (if state.depth < limit then _ else _ : Conversion Converted).run state = _
    rw [if_pos hlt, if_pos hlt, run_deeper, run_deeper, whole.2 _ rfl]
  · rw [if_neg hlt, show limit - state.depth = 0 by omega, convert_zero]

end Conversion

/-! ## Requests -/

/-- What can be asked of a conversion from outside: to convert a node or the children of a node,
also in another namespace. -/
inductive Request where
  | node (tree : Node)
  | children (parent : Node)
  | within (space : Namespace) (inner : Request)

/-- Whether a result is the end of everything: a sort has given up, and there is no state to go on
with. -/
def Conversion.isEnd {α : Type} : Except ConversionError α → Bool
  | .error .unsorted => true
  | _ => false

namespace Request

variable [Sorter] (overrides : String → Option Override) (limit : Nat)

/-- The step that a request asks for. -/
def perform : Request → Conversion Converted
  | .node tree => convertNode overrides limit tree
  | .children parent => do
    let children ← Conversion.convertChildren (convertNode overrides limit) parent
    pure (.many children)
  | .within space inner => Conversion.within space inner.perform

/-- Serves requests one after the other on one state; a request that fails leaves its state to the
next one, unless it is the end of everything. -/
def serve : List Request → State → List (Except ConversionError Converted) × State
  | [], state => ([], state)
  | request :: rest, state =>
    let outcome := (request.perform overrides limit).run state
    let others := if Conversion.isEnd outcome.1 then ([], outcome.2) else serve rest outcome.2
    (outcome.1 :: others.1, others.2)

/-- The requests that are served, if each of them would start from a given state: all up to the
first that is the end of everything. -/
def served (fresh : State) (requests : List Request) : List Request :=
  let goesOn (request : Request) :=
    !Conversion.isEnd ((request.perform overrides limit).run fresh).1
  requests.takeWhile goesOn ++ (requests.dropWhile goesOn).take 1

theorem served_cons (fresh : State) (request : Request) (rest : List Request) :
    served overrides limit fresh (request :: rest) =
      request :: if Conversion.isEnd ((request.perform overrides limit).run fresh).1 then []
        else served overrides limit fresh rest := by
  rw [served, List.takeWhile_cons, List.dropWhile_cons]
  cases Conversion.isEnd ((request.perform overrides limit).run fresh).1 <;> rfl

theorem additive_perform (request : Request) :
    Conversion.Additive (request.perform overrides limit) := by
  induction request with
  | node tree => exact Conversion.additive_convertNode overrides limit tree
  | children parent =>
    refine Conversion.Additive.bind ?_ fun _ => Conversion.additive_pure _
    exact Conversion.sequential_additive.convertChildren (g := convertNode overrides limit)
      (Conversion.additive_convertNode overrides limit) parent
  | within space inner ih => exact ih.within space

/-- Serving requests is asking each of them on a state without logs, and adding up what they log. -/
theorem serve_eq (requests : List Request) (state : State) :
    serve overrides limit requests state =
      ((served overrides limit state.cleared requests).map fun request =>
          ((request.perform overrides limit).run state.cleared).1,
        { state with
          comments := state.comments ++
            (served overrides limit state.cleared requests).flatMap fun request =>
              ((request.perform overrides limit).run state.cleared).2.comments
          statements := state.statements ++
            (served overrides limit state.cleared requests).flatMap fun request =>
              ((request.perform overrides limit).run state.cleared).2.statements }) := by
  induction requests generalizing state with
  | nil => simp [serve, served]
  | cons request rest ih =>
    rw [serve, served_cons, additive_perform overrides limit request state, ih]
    cases Conversion.isEnd ((request.perform overrides limit).run state.cleared).1 <;>
      simp [State.extend, State.cleared]

/-- **The effect of requests on the state.**

Whatever a request does and however it ends, the namespace, the fashions and the depth are
afterwards what they were, and the logs have grown at their ends.  What is in the logs beforehand
changes neither the result nor what is added.  So of requests that are served one after the other,
each answers as it would on a fresh state, and what is logged is what each of them logs there, in
order.  This ends only with a request at which a sort gives up. -/
theorem perform_frame :
    (∀ (request : Request) (state : State),
      let after := ((request.perform overrides limit).run state).2
      after.space = state.space ∧ after.spelling = state.spelling ∧ after.depth = state.depth ∧
        state.comments <+: after.comments ∧ state.statements <+: after.statements) ∧
    (∀ (request : Request) (state : State) (comments : List Comment)
        (statements : List Jsx.Statement),
      let other := { state with comments, statements }
      let outcome := (request.perform overrides limit).run state
      let otherOutcome := (request.perform overrides limit).run other
      otherOutcome.1 = outcome.1 ∧
        ∃ (addedComments : List Comment) (addedStatements : List Jsx.Statement),
          outcome.2.comments = state.comments ++ addedComments ∧
          otherOutcome.2.comments = comments ++ addedComments ∧
          outcome.2.statements = state.statements ++ addedStatements ∧
          otherOutcome.2.statements = statements ++ addedStatements) ∧
    (∀ (requests : List Request) (state : State),
      let fresh : State :=
        { space := state.space, spelling := state.spelling, depth := state.depth }
      let served := served overrides limit fresh requests
      serve overrides limit requests state =
        (served.map fun request => ((request.perform overrides limit).run fresh).1,
          { state with
            comments := state.comments ++ served.flatMap fun request =>
              ((request.perform overrides limit).run fresh).2.comments
            statements := state.statements ++ served.flatMap fun request =>
              ((request.perform overrides limit).run fresh).2.statements })) := by
  refine ⟨fun request state => ?_, fun request state comments statements => ?_,
    fun requests state => serve_eq overrides limit requests state⟩
  · intro after
    have hafter : after = state.extend ((request.perform overrides limit).run state.cleared).2 :=
      congrArg Prod.snd (additive_perform overrides limit request state)
    rw [hafter]
    exact ⟨rfl, rfl, rfl, List.prefix_append _ _, List.prefix_append _ _⟩
  · intro other outcome otherOutcome
    have h : outcome = _ := additive_perform overrides limit request state
    have hother : otherOutcome = _ := additive_perform overrides limit request other
    have hcleared : other.cleared = state.cleared := rfl
    rw [h, hother, hcleared]
    exact ⟨rfl, _, _, rfl, rfl, rfl, rfl⟩

end Request
end MarkupJsx
