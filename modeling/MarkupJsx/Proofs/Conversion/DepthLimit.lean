import MarkupJsx.Conversion.Program
import MarkupJsx.Proofs.Conversion.Effects
import MarkupJsx.Script.InsertionSort

/-!
# What the limit of the depth does

The limit only cuts conversions off: two conversions of a tree with different limits are the same
up to the point where the lower limit is reached, and there the first of them fails.  Since nothing
is done after an error, a conversion that ends otherwise has never been at the limit.

`Cut limit depth` relates a step to the same step under a higher limit: at the given depth the
former fails because of the limit, or both do the same, to the state as well.  The rules keep this
relation (`sequential_cut`), so that it holds of the conversion of a node by induction on the levels
that the lower limit leaves (`cut_convertNode`).  It is no matter how often an override has the same
node converted again.

Both assumptions on overrides are needed.  An override that catches an error can turn it into a
result, and one that fails because of a depth of its own choosing can do so under any limit.

The main statement is `toProgram_of_higher_limit`: **a higher limit changes nothing but that a tree
which was too deep may no longer be.**
-/

namespace MarkupJsx
namespace Conversion

variable {α β : Type} {limit depth : Nat}

/-- The first of two steps is the second one, unless it fails because of the limit. -/
def Cut (limit depth : Nat) (step other : Conversion α) : Prop :=
  Additive step ∧ ∀ state : State, state.depth = depth →
    (step.run state).1 = .error (.tooDeep limit) ∨
      other.run state = step.run state ∧
        ∀ error, (step.run state).1 = .error error → error.isTooDeep = false

theorem cut_refl {step : Conversion α} (hadd : Additive step)
    (h : ∀ state error, (step.run state).1 = .error error → error.isTooDeep = false) :
    Cut limit depth step step :=
  ⟨hadd, fun state _ => Or.inr ⟨rfl, h state⟩⟩

/-- A step that gives a value whatever the state is never fails because of the limit. -/
theorem cut_of_succeeds {step : Conversion α} (hadd : Additive step)
    (h : ∀ state, ∃ value, (step.run state).1 = .ok value) : Cut limit depth step step := by
  refine cut_refl hadd fun state error herror => ?_
  obtain ⟨value, hvalue⟩ := h state
  exact nomatch hvalue.symm.trans herror

theorem Cut.bind {p q : Conversion α} {f g : α → Conversion β} (hpq : Cut limit depth p q)
    (hfg : ∀ value, Cut limit depth (f value) (g value)) :
    Cut limit depth (p >>= f) (q >>= g) := by
  obtain ⟨hadd, hpq⟩ := hpq
  refine ⟨hadd.bind fun value => (hfg value).1, fun state hdepth => ?_⟩
  have hafter : (p.run state).2.depth = depth := (hadd.depth_after state).trans hdepth
  have hfirst := hpq state hdepth
  rw [run_bind, run_bind]
  rcases hrun : p.run state with ⟨result, after⟩
  rw [hrun] at hafter hfirst
  rcases hfirst with hcut | ⟨hsame, herrors⟩
  · left
    have hcut : result = .error (.tooDeep limit) := hcut
    rw [hcut]
  · rw [hsame]
    cases result with
    | error error =>
      right
      refine ⟨rfl, fun other hother => ?_⟩
      exact herrors other (congrArg Except.error (Except.error.inj hother))
    | ok value => exact (hfg value).2 after hafter

theorem Cut.within (space : Namespace) {p q : Conversion α} (h : Cut limit depth p q) :
    Cut limit depth (within space p) (within space q) := by
  refine ⟨h.1.within space, fun state hdepth => ?_⟩
  rcases h.2 { state with space } hdepth with hcut | ⟨hsame, herrors⟩
  · exact Or.inl hcut
  · right
    rw [run_within, run_within, hsame]
    exact ⟨rfl, herrors⟩

theorem Cut.deeper {p q : Conversion α} (h : Cut limit (depth + 1) p q) :
    Cut limit depth (deeper p) (deeper q) := by
  refine ⟨h.1.deeper, fun state hdepth => ?_⟩
  rcases h.2 { state with depth := state.depth + 1 } (congrArg (· + 1) hdepth) with
    hcut | ⟨hsame, herrors⟩
  · exact Or.inl hcut
  · right
    rw [run_deeper, run_deeper, hsame]
    exact ⟨rfl, herrors⟩

/-- **The rules keep the relation,** since after an error they do nothing. -/
theorem sequential_cut (limit depth : Nat) : Sequential fun p q => Cut limit depth p q where
  pure := fun value => cut_of_succeeds (additive_pure value) fun _ => ⟨_, rfl⟩
  fail := fun error herror => cut_refl (additive_fail error) fun _ other hother => by
    rw [← Except.error.inj hother]
    exact herror
  space := cut_of_succeeds sequential_additive.space fun _ => ⟨_, rfl⟩
  spelling := cut_of_succeeds sequential_additive.spelling fun _ => ⟨_, rfl⟩
  logComments := fun comments => cut_of_succeeds (additive_logComments comments) fun _ => ⟨_, rfl⟩
  logStatements := fun statements =>
    cut_of_succeeds (additive_logStatements statements) fun _ => ⟨_, rfl⟩
  bind := fun hpq hfg => hpq.bind hfg
  within := by
    intro α space p q h
    exact h.within space

/-- At the limit and below it nothing is converted. -/
theorem run_convertNode_of_le [Sorter] (overrides : String → Option Override) {state : State}
    (h : limit ≤ state.depth) (node : Node) :
    (convertNode overrides limit node).run state = (.error (beyondLimit limit node), state) := by
  rw [run_convertNode, Nat.sub_eq_zero_of_le h]
  rfl

/-- A malformed node is an error on any level. -/
theorem run_convertNode_malformed [Sorter] (overrides : String → Option Override) (limit : Nat)
    (value : Json) (state : State) :
    (convertNode overrides limit (.malformed value)).run state =
      (.error (.malformed value), state) := by
  by_cases h : limit ≤ state.depth
  · exact run_convertNode_of_le overrides h _
  · rw [convertNode_eq, run_bind, run_depth]
    show (if state.depth < limit then _ else _ : Conversion Converted).run state = _
    rw [if_pos (by omega)]
    rfl

/-- **A higher limit only goes on where the lower one is reached.** -/
theorem cut_convertNode [Sorter] {overrides : String → Option Override}
    (hoverrides : ∀ kind override, overrides kind = some override →
      ∀ node, (override node).PassesErrors)
    {limit higher : Nat} (hlimit : limit ≤ higher) (depth : Nat) (node : Node) :
    Cut limit depth (convertNode overrides limit node) (convertNode overrides higher node) := by
  obtain ⟨levels, hlevels⟩ : ∃ levels, limit - depth = levels := ⟨_, rfl⟩
  -- An override may ask for the node that it was asked about, so it is not the node that gets
  -- smaller but the number of levels that are left.
  induction levels generalizing depth node with
  | zero =>
    refine ⟨additive_convertNode overrides limit node, fun state hdepth => ?_⟩
    have hle : limit ≤ state.depth := by omega
    rw [run_convertNode_of_le overrides hle]
    cases node with
    | malformed value =>
      right
      refine ⟨run_convertNode_malformed overrides higher value state, fun error herror => ?_⟩
      rw [← Except.error.inj herror]
      rfl
    | _ => exact Or.inl rfl
  | succ levels ih =>
    have hinside : ∀ node, Cut limit (depth + 1) (convertNode overrides limit node)
        (convertNode overrides higher node) := fun node => ih (depth + 1) node (by omega)
    have hwith := (sequential_cut limit (depth + 1)).convertWith hinside hoverrides node
    have hdeeper := hwith.deeper
    refine ⟨additive_convertNode overrides limit node, fun state hdepth => ?_⟩
    have hrun : ∀ bound, depth < bound → (convertNode overrides bound node).run state =
        (deeper (convertWith (convertNode overrides bound) overrides node)).run state := by
      intro bound hbound
      rw [convertNode_eq, run_bind, run_depth, hdepth]
      show (if depth < bound then _ else _ : Conversion Converted).run state = _
      rw [if_pos hbound]
    rw [hrun limit (by omega), hrun higher (by omega)]
    exact hdeeper.2 state hdepth

end Conversion

/-! ## The whole program -/

/-- Two trees at the same place have the same outcome, unless the first is too deep, if this holds
of converting them. -/
theorem toProgram_of_cut [Sorter] {options other : Options} {tree another : Node}
    (hstate : other.initialState = options.initialState)
    (horigin : another.source.spanOrigin = tree.source.spanOrigin)
    (hcut : Conversion.Cut options.maxDepth 0 (options.convertNode tree)
      (other.convertNode another)) :
    toProgram options tree = .error (.tooDeep options.maxDepth) ∨
      toProgram other another = toProgram options tree ∧
        ∀ error, toProgram options tree = .error error → error.isTooDeep = false := by
  rw [toProgram_eq options, toProgram_eq other, hstate, horigin]
  rcases hcut.2 options.initialState rfl with hdeep | ⟨hsame, herrors⟩
  · left
    rw [hdeep]
    rfl
  · right
    refine ⟨by rw [hsame], fun error herror => herrors error ?_⟩
    cases hresult : ((options.convertNode tree).run options.initialState).1 with
    | ok converted =>
      rw [hresult] at herror
      exact nomatch herror
    | error other =>
      rw [hresult] at herror
      exact congrArg Except.error (Except.error.inj herror)

/-- Under a higher limit a tree has the same outcome, unless it is too deep for the lower one. -/
theorem toProgram_cut [Sorter] (options : Options)
    (hoverrides : ∀ kind override, options.overrides kind = some override →
      ∀ node, (override node).PassesErrors)
    {higher : Nat} (hlimit : options.maxDepth ≤ higher) (tree : Node) :
    toProgram options tree = .error (.tooDeep options.maxDepth) ∨
      toProgram { options with maxDepth := higher } tree = toProgram options tree ∧
        ∀ error, toProgram options tree = .error error → error.isTooDeep = false :=
  toProgram_of_cut rfl rfl (Conversion.cut_convertNode hoverrides hlimit 0 tree)

/-- **A higher limit only cuts off less.**  Take any tree and any options with overrides that catch
no errors and do not say by themselves that a node is too deep.  A tree that has a program has the
same program under every higher limit.  A tree that fails for another reason than its depth fails
for the same reason under every higher limit.  And the depth that is reported is the limit. -/
theorem toProgram_of_higher_limit [Sorter] (options : Options)
    (hoverrides : ∀ kind override, options.overrides kind = some override →
      ∀ node, (override node).PassesErrors) (tree : Node) :
    (∀ program, toProgram options tree = .ok program →
      ∀ higher, options.maxDepth ≤ higher →
        toProgram { options with maxDepth := higher } tree = .ok program) ∧
    (∀ error, toProgram options tree = .error error → error.isTooDeep = false →
      ∀ higher, options.maxDepth ≤ higher →
        toProgram { options with maxDepth := higher } tree = .error error) ∧
    (∀ reported, toProgram options tree = .error (.tooDeep reported) →
      reported = options.maxDepth) := by
  refine ⟨fun program hprogram higher hlimit => ?_, fun error herror hother higher hlimit => ?_,
    fun reported hreported => ?_⟩
  · rcases toProgram_cut options hoverrides hlimit tree with hdeep | ⟨hsame, -⟩
    · exact nomatch hprogram.symm.trans hdeep
    · exact hsame.trans hprogram
  · rcases toProgram_cut options hoverrides hlimit tree with hdeep | ⟨hsame, -⟩
    · rw [Except.error.inj (herror.symm.trans hdeep)] at hother
      exact nomatch hother
    · exact hsame.trans herror
  · rcases toProgram_cut options hoverrides (Nat.le_refl _) tree with hdeep | ⟨-, herrors⟩
    · exact ConversionError.tooDeep.inj (Except.error.inj (hreported.symm.trans hdeep))
    · exact nomatch herrors _ hreported

/-- Overrides that have other nodes converted in another namespace, that log a comment, that fail,
and that have the same node converted again. -/
def nestingOverrides : String → Option Override
  | "wrap" => some fun _ =>
    .within .svg <|
      .andThen (.convertChildren (.root {} [.text {} (some "a"), .unknown {} "note" []]))
        fun children => .done (.many children)
  | "note" => some fun _ =>
    .andThen (.comment { kind := .line, text := "noted" }) fun _ => .done .nothing
  | "stop" => some fun _ => .fail (.unknownKind "stop")
  | "again" => some fun node => .convert node
  | _ => none

theorem passesErrors_of_nestingOverrides (kind : String) (override : Override)
    (h : nestingOverrides kind = some override) (node : Node) : (override node).PassesErrors := by
  unfold nestingOverrides at h
  split at h
  · rw [← Option.some.inj h]
    exact ⟨trivial, fun _ => trivial⟩
  · rw [← Option.some.inj h]
    exact ⟨trivial, fun _ => trivial⟩
  · rw [← Option.some.inj h]
    rfl
  · rw [← Option.some.inj h]
    trivial
  · exact nomatch h

open scoped Sorting.Insertion in
theorem toProgram_of_higher_limit_nesting :
    let options : Options := { maxDepth := 3, overrides := nestingOverrides }
    let wrapped : Node := .root {} [.unknown {} "wrap" []]
    let stopped : Node := .root {} [.unknown {} "stop" []]
    let repeated : Node := .root {} [.unknown {} "again" []]
    (∃ program, program.comments.map Comment.text = ["noted"] ∧
      ∀ higher, 3 ≤ higher →
        toProgram { options with maxDepth := higher } wrapped = .ok program) ∧
    (∀ higher, 3 ≤ higher →
      toProgram { options with maxDepth := higher } stopped = .error (.unknownKind "stop")) ∧
    ∃ reported, toProgram options repeated = .error (.tooDeep reported) ∧ reported = 3 := by
  intro options wrapped stopped repeated
  have hall := toProgram_of_higher_limit options passesErrors_of_nestingOverrides
  refine ⟨?_, ?_, 3, rfl, (hall repeated).2.2 3 rfl⟩
  · have hcomments : (toProgram options wrapped).toOption.map
        (fun program => program.comments.map Comment.text) = some ["noted"] := by decide +kernel
    rcases h : toProgram options wrapped with error | program
    · rw [h] at hcomments
      exact nomatch hcomments
    · rw [h] at hcomments
      exact ⟨program, Option.some.inj hcomments, (hall wrapped).1 program h⟩
  · have hstopped : toProgram options stopped = .error (.unknownKind "stop") := by rfl
    exact (hall stopped).2.1 _ hstopped rfl

end MarkupJsx
