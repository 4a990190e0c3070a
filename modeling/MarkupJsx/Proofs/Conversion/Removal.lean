import MarkupJsx.Proofs.Conversion.DepthLimit
import MarkupJsx.Script.InsertionSort

/-!
# Overrides that remove

An override that makes nothing of the nodes of a kind deletes them: the tree is converted as the
tree from which these nodes have been taken, each with everything inside it (`Node.without`).

A node that becomes nothing is still met.  It is skipped as a line break if it is one, and it takes
a level as every node does, so it can be too deep where the pruned tree has no node at all.  That is
the only trace of it: the levels aside, converting it leaves the state as it was, and whether
whitespace stands at the end of a root and whether an element closes itself is judged by what the
children became, to which it adds nothing.

So the two conversions are related by `Cut`, the relation between a conversion and the same one
under a higher limit, with the same limit on both sides.  Nodes that are kept are converted by the
rules, which keep this relation whatever the children are; a node that is removed has no other side,
and drops out where nodes are converted one after the other (`cut_convertNodes_without`).

The main statement is `toProgram_removing`: **an override that yields nothing is deletion.**
-/

namespace MarkupJsx

namespace Node

mutual

/-- A node without the nodes of a kind inside it, and without everything inside these. -/
def without (kind : String) : Node → Node
  | .root source children => .root source (allWithout kind children)
  | .element source tagName properties children =>
    .element source tagName properties (allWithout kind children)
  | .text source value => .text source value
  | .comment source value => .comment source value
  | .doctype source => .doctype source
  | .esm source => .esm source
  | .expression placement source => .expression placement source
  | .component placement source name attributes children =>
    .component placement source name attributes (allWithout kind children)
  | .unknown source other fields => .unknown source other fields
  | .malformed value => .malformed value
termination_by structural node => node

/-- Nodes one after the other without those of a kind, and without those inside the others. -/
def allWithout (kind : String) : List Node → List Node
  | [] => []
  | node :: rest =>
    if node.kind? = some kind then allWithout kind rest
    else node.without kind :: allWithout kind rest
termination_by structural nodes => nodes

end

/-- A node loses children and nothing else. -/
theorem without_eq (kind : String) (node : Node) :
    node.without kind = node.withChildren (allWithout kind node.children) := by
  cases node <;> rfl

@[simp] theorem source_without (kind : String) (node : Node) :
    (node.without kind).source = node.source := by
  cases node <;> rfl

@[simp] theorem isLineBreak_without (kind : String) (node : Node) :
    (node.without kind).isLineBreak = node.isLineBreak := by
  cases node <;> rfl

@[simp] theorem isTableStructure_without (kind : String) (node : Node) :
    (node.without kind).isTableStructure = node.isTableStructure := by
  cases node <;> rfl

@[simp] theorem children_without (kind : String) (node : Node) :
    (node.without kind).children = allWithout kind node.children := by
  cases node <;> rfl

@[simp] theorem beyondLimit_without (kind : String) (limit : Nat) (node : Node) :
    beyondLimit limit (node.without kind) = beyondLimit limit node := by
  cases node <;> rfl

end Node

/-- The override under which the nodes of a kind become nothing, and no other override. -/
def Override.removing (kind : String) : String → Option Override :=
  fun other => if other = kind then some fun _ => .done .nothing else none

namespace Conversion

variable {kind : String} {limit depth : Nat}

/-! ## Nodes that are removed -/

/-- What converting a removed node can be: there is no level left for it, or it has no effect. -/
theorem run_convert_of_removed [Sorter] {node : Node} (h : node.kind? = some kind)
    (limit levels : Nat) (state : State) :
    (convert (Override.removing kind) limit levels node).run state =
        (.error (.tooDeep limit), state) ∨
      (convert (Override.removing kind) limit levels node).run state = (.ok .nothing, state) := by
  have hbeyond : beyondLimit limit node = .tooDeep limit := by
    cases node with
    | malformed value => exact nomatch h
    | _ => rfl
  cases levels with
  | zero =>
    left
    rw [convert_zero, run_fail, hbeyond]
  | succ levels =>
    rw [convert_succ, run_bind, run_depth]
    show (if state.depth < limit then _ else _ : Conversion Converted).run state = _ ∨
      (if state.depth < limit then _ else _ : Conversion Converted).run state = _
    by_cases hdepth : state.depth < limit
    · right
      have hoverride : node.kind?.bind (Override.removing kind) = some fun _ => .done .nothing := by
        rw [h]
        exact if_pos rfl
      rw [if_pos hdepth, convertWith, hoverride]
      rfl
    · left
      rw [if_neg hdepth, run_fail, hbeyond]

/-- A node that becomes nothing adds nothing to what the nodes behind it become. -/
theorem run_children_of_nothing {first : Conversion Converted} {state : State}
    (h : first.run state = (.ok .nothing, state)) (rest : Conversion (List Jsx.Child)) :
    (do
      let converted ← first
      let others ← rest
      pure (converted.children ++ others)).run state = rest.run state := by
  rw [run_bind, h]
  show (rest >>= fun others => pure others).run state = rest.run state
  rw [run_bind]
  rcases rest.run state with ⟨_ | _, after⟩ <;> rfl

/-! ## Nodes that are kept -/

section Kept

variable {convert convertPruned : Node → Conversion Converted}
  (hadd : ∀ node, Additive (convert node))
  (hkept : ∀ node, node.kind? ≠ some kind →
    Cut limit depth (convert node) (convertPruned (node.without kind)))
  (hremoved : ∀ node, node.kind? = some kind → ∀ state,
    (convert node).run state = (.error (.tooDeep limit), state) ∨
      (convert node).run state = (.ok .nothing, state))
include hadd hkept hremoved

/-- **Removed nodes drop out** of nodes that are converted one after the other. -/
theorem cut_convertNodes_without (skipBreaks : Bool) (nodes : List Node) :
    Cut limit depth (convertNodes convert skipBreaks nodes)
      (convertNodes convertPruned skipBreaks (Node.allWithout kind nodes)) := by
  have hcut := sequential_cut limit depth
  induction nodes with
  | nil => exact hcut.pure []
  | cons node rest ih =>
    have hall : Additive (convertNodes convert skipBreaks (node :: rest)) :=
      sequential_additive.convertNodes (g := convert) hadd skipBreaks (node :: rest)
    rw [Node.allWithout]
    by_cases hkind : node.kind? = some kind
    · rw [if_pos hkind]
      refine ⟨hall, fun state hdepth => ?_⟩
      rw [convertNodes]
      split
      · exact ih.2 state hdepth
      · rcases hremoved node hkind state with hdeep | hnothing
        · left
          rw [run_bind, hdeep]
        · rw [run_children_of_nothing hnothing]
          exact ih.2 state hdepth
    · rw [if_neg hkind, convertNodes, convertNodes, Node.isLineBreak_without]
      split
      · exact ih
      · refine hcut.bind (hkept node hkind) fun converted => ?_
        exact hcut.bind ih fun others => hcut.pure _

theorem cut_convertChildren_without (parent : Node) :
    Cut limit depth (convertChildren convert parent)
      (convertChildren convertPruned (parent.without kind)) := by
  refine (sequential_cut limit depth).bind (sequential_cut limit depth).space fun space => ?_
  rw [Node.isTableStructure_without, Node.children_without]
  exact cut_convertNodes_without hadd hkept hremoved _ parent.children

/-- A node that is kept is converted by the rule for it. -/
theorem cut_convertWith_without [Sorter] {node : Node} (h : node.kind? ≠ some kind) :
    Cut limit depth (convertWith convert (Override.removing kind) node)
      (convertWith convertPruned (fun _ => none) (node.without kind)) := by
  have hnone : node.kind?.bind (Override.removing kind) = none := by
    cases hkind : node.kind? with
    | none => rfl
    | some other => exact if_neg fun hother => h (hkind.trans (congrArg some hother))
  have hchildren := cut_convertChildren_without hadd hkept hremoved node
  rw [convertWith_none, convertWith, hnone, Node.without_eq]
  rw [Node.without_eq] at hchildren
  exact (sequential_cut limit depth).convertByKind_of_children hchildren

end Kept

/-- Where no level is left for a node, it is malformed or too deep, with and without the nodes that
are removed inside it. -/
theorem cut_beyondLimit_without (node : Node) :
    Cut limit depth (fail (beyondLimit limit node) : Conversion Converted)
      (fail (beyondLimit limit (node.without kind))) := by
  refine ⟨additive_fail _, fun state _ => ?_⟩
  rw [Node.beyondLimit_without]
  cases node with
  | malformed value =>
    right
    refine ⟨rfl, fun error herror => ?_⟩
    rw [← Except.error.inj herror]
    rfl
  | _ => exact Or.inl rfl

/-- **A tree is converted as if the removed nodes were not there,** as long as it is not too deep.
-/
theorem cut_convert_without [Sorter] (levels : Nat) {node : Node} (h : node.kind? ≠ some kind) :
    Cut limit depth (convert (Override.removing kind) limit levels node)
      (convert (fun _ => none) limit levels (node.without kind)) := by
  induction levels generalizing depth node with
  | zero => exact cut_beyondLimit_without node
  | succ levels ih =>
    have hask : Cut limit depth Conversion.depth Conversion.depth :=
      cut_of_succeeds (fun state => by simp) fun _ => ⟨_, rfl⟩
    rw [convert_succ, convert_succ]
    refine hask.bind fun reached => ?_
    split
    · refine Cut.deeper ?_
      exact cut_convertWith_without (additive_convert _ limit levels) (fun _ => ih)
        (fun _ hkind => run_convert_of_removed hkind limit levels) h
    · exact cut_beyondLimit_without node

end Conversion

/-! ## The whole program -/

/-- **An override that yields nothing is deletion.**  Take any tree, a kind that is not its own, and
any options.  If the tree has a program under the override that makes nothing of the nodes of this
kind, and under no other override, then the tree from which they have been taken, each with
everything inside it, has the same program without overrides.  And if the tree fails under this
override, then the pruned tree fails in the same way, unless it was the depth of the tree. -/
theorem toProgram_removing [Sorter] (options : Options) (kind : String) (tree : Node)
    (h : tree.kind? ≠ some kind) :
    let removing : Options := { options with overrides := Override.removing kind }
    let plain : Options := { options with overrides := fun _ => none }
    (∀ program, toProgram removing tree = .ok program →
      toProgram plain (tree.without kind) = .ok program) ∧
    ∀ error, toProgram removing tree = .error error →
      toProgram plain (tree.without kind) = .error error ∨ error = .tooDeep options.maxDepth := by
  intro removing plain
  have houtcome : toProgram removing tree = .error (.tooDeep removing.maxDepth) ∨
      toProgram plain (tree.without kind) = toProgram removing tree ∧
        ∀ error, toProgram removing tree = .error error → error.isTooDeep = false := by
    refine toProgram_of_cut rfl (by rw [Node.source_without]) ⟨?_, fun state hdepth => ?_⟩
    · exact Conversion.additive_convertNode _ _ tree
    · exact (Conversion.cut_convert_without (options.maxDepth - state.depth) h).2 state hdepth
  rcases houtcome with hdeep | ⟨hsame, -⟩
  · refine ⟨fun program hprogram => ?_, fun error herror => Or.inr ?_⟩
    · exact nomatch hprogram.symm.trans hdeep
    · exact Except.error.inj (herror.symm.trans hdeep)
  · exact ⟨fun program hprogram => hsame.trans hprogram,
      fun error herror => Or.inl (hsame.trans herror)⟩

/-- A document with notes: at its end, behind whitespace, and as all that is inside an element. -/
def notedDocument : Node :=
  .root {} [.text {} (some "\n"), .element {} "a" [] [.unknown {} "note" []],
    .unknown {} "note" [("children", .array [.null])], .text {} (some " "),
    .unknown {} "note" []]

open scoped Sorting.Insertion in
theorem toProgram_removing_notes :
    let removing : Options := { overrides := Override.removing "note" }
    let failing : Node := .root {} [.unknown {} "note" [], .unknown {} "other" []]
    notedDocument.kind? ≠ some "note" ∧
    (∃ program, toProgram removing notedDocument = .ok program ∧
      toProgram {} (.root {} [.text {} (some "\n"), .element {} "a" [] [],
        .text {} (some " ")]) = .ok program) ∧
    toProgram removing failing = .error (.unknownKind "other") ∧
      (toProgram {} (.root {} [.unknown {} "other" []]) = .error (.unknownKind "other") ∨
        ConversionError.unknownKind "other" = .tooDeep 512) := by
  intro removing failing
  have hkind : notedDocument.kind? ≠ some "note" := by decide
  have succeeds : (toProgram removing notedDocument).toOption.isSome = true := by
    decide +kernel
  have hfails : toProgram removing failing = .error (.unknownKind "other") := by rfl
  refine ⟨hkind, ?_, hfails, (toProgram_removing {} "note" failing (by decide)).2 _ hfails⟩
  rcases h : toProgram removing notedDocument with error | program
  · rw [h] at succeeds
    exact nomatch succeeds
  · exact ⟨program, rfl, (toProgram_removing {} "note" notedDocument hkind).1 program h⟩

end MarkupJsx
