import MarkupJsx.Proofs.Script.Nodes

/-!
# What the sort may give up on

The comments of a script cannot be placed if the sort gives up on something that the walk needs in
order.  Whether it does is known for certain only where the comparison is an order: then no sort
gives up.

* `IsGroup`: the siblings that the walk may need in order are the statements, and the nodes inside
  each node.
* `settled_of_groups`: if none of these groups is given up on, and neither are the comments, all
  that the walk needs can be put in order.
* `settled_of_isOrderOn`: **comments and siblings that are in an order can be placed.**
-/

namespace MarkupJsx
namespace Script

/-- The groups of siblings in a script: its statements, and the nodes inside each node. -/
inductive IsGroup (script : Script) : List Site → Prop
  | statements : IsGroup script script.sites
  | inner {siblings : List Site} {path : Path} {fields : List (String × Json)}
      {inner : List Site} (h : IsGroup script siblings)
      (hmem : .mk path fields inner ∈ siblings) : IsGroup script inner

/-- The nodes inside a group of siblings are nodes of the script. -/
theorem mem_nodes_of_isGroup {script : Script} {siblings : List Site}
    (h : script.IsGroup siblings) : ∀ node ∈ nodesOf siblings, node ∈ script.nodes := by
  induction h with
  | statements => exact fun _ hnode => hnode
  | inner _ hmem ih =>
    intro node hnode
    refine ih node ?_
    rw [nodesOf_eq_flatMap]
    exact List.mem_flatMap.2 ⟨_, hmem, List.mem_cons_of_mem _ hnode⟩

variable [Sorter] {script : Script}

theorem attach_eq_some_iff {attached : Script} :
    script.attach = some attached ↔ script.settled = true ∧ attached = script.annotated := by
  rw [attach]
  split
  · rename_i h
    exact Option.some_inj.trans ⟨fun heq => ⟨h, heq.symm⟩, fun heq => heq.2.symm⟩
  · rename_i h
    exact ⟨fun heq => absurd heq nofun, fun heq => absurd heq.1 h⟩

theorem attach_of_settled (h : script.settled = true) : script.attach = some script.annotated :=
  attach_eq_some_iff.2 ⟨h, rfl⟩

theorem attach_of_not_settled (h : ¬script.settled = true) : script.attach = none :=
  if_neg h

@[simp] theorem isSome_attach : script.attach.isSome = script.settled := by
  rw [attach]
  cases script.settled <;> rfl

/-- Without comments nothing has to be put in order. -/
theorem settled_of_comments_eq_nil (h : script.comments = []) : script.settled = true := by
  rw [settled, h]
  rfl

mutual

/-- If no group is given up on, no node has a group inside it that is. -/
theorem Site.unsettled_eq_nil (h : ∀ siblings, script.IsGroup siblings → settles siblings = true)
    (site : Site) {siblings : List Site} (hgroup : script.IsGroup siblings)
    (hmem : site ∈ siblings) : site.unsettled = [] := by
  match site with
  | .mk path fields inner =>
    have hinner : script.IsGroup inner := hgroup.inner hmem
    rw [Site.unsettled, if_pos (h inner hinner),
      unsettledAll_eq_nil h inner hinner fun _ hsite => hsite]
    rfl

theorem unsettledAll_eq_nil
    (h : ∀ siblings, script.IsGroup siblings → settles siblings = true) (sites : List Site)
    {siblings : List Site} (hgroup : script.IsGroup siblings)
    (hmem : ∀ site ∈ sites, site ∈ siblings) : unsettledAll sites = [] := by
  match sites with
  | [] => rfl
  | site :: rest =>
    rw [List.forall_mem_cons] at hmem
    rw [unsettledAll, Site.unsettled_eq_nil h site hgroup hmem.1,
      unsettledAll_eq_nil h rest hgroup hmem.2]
    rfl

end

theorem settled_of_groups
    (hcomments : (Sorter.sort? commentBefore script.comments).isSome = true)
    (hgroups : ∀ siblings, script.IsGroup siblings → settles siblings = true) :
    script.settled = true := by
  have hnone := unsettledAll_eq_nil hgroups script.sites .statements fun _ hsite => hsite
  rw [settled, hcomments, hgroups script.sites .statements, hnone]
  simp

/-- **Comments and siblings that are in an order can be placed,** whatever the sort does to others.
-/
theorem settled_of_isOrderOn (hcomments : Sorting.IsOrderOn commentBefore script.comments)
    (hgroups : ∀ siblings, script.IsGroup siblings → Sorting.IsOrderOn siteBefore siblings) :
    script.settled = true :=
  settled_of_groups (Sorting.isSome_sort?_of_isOrderOn hcomments) fun siblings hgroup =>
    Sorting.isSome_sort?_of_isOrderOn (hgroups siblings hgroup)

end Script
end MarkupJsx
