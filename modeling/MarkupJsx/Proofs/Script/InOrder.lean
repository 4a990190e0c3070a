import MarkupJsx.Proofs.Script.Settling
import MarkupJsx.Script.InsertionSort

/-!
# No comment is placed twice, out of order or changed

The comments of the output are read off its nodes alone, along the way that the walk took: for each
node those that stand before it, then those of the nodes inside it, then its others
(`Script.collected`).  What is read in this way, with what the walk has dropped at the start of the
script in front of it and what it has dropped at the end behind it, is one copy of each of the
comments that come first in their sorted order (`attach_in_order`).  What that order is depends on
the sort where the comments are in no order of their own, and so does the way of the walk; no more
is needed of the sort than that it loses nothing.

The argument has two halves.  The walk deals the comments out in their order (`deal_split`).  And no
event has its owner and its side in common with another (`nodup_labels`), so that reading the nodes
side by side finds the copies in the order in which they were made (`deal_regroup`).  The second
half rests on the ways to the nodes being different.
-/

namespace MarkupJsx
namespace Script

/-! ## The labels of the events -/

/-- The two sides of a node. -/
def sides (path : Path) : List (Option Path × Bool) :=
  [(some path, true), (some path, false)]

mutual

theorem Site.perm_labels (site : Site) :
    (site.events.map Event.label).Perm ((site.nodes.map Prod.fst).flatMap sides) := by
  match site with
  | .mk path fields inner =>
    rw [Site.events, Site.nodes, List.map_cons, List.map_append, List.map_singleton, List.map_cons,
      List.flatMap_cons]
    refine List.Perm.cons _ (List.perm_append_comm.trans ?_)
    exact (perm_labels_eventsOf inner).cons _

theorem perm_labels_eventsOf (sites : List Site) :
    ((eventsOf sites).map Event.label).Perm ((pathsOf sites).flatMap sides) := by
  match sites with
  | [] => exact List.Perm.refl _
  | site :: rest =>
    rw [eventsOf, pathsOf, nodesOf, List.map_append, List.map_append, List.flatMap_append]
    exact (Site.perm_labels site).append (perm_labels_eventsOf rest)

end

/-- The sides of different nodes are different. -/
theorem nodup_sides {paths : List Path} (h : paths.Nodup) : (paths.flatMap sides).Nodup := by
  induction paths with
  | nil => exact List.nodup_nil
  | cons path rest ih =>
    rw [List.nodup_cons] at h
    rw [List.flatMap_cons, List.nodup_append]
    refine ⟨by simp [sides], ih h.2, ?_⟩
    rintro label hlabel other hother rfl
    obtain ⟨way, hway, hside⟩ := List.mem_flatMap.1 hother
    have howner : label.1 = some path := by
      rcases List.mem_pair.1 hlabel with rfl | rfl <;> rfl
    have hown : label.1 = some way := by
      rcases List.mem_pair.1 hside with rfl | rfl <;> rfl
    exact h.1 (Option.some_inj.1 (howner.symm.trans hown) ▸ hway)

/-- **Nothing is passed twice:** no two events have the same owner and the same side. -/
theorem nodup_labels [Sorter] (script : Script) : (script.events.map Event.label).Nodup := by
  have hperm := perm_labels_eventsOf script.route
  have hinner : ((eventsOf script.route).map Event.label).Nodup :=
    hperm.nodup_iff.2 (nodup_sides ((perm_pathsOf_route script).nodup_iff.2 (nodup_paths script)))
  have hnone : ∀ side : Bool, (none, side) ∉ (eventsOf script.route).map Event.label := by
    intro side hmem
    obtain ⟨way, -, hside⟩ := List.mem_flatMap.1 (hperm.mem_iff.1 hmem)
    rcases List.mem_pair.1 hside with h | h <;>
      exact Option.some_ne_none way (congrArg Prod.fst h).symm
  rw [events, List.map_cons, List.map_append, List.map_singleton, List.nodup_cons,
    List.nodup_append]
  refine ⟨fun hmem => ?_, hinner, List.pairwise_singleton _ _, ?_⟩
  · rcases List.mem_append.1 hmem with h | h
    · exact hnone true h
    · exact Bool.noConfusion (congrArg Prod.snd (List.mem_singleton.1 h))
  · rintro label hlabel other hother rfl
    rw [List.mem_singleton.1 hother] at hlabel
    exact hnone false hlabel

/-! ## Reading the comments off the nodes -/

/-- The comments written to the node at the end of a way. -/
def commentsAt (script : Script) (path : Path) : List Json :=
  (((script.nodes.lookup path).bind (Entries.get? commentsKey)).bind Json.array?).getD []

/-- Whether a written comment is marked as standing before its node. -/
def isLeading (value : Json) : Bool :=
  (value.field? "leading").bind Json.bool? = some true

/-- The written comments of one side: those that stand before their node, or the others. -/
def onSide (leading : Bool) (values : List Json) : List Json :=
  values.filter fun value => isLeading value = leading

mutual

/-- The comments of a node and of the nodes inside it, as they are met on the way through it. -/
def Site.collect (read : Path → List Json) : Site → List Json
  | .mk path _ inner =>
    onSide true (read path) ++ (collectAll read inner ++ onSide false (read path))
termination_by structural site => site

/-- The comments of nodes, as they are met on the way through one after the other. -/
def collectAll (read : Path → List Json) : List Site → List Json
  | [] => []
  | site :: rest => site.collect read ++ collectAll read rest
termination_by structural sites => sites

end

/-- The comments that the nodes of a script have once they are placed, as they are met along the
route. -/
def collected [Sorter] (script attached : Script) : List Json :=
  collectAll attached.commentsAt script.route

section Collect

variable (read : Path → List Json)

mutual

/-- However they are collected, each comment is collected once for each time it is on a node. -/
theorem Site.perm_collect (site : Site) :
    (site.collect read).Perm ((site.nodes.map Prod.fst).flatMap read) := by
  match site with
  | .mk path fields inner =>
    have hsides : (onSide true (read path) ++ onSide false (read path)).Perm (read path) := by
      have h := List.filter_append_perm (fun value => isLeading value = true) (read path)
      refine List.Perm.trans (List.Perm.of_eq ?_) h
      simp [onSide]
    rw [Site.collect, Site.nodes, List.map_cons, List.flatMap_cons]
    refine (List.perm_append_comm.append_left _).trans ?_
    rw [← List.append_assoc]
    exact hsides.append (perm_collectAll inner)

theorem perm_collectAll (sites : List Site) :
    (collectAll read sites).Perm ((pathsOf sites).flatMap read) := by
  match sites with
  | [] => exact List.Perm.refl _
  | site :: rest =>
    rw [collectAll, pathsOf, nodesOf, List.map_append, List.flatMap_append]
    exact (Site.perm_collect site).append (perm_collectAll rest)

end

variable {read} {copies : List Copy}

mutual

/-- Where each node has the copies that are put on it, the copies are collected event by event. -/
theorem Site.collect_eq (site : Site)
    (h : ∀ path ∈ site.nodes.map Prod.fst, ∀ side : Bool, onSide side (read path) =
      (copies.filter (isAt (some path, side))).map fun copy => copy.2.toJson) :
    site.collect read =
      (site.events.flatMap fun event => copies.filter (isAt event.label)).map
        fun copy => copy.2.toJson := by
  match site with
  | .mk path fields inner =>
    rw [Site.nodes, List.map_cons, List.forall_mem_cons] at h
    rw [Site.collect, Site.events, List.flatMap_cons, List.flatMap_append, List.flatMap_singleton,
      List.map_append, List.map_append, h.1 true, h.1 false, collectAll_eq inner h.2]
    rfl

theorem collectAll_eq (sites : List Site)
    (h : ∀ path ∈ pathsOf sites, ∀ side : Bool, onSide side (read path) =
      (copies.filter (isAt (some path, side))).map fun copy => copy.2.toJson) :
    collectAll read sites =
      ((eventsOf sites).flatMap fun event => copies.filter (isAt event.label)).map
        fun copy => copy.2.toJson := by
  match sites with
  | [] => rfl
  | site :: rest =>
    rw [pathsOf, nodesOf, List.map_append, List.forall_mem_append] at h
    rw [collectAll, eventsOf, List.flatMap_append, List.map_append, Site.collect_eq site h.1,
      collectAll_eq rest h.2]

end

end Collect

/-- A written comment tells on which side it stands, if it is marked. -/
theorem isLeading_toJson {comment : Comment} {leading : Bool}
    (h : comment.leading = some leading) : isLeading comment.toJson = leading := by
  rw [isLeading, Comment.toJson, h]
  cases leading <;> rfl

/-- The copies for a node, side by side. -/
theorem onSide_copiesFor {copies : List Copy}
    (h : ∀ copy ∈ copies, ∃ leading, copy.2.leading = some leading) (path : Path) (side : Bool) :
    onSide side ((copiesFor copies path).map Comment.toJson) =
      (copies.filter (isAt (some path, side))).map fun copy => copy.2.toJson := by
  rw [onSide, copiesFor, List.map_map, List.filter_map, List.filter_filter]
  refine congrArg (List.map _) (List.filter_congr fun copy hcopy => ?_)
  obtain ⟨leading, hleading⟩ := h copy hcopy
  simp [isAt, isLeading_toJson hleading, hleading, Bool.and_comm]

/-- A node is found by the way to it. -/
theorem commentsAt_of_mem (script : Script) {node : Path × Entries Json}
    (h : node ∈ script.nodes) : script.commentsAt node.1 =
      ((Entries.get? commentsKey node.2).bind Json.array?).getD [] := by
  obtain ⟨before, after, hsplit⟩ := List.append_of_mem h
  have hnodup := nodup_paths script
  rw [hsplit, List.map_append, List.nodup_append] at hnodup
  have hlookup : script.nodes.lookup node.1 = some node.2 := by
    refine List.lookup_eq_some_iff.2 ⟨before, after, hsplit, fun other hother => ?_⟩
    rw [bne_iff_ne]
    exact (hnodup.2.2 other.1 (List.mem_map_of_mem hother) node.1 List.mem_cons_self).symm
  rw [commentsAt, hlookup, Option.bind_some]

/-- What is on a node in the output, if there was nothing on it before. -/
theorem commentsAt_annotated [Sorter] (script : Script) {node : Path × Entries Json}
    (h : node ∈ script.nodes) (hbare : Entries.get? commentsKey node.2 = none) :
    script.annotated.commentsAt node.1 =
      (copiesFor script.walk.1 node.1).map Comment.toJson := by
  have hmem : annotateNode (copiesFor script.walk.1) node ∈ script.annotated.nodes := by
    rw [nodes_annotated]
    exact List.mem_map_of_mem h
  refine (commentsAt_of_mem script.annotated hmem).trans ?_
  rw [get?_comments_annotateNode, hbare]
  cases copiesFor script.walk.1 node.1 <;> rfl

/-! ## The main statement -/

section Walk

variable [Sorter]

/-- The copies made by the walk are marked. -/
theorem exists_leading_of_mem_walk {script : Script} {copy : Copy} (h : copy ∈ script.walk.1) :
    ∃ leading, copy.2.leading = some leading := by
  rw [walk_eq_deal] at h
  obtain ⟨event, -, comment, rfl⟩ := exists_event_of_mem_deal h
  exact ⟨event.leading, rfl⟩

/-- A script with its comments placed has them in the order that the sort gives. -/
theorem sort?_comments_of_settled {script : Script} (h : script.settled = true) :
    Sorter.sort? commentBefore script.comments = some script.sortedComments ∨
      script.comments = [] := by
  rw [settled, Bool.or_eq_true, Bool.and_eq_true, Bool.and_eq_true, List.isEmpty_iff] at h
  rcases h with hnone | ⟨⟨hsorted, -⟩, -⟩
  · exact Or.inr hnone
  · obtain ⟨sorted, hsorted⟩ := Option.isSome_iff_exists.1 hsorted
    exact Or.inl (by rw [sortedComments, Sorting.sort, hsorted, Option.getD_some])

/-- **No comment is placed twice, out of order or changed.**

Let the nodes of a script have no comments at first, and its comments stand anywhere.  Where they
are placed, the comments have been sorted, in whatever way, and nothing was lost.  The copies made
by the walk, `before` at the start of the script, `placed` on its nodes and `after` at its end, are
copies of its comments, in their sorted order and from the first one on; the others are left.  What
is `placed` is what is found on the nodes of the output along the route, and every comment that is
found on any node is found there. -/
theorem attach_in_order (script attached : Script) (hattach : script.attach = some attached)
    (hbare : ∀ node ∈ script.nodes, Entries.get? commentsKey node.2 = none) :
    (Sorter.sort? commentBefore script.comments = some script.sortedComments ∨
        script.comments = []) ∧
      script.sortedComments.Perm script.comments ∧
      (script.collected attached).Perm
        ((attached.nodes.map Prod.fst).flatMap attached.commentsAt) ∧
      ∃ (before placed after : List Copy) (originals left : List Comment),
        script.walk = (before ++ (placed ++ after), left) ∧
        (∀ copy ∈ before, copy.1 = none ∧ copy.2.leading = some true) ∧
        (∀ copy ∈ after, copy.1 = none ∧ copy.2.leading = some false) ∧
        script.collected attached = placed.map (fun copy => copy.2.toJson) ∧
        script.sortedComments = originals ++ left ∧
        List.Forall₂ IsCopyOf ((before ++ (placed ++ after)).map Prod.snd) originals := by
  obtain ⟨hsettled, rfl⟩ := attach_eq_some_iff.1 hattach
  have hpaths : script.annotated.nodes.map Prod.fst = script.nodes.map Prod.fst := by
    rw [nodes_annotated, List.map_map]
    rfl
  have hread : ∀ path ∈ pathsOf script.route, ∀ side : Bool,
      onSide side (script.annotated.commentsAt path) =
        (script.walk.1.filter (isAt (some path, side))).map fun copy => copy.2.toJson := by
    intro path hpath side
    obtain ⟨node, hnode, rfl⟩ := List.mem_map.1 ((perm_pathsOf_route script).mem_iff.1 hpath)
    rw [commentsAt_annotated script hnode (hbare node hnode)]
    exact onSide_copiesFor (fun _ => exists_leading_of_mem_walk) node.1 side
  have hregroup := deal_regroup (nodup_labels script) script.sortedComments
  rw [← walk_eq_deal, events, List.flatMap_cons, List.flatMap_append, List.flatMap_singleton]
    at hregroup
  obtain ⟨originals, hsplit, hcopies⟩ := deal_split script.events script.sortedComments
  rw [← walk_eq_deal] at hsplit hcopies
  refine ⟨sort?_comments_of_settled hsettled, Sorting.perm_sort _ _, ?_, _, _, _, originals,
    script.walk.2, Prod.ext hregroup.symm rfl,
    fun copy hcopy => isAt_iff.1 (List.mem_filter.1 hcopy).2,
    fun copy hcopy => isAt_iff.1 (List.mem_filter.1 hcopy).2,
    collectAll_eq script.route hread, hsplit, ?_⟩
  · rw [hpaths]
    exact (perm_collectAll _ _).trans ((perm_pathsOf_route script).flatMap_right _)
  · rw [hregroup]
    exact hcopies

end Walk

/-- A node with a start but no end, around a node with a line and a column only, and three comments:
the first one starts before the outer node, and the second one, which says nothing of where it is,
holds up the third. -/
def mixedScript : Script where
  body := [.object [("type", .string "A"), ("start", .ofNat 4),
    ("items", .array [.object [("type", .string "B"),
      ("loc", .object [("start", .object [("line", .ofNat 1), ("column", .ofNat 2)])])]])]]
  comments := [
    { kind := .line, text := "a", origin := { span := { start := some 1 } } },
    { kind := .block, text := "b" },
    { kind := .line, text := "c", origin := { span := { start := some 2 } } }]

open scoped Sorting.Insertion in
theorem attach_in_order_mixedScript :
    mixedScript.attach = some mixedScript.annotated ∧
      (∀ node ∈ mixedScript.nodes, Entries.get? commentsKey node.2 = none) ∧
      (∃ originals, mixedScript.sortedComments = originals ++ mixedScript.walk.2 ∧
        List.Forall₂ IsCopyOf (mixedScript.walk.1.map Prod.snd) originals) ∧
      ((mixedScript.collected mixedScript.annotated).map fun value =>
        (value.field? "value").bind Json.string?) = [some "a"] ∧
      mixedScript.walk.2.map Comment.text = ["b", "c"] := by
  have attached : mixedScript.attach = some mixedScript.annotated :=
    attach_of_settled (by decide +kernel)
  have bare : ∀ node ∈ mixedScript.nodes, Entries.get? commentsKey node.2 = none := by
    decide +kernel
  obtain ⟨-, -, -, before, placed, after, originals, left, hwalk, -, -, -, hsplit, hcopies⟩ :=
    attach_in_order mixedScript mixedScript.annotated attached bare
  refine ⟨attached, bare, ⟨originals, ?_, ?_⟩, by decide +kernel, by decide +kernel⟩
  · rw [hwalk]
    exact hsplit
  · rw [hwalk]
    exact hcopies

end Script
end MarkupJsx
