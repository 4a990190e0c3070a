import MarkupJsx.Proofs.Script.Dealing

/-!
# The nodes of a script

`Script.nodes` lists the nodes that the walk can reach: the objects with a text under `type`, found
through fields and through the arrays in fields, but never through `comments`.  Each of them is
listed with the way to it.

* `nodup_paths`: **no two nodes have the same way to them.**
* `nodes_annotated`: placing comments leaves the nodes where they are.  The fields of a node are
  those that it had, with its comments written to them.
* `get?_comments_annotateNode`: so the comments placed on a node are those under its `comments`.
-/

namespace MarkupJsx

namespace Script

/-! ## The list of nodes -/

mutual

/-- A node and the nodes inside it, each with the way to it. -/
def Site.nodes : Site → List (Path × Entries Json)
  | .mk path fields inner => (path, fields) :: nodesOf inner
termination_by structural site => site

/-- Nodes and the nodes inside them. -/
def nodesOf : List Site → List (Path × Entries Json)
  | [] => []
  | site :: rest => site.nodes ++ nodesOf rest
termination_by structural sites => sites

end

/-- The nodes of a script. -/
def nodes (script : Script) : List (Path × Entries Json) :=
  nodesOf script.sites

theorem nodesOf_eq_flatMap (sites : List Site) : nodesOf sites = sites.flatMap Site.nodes := by
  induction sites with
  | nil => rfl
  | cons site rest ih => rw [nodesOf, ih, List.flatMap_cons]

@[simp] theorem nodesOf_append (sites others : List Site) :
    nodesOf (sites ++ others) = nodesOf sites ++ nodesOf others := by
  rw [nodesOf_eq_flatMap, nodesOf_eq_flatMap, nodesOf_eq_flatMap, List.flatMap_append]

/-! ## The nodes along the route -/

section Route

variable [Sorter]

theorem place_arranged (site : Site) (edge : Edge) :
    site.arranged.place edge = site.place edge := by
  cases site with
  | mk path fields inner =>
    rw [Site.arranged]
    rfl

theorem arrangedAll_eq_map (sites : List Site) : arrangedAll sites = sites.map Site.arranged := by
  induction sites with
  | nil => rfl
  | cons site rest ih => rw [arrangedAll, ih, List.map_cons]

/-- The order of siblings has no influence on which nodes there are. -/
theorem perm_nodesOf_arrange (sites : List Site) :
    (nodesOf (arrange sites)).Perm (nodesOf sites) := by
  rw [nodesOf_eq_flatMap, nodesOf_eq_flatMap]
  exact (Sorting.perm_sort _ sites).flatMap_right _

mutual

theorem Site.perm_nodes_arranged (site : Site) : site.arranged.nodes.Perm site.nodes := by
  match site with
  | .mk path fields inner =>
    rw [Site.arranged, Site.nodes, Site.nodes]
    exact ((perm_nodesOf_arrange _).trans (perm_nodesOf_arrangedAll inner)).cons _

theorem perm_nodesOf_arrangedAll (sites : List Site) :
    (nodesOf (arrangedAll sites)).Perm (nodesOf sites) := by
  match sites with
  | [] => exact List.Perm.refl _
  | site :: rest =>
    rw [arrangedAll, nodesOf, nodesOf]
    exact (Site.perm_nodes_arranged site).append (perm_nodesOf_arrangedAll rest)

end

/-- **The walk passes each node of the script.** -/
theorem perm_nodesOf_route (script : Script) : (nodesOf script.route).Perm script.nodes :=
  (perm_nodesOf_arrange _).trans (perm_nodesOf_arrangedAll script.sites)

end Route

mutual

theorem Site.exists_node_of_mem_events (site : Site) (event : Event Place)
    (h : event ∈ site.events) :
    ∃ node ∈ site.nodes, ∃ edge, event.place = .ofFields edge node.2 := by
  match site with
  | .mk path fields inner =>
    rw [Site.events] at h
    rcases List.mem_cons.1 h with rfl | h
    · exact ⟨(path, fields), List.mem_cons_self, .start, rfl⟩
    rcases List.mem_append.1 h with h | h
    · obtain ⟨node, hnode, hplace⟩ := exists_node_of_mem_eventsOf inner event h
      exact ⟨node, List.mem_cons_of_mem _ hnode, hplace⟩
    · rw [List.mem_singleton.1 h]
      exact ⟨(path, fields), List.mem_cons_self, .stop, rfl⟩

/-- What is passed at nodes is at an end of one of them. -/
theorem exists_node_of_mem_eventsOf (sites : List Site) (event : Event Place)
    (h : event ∈ eventsOf sites) :
    ∃ node ∈ nodesOf sites, ∃ edge, event.place = .ofFields edge node.2 := by
  match sites with
  | [] => exact (List.not_mem_nil h).elim
  | site :: rest =>
    rw [eventsOf] at h
    rcases List.mem_append.1 h with h | h
    · obtain ⟨node, hnode, hplace⟩ := Site.exists_node_of_mem_events site event h
      exact ⟨node, List.mem_append_left _ hnode, hplace⟩
    · obtain ⟨node, hnode, hplace⟩ := exists_node_of_mem_eventsOf rest event h
      exact ⟨node, List.mem_append_right _ hnode, hplace⟩

end

/-- What holds of the ends of the script and of its nodes holds wherever the walk passes. -/
theorem place_of_mem_events [Sorter] {script : Script} {P : Place → Prop}
    (hprogram : ∀ edge, P (.ofSpan edge script.span))
    (hnodes : ∀ node ∈ script.nodes, ∀ edge, P (.ofFields edge node.2)) :
    ∀ event ∈ script.events, P event.place := by
  intro event hevent
  rw [events] at hevent
  rcases List.mem_cons.1 hevent with rfl | hevent
  · exact hprogram .start
  rcases List.mem_append.1 hevent with hevent | hevent
  · obtain ⟨node, hnode, edge, hplace⟩ := exists_node_of_mem_eventsOf _ event hevent
    rw [hplace]
    exact hnodes node ((perm_nodesOf_route script).mem_iff.1 hnode) edge
  · rw [List.mem_singleton.1 hevent]
    exact hprogram .stop

/-! ## The ways to the nodes -/

/-- The ways to nodes. -/
def pathsOf (sites : List Site) : List Path :=
  (nodesOf sites).map Prod.fst

theorem perm_pathsOf_route [Sorter] (script : Script) :
    (pathsOf script.route).Perm (script.nodes.map Prod.fst) :=
  (perm_nodesOf_route script).map Prod.fst

@[simp] theorem pathsOf_append (sites others : List Site) :
    pathsOf (sites ++ others) = pathsOf sites ++ pathsOf others := by
  rw [pathsOf, nodesOf_append, List.map_append]
  rfl

/-- Ways that go on from a given one at an index from a given one on, no two of them the same. -/
def Branches (path : Path) (index : Nat) (paths : List Path) : Prop :=
  paths.Nodup ∧ ∀ way ∈ paths, ∃ i rest, index ≤ i ∧ way = path ++ i :: rest

theorem Branches.nil (path : Path) (index : Nat) : Branches path index [] :=
  ⟨List.nodup_nil, fun _ h => (List.not_mem_nil h).elim⟩

/-- What goes on at one index and what goes on at later ones. -/
theorem Branches.append {path : Path} {index : Nat} {first others : List Path}
    (hfirst : first.Nodup ∧ ∀ way ∈ first, ∃ rest, way = path ++ [index] ++ rest)
    (hothers : Branches path (index + 1) others) : Branches path index (first ++ others) := by
  refine ⟨List.nodup_append.2 ⟨hfirst.1, hothers.1, fun way hway other hother heq => ?_⟩,
    fun way hway => ?_⟩
  · obtain ⟨rest, hrest⟩ := hfirst.2 way hway
    obtain ⟨i, tail, hi, htail⟩ := hothers.2 other hother
    rw [← heq, hrest, List.append_assoc] at htail
    have hhead := (List.cons.inj (List.append_cancel_left htail)).1
    omega
  · rcases List.mem_append.1 hway with h | h
    · obtain ⟨rest, rfl⟩ := hfirst.2 way h
      exact ⟨index, rest, Nat.le_refl index, by rw [List.append_assoc]; rfl⟩
    · obtain ⟨i, rest, hi, rfl⟩ := hothers.2 way h
      exact ⟨i, rest, Nat.le_of_succ_le hi, rfl⟩

/-- What branches off from a way goes on from it. -/
theorem Branches.extends {path : Path} {index : Nat} {paths : List Path}
    (h : Branches path index paths) :
    paths.Nodup ∧ ∀ way ∈ paths, ∃ rest, way = path ++ rest := by
  refine ⟨h.1, fun way hway => ?_⟩
  obtain ⟨i, rest, -, rfl⟩ := h.2 way hway
  exact ⟨i :: rest, rfl⟩

mutual

/-- The ways to the nodes in a value go on from the way to the value. -/
theorem extends_sitesOf (path : Path) (inArray : Bool) (value : Json) :
    (pathsOf (sitesOf path inArray value)).Nodup ∧
      ∀ way ∈ pathsOf (sitesOf path inArray value), ∃ rest, way = path ++ rest := by
  match value with
  | .object fields =>
    rw [sitesOf]
    split
    · have hinner := branches_fieldSites path 0 fields
      have hpaths : pathsOf [.mk path fields (fieldSites path 0 fields)] =
          path :: pathsOf (fieldSites path 0 fields) := by
        rw [pathsOf, nodesOf, nodesOf, List.append_nil, Site.nodes]
        rfl
      rw [hpaths]
      refine ⟨List.nodup_cons.2 ⟨fun hpath => ?_, hinner.1⟩, fun way hway => ?_⟩
      · obtain ⟨i, rest, -, hway⟩ := hinner.2 path hpath
        exact List.cons_ne_nil _ _ (List.self_eq_append_right.1 hway)
      · rcases List.mem_cons.1 hway with rfl | hway
        · exact ⟨[], (List.append_nil _).symm⟩
        · exact hinner.extends.2 way hway
    · exact (Branches.nil path 0).extends
  | .array items =>
    rw [sitesOf]
    split
    · exact (Branches.nil path 0).extends
    · exact (branches_itemSites path 0 items).extends
  | .null => exact (Branches.nil path 0).extends
  | .bool _ => exact (Branches.nil path 0).extends
  | .number _ => exact (Branches.nil path 0).extends
  | .string _ => exact (Branches.nil path 0).extends

theorem branches_fieldSites (path : Path) (index : Nat) (fields : List (String × Json)) :
    Branches path index (pathsOf (fieldSites path index fields)) := by
  match fields with
  | [] => exact Branches.nil path index
  | (key, value) :: rest =>
    rw [fieldSites, pathsOf_append]
    refine Branches.append ?_ (branches_fieldSites path (index + 1) rest)
    split
    · exact (Branches.nil (path ++ [index]) 0).extends
    · exact extends_sitesOf (path ++ [index]) false value

theorem branches_itemSites (path : Path) (index : Nat) (items : List Json) :
    Branches path index (pathsOf (itemSites path index items)) := by
  match items with
  | [] => exact Branches.nil path index
  | item :: rest =>
    rw [itemSites, pathsOf_append]
    refine Branches.append ?_ (branches_itemSites path (index + 1) rest)
    exact extends_sitesOf (path ++ [index]) true item

end

/-- **No two nodes have the same way to them.** -/
theorem nodup_paths (script : Script) : (script.nodes.map Prod.fst).Nodup :=
  (branches_itemSites [] 0 script.body).1

/-! ## Placing comments leaves the nodes where they are -/

/-- What is written under `comments` is not looked into. -/
theorem fieldSites_insert (path : Path) (index : Nat) (value : Json) (fields : Entries Json) :
    fieldSites path index (Entries.insert commentsKey value fields) =
      fieldSites path index fields := by
  induction fields generalizing index with
  | nil => exact congrArg (· ++ []) (if_pos rfl)
  | cons head rest ih =>
    obtain ⟨key, old⟩ := head
    rw [Entries.insert_cons]
    split
    · rename_i hkey
      rw [fieldSites, fieldSites, if_pos hkey, if_pos hkey]
    · rw [fieldSites, fieldSites, ih]

theorem fieldSites_writeComments (path : Path) (index : Nat) (comments : List Comment)
    (fields : Entries Json) :
    fieldSites path index (writeComments comments fields) = fieldSites path index fields := by
  cases comments with
  | nil => rfl
  | cons first others => exact fieldSites_insert path index _ fields

/-- Writing comments to a node makes no other field of it different. -/
theorem get?_writeComments {key : String} (h : key ≠ commentsKey) (comments : List Comment)
    (fields : Entries Json) :
    Entries.get? key (writeComments comments fields) = Entries.get? key fields := by
  cases comments with
  | nil => rfl
  | cons first others => exact Entries.get?_insert_of_ne h _ fields

section Annotate

variable (comments : Path → List Comment)

theorem string?_annotate (path : Path) (inArray : Bool) (value : Json) :
    (annotate comments path inArray value).string? = value.string? := by
  cases value with
  | object fields => rw [annotate]; split <;> rfl
  | array items => rw [annotate]; split <;> rfl
  | null => rfl
  | bool value => rfl
  | number value => rfl
  | string value => rfl

theorem string?_annotateFields (path : Path) (index : Nat) (key : String)
    (fields : Entries Json) :
    (Entries.get? key (annotateFields comments path index fields)).bind Json.string? =
      (Entries.get? key fields).bind Json.string? := by
  induction fields generalizing index with
  | nil => rfl
  | cons head rest ih =>
    obtain ⟨k, value⟩ := head
    rw [annotateFields, Entries.get?_cons, Entries.get?_cons]
    split
    · rw [Option.bind_some, Option.bind_some]
      split
      · rfl
      · exact string?_annotate comments _ false value
    · exact ih (index + 1)

/-- The fields of a node with the comments of the node, and of the nodes inside it. -/
def annotateNode (node : Path × Entries Json) : Path × Entries Json :=
  (node.1, writeComments (comments node.1) (annotateFields comments node.1 0 node.2))

/-- A node stays a node, and nothing else becomes one. -/
theorem isNode_writeComments (path : Path) (fields : Entries Json) :
    Json.isNode (writeComments (comments path) (annotateFields comments path 0 fields)) =
      Json.isNode fields := by
  rw [Json.isNode, get?_writeComments (by decide), string?_annotateFields]
  rfl

mutual

/-- A node with its comments, and with those of the nodes inside it. -/
def Site.annotated : Site → Site
  | .mk path fields inner =>
    .mk path (annotateNode comments (path, fields)).2 (annotatedAll inner)
termination_by structural site => site

/-- Nodes with their comments, and with those of the nodes inside them. -/
def annotatedAll : List Site → List Site
  | [] => []
  | site :: rest => site.annotated :: annotatedAll rest
termination_by structural sites => sites

end

theorem annotatedAll_eq_map (sites : List Site) :
    annotatedAll comments sites = sites.map (Site.annotated comments) := by
  induction sites with
  | nil => rfl
  | cons site rest ih => rw [annotatedAll, ih, List.map_cons]

theorem annotatedAll_append (sites others : List Site) :
    annotatedAll comments (sites ++ others) =
      annotatedAll comments sites ++ annotatedAll comments others := by
  simp only [annotatedAll_eq_map, List.map_append]

mutual

/-- Writing comments moves no node, and the nodes inside a node stay inside it. -/
theorem sitesOf_annotate (path : Path) (inArray : Bool) (value : Json) :
    sitesOf path inArray (annotate comments path inArray value) =
      annotatedAll comments (sitesOf path inArray value) := by
  match value with
  | .object fields =>
    rw [annotate, sitesOf]
    split
    · rename_i h
      rw [sitesOf, isNode_writeComments, if_pos h, fieldSites_writeComments,
        fieldSites_annotateFields path 0 fields]
      rfl
    · rename_i h
      rw [sitesOf, if_neg h]
      rfl
  | .array items =>
    rw [annotate, sitesOf]
    split
    · rename_i h
      rw [sitesOf, if_pos h]
      rfl
    · rename_i h
      rw [sitesOf, if_neg h]
      exact itemSites_annotateItems path 0 items
  | .null => rfl
  | .bool _ => rfl
  | .number _ => rfl
  | .string _ => rfl

theorem fieldSites_annotateFields (path : Path) (index : Nat) (fields : List (String × Json)) :
    fieldSites path index (annotateFields comments path index fields) =
      annotatedAll comments (fieldSites path index fields) := by
  match fields with
  | [] => rfl
  | (key, value) :: rest =>
    rw [annotateFields, fieldSites, fieldSites, annotatedAll_append,
      fieldSites_annotateFields path (index + 1) rest]
    refine congrArg (· ++ _) ?_
    split
    · rfl
    · exact sitesOf_annotate (path ++ [index]) false value

theorem itemSites_annotateItems (path : Path) (index : Nat) (items : List Json) :
    itemSites path index (annotateItems comments path index items) =
      annotatedAll comments (itemSites path index items) := by
  match items with
  | [] => rfl
  | item :: rest =>
    rw [annotateItems, itemSites, itemSites, annotatedAll_append,
      itemSites_annotateItems path (index + 1) rest,
      sitesOf_annotate (path ++ [index]) true item]

end

mutual

theorem Site.nodes_annotated (site : Site) :
    (site.annotated comments).nodes = site.nodes.map (annotateNode comments) := by
  match site with
  | .mk path fields inner =>
    rw [Site.annotated, Site.nodes, Site.nodes, List.map_cons, nodesOf_annotatedAll inner]
    rfl

theorem nodesOf_annotatedAll (sites : List Site) :
    nodesOf (annotatedAll comments sites) = (nodesOf sites).map (annotateNode comments) := by
  match sites with
  | [] => rfl
  | site :: rest =>
    rw [annotatedAll, nodesOf, nodesOf, List.map_append, Site.nodes_annotated site,
      nodesOf_annotatedAll rest]

end

end Annotate

section Output

variable [Sorter]

theorem sites_annotated (script : Script) :
    script.annotated.sites = annotatedAll (copiesFor script.walk.1) script.sites :=
  itemSites_annotateItems _ [] 0 script.body

/-- **Placing comments leaves the nodes where they are,** with their comments written to them. -/
theorem nodes_annotated (script : Script) :
    script.annotated.nodes = script.nodes.map (annotateNode (copiesFor script.walk.1)) := by
  rw [nodes, sites_annotated, nodesOf_annotatedAll]
  rfl

end Output

/-! ## Reading the comments of a node -/

/-- What is under `comments` once comments have been placed on a node: an array of them, if there
are any, and what was there before otherwise. -/
def commentsField (placed : List Comment) (before : Option Json) : Option Json :=
  match placed with
  | [] => before
  | placed => some (.array (placed.map Comment.toJson))

theorem get?_comments_annotateFields (comments : Path → List Comment) (path : Path) (index : Nat)
    (fields : Entries Json) :
    Entries.get? commentsKey (annotateFields comments path index fields) =
      Entries.get? commentsKey fields := by
  induction fields generalizing index with
  | nil => rfl
  | cons head rest ih =>
    obtain ⟨key, value⟩ := head
    rw [annotateFields, Entries.get?_cons, Entries.get?_cons]
    split
    · rename_i hkey
      rw [if_pos hkey.symm]
    · exact ih (index + 1)

theorem get?_comments_annotateNode (comments : Path → List Comment)
    (node : Path × Entries Json) :
    Entries.get? commentsKey (annotateNode comments node).2 =
      commentsField (comments node.1) (Entries.get? commentsKey node.2) := by
  rw [annotateNode]
  cases comments node.1 with
  | nil => exact get?_comments_annotateFields comments node.1 0 node.2
  | cons first others => exact Entries.get?_insert_self commentsKey _ _

end Script
end MarkupJsx
