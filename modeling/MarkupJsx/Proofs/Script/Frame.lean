import MarkupJsx.Proofs.Script.Settling
import MarkupJsx.Script.InsertionSort

/-!
# Placing comments touches nothing else

What is written to a script when its comments are placed is the field `comments` of some of its
nodes.  `bare` takes that field from all nodes that the walk can reach and leaves everything else,
so that a script and its annotated form have the same bare form: the same statements, and in them
the same fields in the same order.

## Why a second placement changes nothing

The walk of the annotated script has to put the same comments on the same nodes.  This is not plain,
since a node can stand where another node says its place: under `loc`, under `start`, or as an item
of `range`.  Comments are then written into the very value that a place is read from.  But only
numbers are read there, none of them under `comments`, and a node is no number (`Commented`).  So
both scripts have the same events (`events_annotated`), hence the same walk (`walk_annotated`), and
writing the same comments over themselves leaves them as they are (`annotate_annotate`).  What has
to be sorted compares as before, so that a sort that did not give up does not give up now
(`settled_annotated`).

## Giving up

A sort may give up on comments and nodes that are in no order, and then the comments are not placed
at all (`attach_scatteredScript`).
-/

namespace MarkupJsx
namespace Script

/-! ## What is left without the comments -/

mutual

/-- A value without the comments of its nodes. -/
def bare (inArray : Bool) : Json → Json
  | .object fields => if Json.isNode fields then .object (bareFields fields) else .object fields
  | .array items => if inArray then .array items else .array (bareItems items)
  | value => value
termination_by structural value => value

/-- The fields of a node without its comments, and without those of the nodes in them. -/
def bareFields : List (String × Json) → List (String × Json)
  | [] => []
  | (key, value) :: rest =>
    if key = commentsKey then bareFields rest else (key, bare false value) :: bareFields rest
termination_by structural fields => fields

/-- Items without the comments of the nodes among them. -/
def bareItems : List Json → List Json
  | [] => []
  | item :: rest => bare true item :: bareItems rest
termination_by structural items => items

end

theorem bareItems_eq_map (items : List Json) : bareItems items = items.map (bare true) := by
  induction items with
  | nil => rfl
  | cons item rest ih => rw [bareItems, ih, List.map_cons]

theorem bareFields_writeComments (comments : List Comment) (fields : Entries Json) :
    bareFields (writeComments comments fields) = bareFields fields := by
  cases comments with
  | nil => rfl
  | cons first others =>
    show bareFields (Entries.insert commentsKey _ fields) = _
    induction fields with
    | nil => exact if_pos rfl
    | cons head rest ih =>
      obtain ⟨key, old⟩ := head
      by_cases hkey : key = commentsKey
      · rw [Entries.insert_cons, if_pos hkey, bareFields, if_pos hkey, bareFields, if_pos hkey]
      · rw [Entries.insert_cons, if_neg hkey, bareFields, if_neg hkey, bareFields, if_neg hkey, ih]

section Annotate

variable (comments : Path → List Comment)

mutual

theorem bare_annotate (path : Path) (inArray : Bool) (value : Json) :
    bare inArray (annotate comments path inArray value) = bare inArray value := by
  match value with
  | .object fields =>
    rw [annotate]
    by_cases hnode : Json.isNode fields
    · rw [if_pos hnode, bare, isNode_writeComments, if_pos hnode, bareFields_writeComments,
        bareFields_annotateFields path 0 fields, bare, if_pos hnode]
    · rw [if_neg hnode]
  | .array items =>
    rw [annotate]
    cases inArray with
    | true => rfl
    | false => exact congrArg Json.array (bareItems_annotateItems path 0 items)
  | .null => rfl
  | .bool _ => rfl
  | .number _ => rfl
  | .string _ => rfl

theorem bareFields_annotateFields (path : Path) (index : Nat) (fields : List (String × Json)) :
    bareFields (annotateFields comments path index fields) = bareFields fields := by
  match fields with
  | [] => rfl
  | (key, value) :: rest =>
    rw [annotateFields, bareFields, bareFields, bareFields_annotateFields path (index + 1) rest]
    by_cases hkey : key = commentsKey
    · rw [if_pos hkey, if_pos hkey]
    · rw [if_neg hkey, if_neg hkey, if_neg hkey, bare_annotate (path ++ [index]) false value]

theorem bareItems_annotateItems (path : Path) (index : Nat) (items : List Json) :
    bareItems (annotateItems comments path index items) = bareItems items := by
  match items with
  | [] => rfl
  | item :: rest =>
    rw [annotateItems, bareItems, bareItems, bare_annotate (path ++ [index]) true item,
      bareItems_annotateItems path (index + 1) rest]

end

/-- The names of the fields of a node stay as they are if no comments are written to it. -/
theorem keys_annotateFields (path : Path) (index : Nat) (fields : Entries Json) :
    Entries.keys (annotateFields comments path index fields) = Entries.keys fields := by
  induction fields generalizing index with
  | nil => rfl
  | cons head rest ih => exact congrArg (head.1 :: ·) (ih (index + 1))

end Annotate

/-- **A script and its annotated form differ in the comments of nodes alone.** -/
theorem bare_annotated [Sorter] (script : Script) :
    script.annotated.body.map (bare true) = script.body.map (bare true) := by
  rw [← bareItems_eq_map, ← bareItems_eq_map]
  exact bareItems_annotateItems _ [] 0 script.body

/-! ## Places are read past the comments -/

/-- A value as it was, or with comments written to the nodes in it. -/
inductive Commented (before : Json) : Json → Prop where
  | same : Commented before before
  | annotated (comments : Path → List Comment) (path : Path) (inArray : Bool) :
    Commented before (annotate comments path inArray before)

/-- What is read of a value, and what is read of the same value with comments. -/
abbrev CommentedPart : Option Json → Option Json → Prop :=
  Option.Rel Commented

theorem CommentedPart.refl (part : Option Json) : CommentedPart part part := by
  cases part with
  | none => exact .none
  | some value => exact .some .same

theorem getElem?_annotateItems (comments : Path → List Comment) (path : Path) (index : Nat)
    (items : List Json) (i : Nat) :
    (annotateItems comments path index items)[i]? =
      items[i]?.map (annotate comments (path ++ [index + i]) true) := by
  induction items generalizing index i with
  | nil => rfl
  | cons item rest ih =>
    rw [annotateItems]
    cases i with
    | zero => rfl
    | succ i =>
      rw [List.getElem?_cons_succ, List.getElem?_cons_succ, ih, Nat.add_right_comm,
        Nat.add_assoc]

theorem get?_annotateFields {key : String} (hkey : key ≠ commentsKey)
    (comments : Path → List Comment) (path : Path) (index : Nat) (fields : Entries Json) :
    CommentedPart (Entries.get? key fields)
      (Entries.get? key (annotateFields comments path index fields)) := by
  induction fields generalizing index with
  | nil => exact .none
  | cons head rest ih =>
    obtain ⟨k, value⟩ := head
    rw [annotateFields, Entries.get?_cons, Entries.get?_cons]
    by_cases h : key = k
    · have hk : ¬k = commentsKey := fun hk => hkey (h.trans hk)
      rw [if_pos h, if_pos h, if_neg hk]
      exact .some (.annotated comments (path ++ [index]) false)
    · rw [if_neg h, if_neg h]
      exact ih (index + 1)

/-- A field of a node other than `comments`. -/
theorem get?_annotateNode {key : String} (hkey : key ≠ commentsKey)
    (comments : Path → List Comment) (node : Path × Entries Json) :
    CommentedPart (Entries.get? key node.2) (Entries.get? key (annotateNode comments node).2) := by
  rw [annotateNode, get?_writeComments hkey]
  exact get?_annotateFields hkey comments node.1 0 node.2

namespace Commented

variable {before after : Json} (h : Commented before after)
include h

/-- What is read of values other than arrays and objects is read past the comments. -/
theorem scalar {α : Type} {read : Json → Option α} (harray : ∀ items, read (.array items) = none)
    (hobject : ∀ fields, read (.object fields) = none) : read after = read before := by
  cases h with
  | same => rfl
  | annotated comments path inArray =>
    cases before with
    | object fields =>
      rw [annotate]
      split
      · rw [hobject, hobject]
      · rfl
    | array items =>
      rw [annotate]
      split
      · rfl
      · rw [harray, harray]
    | null => rfl
    | bool value => rfl
    | number value => rfl
    | string value => rfl

theorem binary64? : after.binary64? = before.binary64? :=
  h.scalar (fun _ => rfl) fun _ => rfl

theorem item? (index : Nat) : CommentedPart (before.item? index) (after.item? index) := by
  cases h with
  | same => exact .refl _
  | annotated comments path inArray =>
    cases before with
    | array items =>
      rw [annotate]
      split
      · exact .refl _
      · show CommentedPart items[index]? (annotateItems comments path 0 items)[index]?
        rw [getElem?_annotateItems]
        cases items[index]? with
        | none => exact .none
        | some item => exact .some (.annotated comments _ true)
    | object fields => rw [annotate]; split <;> exact .none
    | null => exact .none
    | bool value => exact .none
    | number value => exact .none
    | string value => exact .none

theorem field? {key : String} (hkey : key ≠ commentsKey) :
    CommentedPart (before.field? key) (after.field? key) := by
  cases h with
  | same => exact .refl _
  | annotated comments path inArray =>
    cases before with
    | object fields =>
      rw [annotate]
      split
      · exact get?_annotateNode hkey comments (path, fields)
      · exact .refl _
    | array items => rw [annotate]; split <;> exact .none
    | null => exact .none
    | bool value => exact .none
    | number value => exact .none
    | string value => exact .none

end Commented

namespace CommentedPart

variable {before after : Option Json} (h : CommentedPart before after)
include h

theorem binary64? : after.bind Json.binary64? = before.bind Json.binary64? := by
  cases h with
  | none => rfl
  | some h => exact h.binary64?

theorem item? (index : Nat) :
    CommentedPart (before.bind (Json.item? index)) (after.bind (Json.item? index)) := by
  cases h with
  | none => exact .none
  | some h => exact h.item? index

theorem field? {key : String} (hkey : key ≠ commentsKey) :
    CommentedPart (before.bind (Json.field? key)) (after.bind (Json.field? key)) := by
  cases h with
  | none => exact .none
  | some h => exact h.field? hkey

end CommentedPart

theorem name_ne_commentsKey (edge : Edge) : edge.name ≠ commentsKey := by
  cases edge <;> decide

/-- The line and the column in one of the two places of `loc`. -/
def lineColumnOf? (place : Json) : Option (Binary64 × Binary64) := do
  let line ← (place.field? "line").bind Json.binary64?
  let column ← (place.field? "column").bind Json.binary64?
  some (line, column)

theorem locationOf?_eq (edge : Edge) (fields : Entries Json) :
    Place.locationOf? edge fields =
      ((Entries.get? "loc" fields).bind (Json.field? edge.name)).bind lineColumnOf? := by
  rw [Option.bind_assoc, Place.locationOf?]
  rfl

theorem CommentedPart.lineColumnOf? {before after : Option Json} (h : CommentedPart before after) :
    after.bind Script.lineColumnOf? = before.bind Script.lineColumnOf? := by
  cases h with
  | none => rfl
  | some h =>
    have hline := (h.field? (by decide : "line" ≠ commentsKey)).binary64?
    have hcolumn := (h.field? (by decide : "column" ≠ commentsKey)).binary64?
    rw [Option.bind_some, Option.bind_some, Script.lineColumnOf?, hline, hcolumn]
    rfl

/-- **A node stands where it stood.** -/
theorem ofFields_annotateNode (comments : Path → List Comment) (node : Path × Entries Json)
    (edge : Edge) :
    Place.ofFields edge (annotateNode comments node).2 = Place.ofFields edge node.2 := by
  have hrange := (get?_annotateNode (by decide : "range" ≠ commentsKey) comments node).item?
    edge.index
  have hlocation := (get?_annotateNode (by decide : "loc" ≠ commentsKey) comments node).field?
    (name_ne_commentsKey edge)
  have hoffset := get?_annotateNode (name_ne_commentsKey edge) comments node
  rw [Place.ofFields, hrange.binary64?, locationOf?_eq, hlocation.lineColumnOf?,
    ← locationOf?_eq, hoffset.binary64?]
  rfl

/-! ## The walk of the annotated script -/

section Walk

variable (comments : Path → List Comment)

theorem Site.place_annotated (site : Site) (edge : Edge) :
    (site.annotated comments).place edge = site.place edge := by
  cases site with
  | mk path fields inner => exact ofFields_annotateNode comments (path, fields) edge

theorem siteBefore_annotated (left right : Site) :
    siteBefore (left.annotated comments) (right.annotated comments) = siteBefore left right := by
  rw [siteBefore, siteBefore, Site.place_annotated, Site.place_annotated]

theorem isEmpty_annotatedAll (sites : List Site) :
    (annotatedAll comments sites).isEmpty = sites.isEmpty := by
  rw [annotatedAll_eq_map, List.isEmpty_map]

mutual

theorem Site.events_annotated (site : Site) :
    (site.annotated comments).events = site.events := by
  match site with
  | .mk path fields inner =>
    have hplace := ofFields_annotateNode comments (path, fields)
    rw [Site.annotated, Site.events, Site.events, hplace .start, hplace .stop,
      isEmpty_annotatedAll, eventsOf_annotatedAll inner]

theorem eventsOf_annotatedAll (sites : List Site) :
    eventsOf (annotatedAll comments sites) = eventsOf sites := by
  match sites with
  | [] => rfl
  | site :: rest =>
    rw [annotatedAll, eventsOf, eventsOf, Site.events_annotated site, eventsOf_annotatedAll rest]

end

mutual

/-- The walk enters the same nodes. -/
theorem Site.entered_annotated (site : Site) (line : List Comment) :
    (site.annotated comments).entered line = site.entered line := by
  match site with
  | .mk path fields inner =>
    have hplace := ofFields_annotateNode comments (path, fields) .start
    rw [Site.annotated, Site.entered, Site.entered, hplace, enteredAll_annotatedAll inner]

theorem enteredAll_annotatedAll (sites : List Site) (line : List Comment) :
    enteredAll (annotatedAll comments sites) line = enteredAll sites line := by
  match sites with
  | [] => rfl
  | site :: rest =>
    rw [annotatedAll, enteredAll, enteredAll, Site.entered_annotated site, Site.walk_eq_deal,
      Site.walk_eq_deal, Site.events_annotated, enteredAll_annotatedAll rest]

end

variable [Sorter]

/-- Siblings are arranged by their places, which comments do not change. -/
theorem arrange_annotatedAll (sites : List Site) :
    arrange (annotatedAll comments sites) = annotatedAll comments (arrange sites) := by
  rw [annotatedAll_eq_map, annotatedAll_eq_map, arrange, Sorting.sort_map]
  simp only [siteBefore_annotated]
  rfl

theorem settles_annotatedAll (sites : List Site) :
    settles (annotatedAll comments sites) = settles sites := by
  rw [annotatedAll_eq_map, settles, Sorter.sort?_map, Option.isSome_map]
  simp only [siteBefore_annotated]
  rfl

mutual

theorem Site.unsettled_annotated (site : Site) :
    (site.annotated comments).unsettled = site.unsettled := by
  match site with
  | .mk path fields inner =>
    rw [Site.annotated, Site.unsettled, Site.unsettled, settles_annotatedAll,
      unsettledAll_annotatedAll inner]

theorem unsettledAll_annotatedAll (sites : List Site) :
    unsettledAll (annotatedAll comments sites) = unsettledAll sites := by
  match sites with
  | [] => rfl
  | site :: rest =>
    rw [annotatedAll, unsettledAll, unsettledAll, Site.unsettled_annotated site,
      unsettledAll_annotatedAll rest]

end

mutual

theorem Site.arranged_annotated (site : Site) :
    (site.annotated comments).arranged = site.arranged.annotated comments := by
  match site with
  | .mk path fields inner =>
    rw [Site.annotated, Site.arranged, Site.arranged, Site.annotated,
      arrangedAll_annotatedAll inner, arrange_annotatedAll]

theorem arrangedAll_annotatedAll (sites : List Site) :
    arrangedAll (annotatedAll comments sites) = annotatedAll comments (arrangedAll sites) := by
  match sites with
  | [] => rfl
  | site :: rest =>
    rw [annotatedAll, arrangedAll, arrangedAll, annotatedAll, Site.arranged_annotated site,
      arrangedAll_annotatedAll rest]

end

end Walk

section Output

variable [Sorter] (script : Script)

theorem route_annotated :
    script.annotated.route = annotatedAll (copiesFor script.walk.1) script.route := by
  rw [route, sites_annotated, arrangedAll_annotatedAll, arrange_annotatedAll]
  rfl

/-- **The walk passes the same starts and ends.** -/
theorem events_annotated : script.annotated.events = script.events := by
  rw [events, route_annotated, eventsOf_annotatedAll, isEmpty_annotatedAll]
  rfl

/-- **The walk of the annotated script puts the same comments on the same nodes.** -/
theorem walk_annotated : script.annotated.walk = script.walk := by
  rw [walk_eq_deal, walk_eq_deal, events_annotated]
  rfl

/-- **The sort gives up on the annotated script exactly if it gives up on the script.** -/
theorem settled_annotated : script.annotated.settled = script.settled := by
  rw [settled, entered, route_annotated, enteredAll_annotatedAll, sites_annotated,
    settles_annotatedAll, unsettledAll_annotatedAll]
  rfl

end Output

/-! ## Writing comments twice -/

theorem writeComments_writeComments (comments : List Comment) (fields : Entries Json) :
    writeComments comments (writeComments comments fields) = writeComments comments fields := by
  cases comments with
  | nil => rfl
  | cons first others => exact Entries.insert_insert_self commentsKey _ _ fields

/-- The comments of a node are not looked into, so they can be written before or after those of the
nodes inside it. -/
theorem annotateFields_writeComments (comments : Path → List Comment) (path : Path) (index : Nat)
    (own : List Comment) (fields : Entries Json) :
    annotateFields comments path index (writeComments own fields) =
      writeComments own (annotateFields comments path index fields) := by
  cases own with
  | nil => rfl
  | cons first others =>
    show annotateFields comments path index (Entries.insert commentsKey _ fields) =
      Entries.insert commentsKey _ (annotateFields comments path index fields)
    induction fields generalizing index with
    | nil => exact congrArg (fun value => [(commentsKey, value)]) (if_pos rfl)
    | cons head rest ih =>
      obtain ⟨key, old⟩ := head
      by_cases hkey : key = commentsKey
      · rw [Entries.insert_cons, if_pos hkey, annotateFields, annotateFields, if_pos hkey,
          if_pos hkey, Entries.insert_cons, if_pos hkey]
      · rw [Entries.insert_cons, if_neg hkey, annotateFields, annotateFields, if_neg hkey,
          Entries.insert_cons, if_neg hkey, ih]

section Twice

variable (comments : Path → List Comment)

mutual

theorem annotate_annotate (path : Path) (inArray : Bool) (value : Json) :
    annotate comments path inArray (annotate comments path inArray value) =
      annotate comments path inArray value := by
  match value with
  | .object fields =>
    by_cases hnode : Json.isNode fields
    · rw [annotate, if_pos hnode, annotate, isNode_writeComments, if_pos hnode,
        annotateFields_writeComments, annotateFields_annotateFields path 0 fields,
        writeComments_writeComments]
    · rw [annotate, if_neg hnode, annotate, if_neg hnode]
  | .array items =>
    cases inArray with
    | true => rfl
    | false => exact congrArg Json.array (annotateItems_annotateItems path 0 items)
  | .null => rfl
  | .bool _ => rfl
  | .number _ => rfl
  | .string _ => rfl

theorem annotateFields_annotateFields (path : Path) (index : Nat)
    (fields : List (String × Json)) :
    annotateFields comments path index (annotateFields comments path index fields) =
      annotateFields comments path index fields := by
  match fields with
  | [] => rfl
  | (key, value) :: rest =>
    rw [annotateFields, annotateFields, annotateFields_annotateFields path (index + 1) rest]
    by_cases hkey : key = commentsKey
    · rw [if_pos hkey, if_pos hkey]
    · rw [if_neg hkey, if_neg hkey, annotate_annotate (path ++ [index]) false value]

theorem annotateItems_annotateItems (path : Path) (index : Nat) (items : List Json) :
    annotateItems comments path index (annotateItems comments path index items) =
      annotateItems comments path index items := by
  match items with
  | [] => rfl
  | item :: rest =>
    rw [annotateItems, annotateItems, annotate_annotate (path ++ [index]) true item,
      annotateItems_annotateItems path (index + 1) rest]

end

end Twice

section Frame

variable [Sorter]

theorem annotatedBody_annotated (script : Script) :
    script.annotated.annotatedBody = script.annotatedBody := by
  rw [annotatedBody, walk_annotated]
  exact annotateItems_annotateItems _ [] 0 script.body

/-- **Placing the comments a second time changes nothing.** -/
theorem attach_attach {script attached : Script} (h : script.attach = some attached) :
    attached.attach = some attached := by
  obtain ⟨hsettled, rfl⟩ := attach_eq_some_iff.1 h
  refine (attach_of_settled ((settled_annotated script).trans hsettled)).trans ?_
  exact congrArg (fun body => some { script with body }) (annotatedBody_annotated script)

/-! ## The main statement -/

/-- **Placing comments touches nothing else.**

The comments of a script can be placed if there are none, or if the comments and the siblings to be
sorted are in an order; what the sort does to others is its own affair, and if it gives up, that is
all that can happen.  Where they are placed, the list of comments and the span stay as they are, and
so does the body, up to the comments of nodes: the same statements with the same fields in the same
order.  The nodes correspond one by one, each at the end of the same way, and a node on which no
comment is put keeps the names of its fields and what it had under `comments`.  Placing the comments
once more changes nothing at all. -/
theorem attach_frame (script : Script) :
    (script.comments = [] → script.attach.isSome) ∧
    (Sorting.IsOrderOn commentBefore script.comments →
      (∀ siblings, script.IsGroup siblings → Sorting.IsOrderOn siteBefore siblings) →
      script.attach.isSome) ∧
    ∀ attached, script.attach = some attached →
      attached.comments = script.comments ∧
      attached.span = script.span ∧
      attached.body.length = script.body.length ∧
      attached.body.map (bare true) = script.body.map (bare true) ∧
      List.Forall₂ (fun before after : Path × Entries Json =>
          after.1 = before.1 ∧
            (copiesFor script.walk.1 before.1 = [] →
              Entries.keys after.2 = Entries.keys before.2 ∧
                Entries.get? commentsKey after.2 = Entries.get? commentsKey before.2))
        script.nodes attached.nodes ∧
      attached.attach = some attached := by
  refine ⟨fun hnone => ?_, fun hcomments hgroups => ?_, fun attached hattach => ?_⟩
  · rw [isSome_attach, settled_of_comments_eq_nil hnone]
  · rw [isSome_attach, settled_of_isOrderOn hcomments hgroups]
  obtain ⟨-, rfl⟩ := attach_eq_some_iff.1 hattach
  have hbare := bare_annotated script
  refine ⟨rfl, rfl, ?_, hbare, ?_, attach_attach hattach⟩
  · have hlength := congrArg List.length hbare
    rwa [List.length_map, List.length_map] at hlength
  · rw [nodes_annotated, List.forall₂_map_right_iff, List.forall₂_same]
    intro node _
    refine ⟨rfl, fun hnone => ?_⟩
    have hfields : (annotateNode (copiesFor script.walk.1) node).2 =
        annotateFields (copiesFor script.walk.1) node.1 0 node.2 := by
      rw [annotateNode, hnone]
      rfl
    rw [hfields]
    exact ⟨keys_annotateFields _ _ _ _, get?_comments_annotateFields _ _ _ _⟩

end Frame

/-- A node that has comments already, and a node whose `loc` is a node: the one comment is put on
the latter, that is, into the value that the place of the outer node is read from. -/
def locatedScript : Script where
  body := [
    .object [("type", .string "A"), ("comments", .string "old"), ("start", .ofNat 0)],
    .object [("type", .string "B"), ("loc", .object [("type", .string "L"),
      ("range", Span.rangeToJson (7, 8)),
      ("start", .object [("line", .ofNat 1), ("column", .ofNat 0)])])]]
  comments := [{ kind := .line, text := "c", origin := { span := { range := some (5, 6) } } }]

open scoped Sorting.Insertion in
theorem attach_frame_locatedScript :
    locatedScript.attach = some locatedScript.annotated ∧
      locatedScript.annotated.attach = some locatedScript.annotated ∧
      (locatedScript.annotated.nodes.map fun node => (node.1, Entries.keys node.2)) =
        [([0], ["type", "comments", "start"]), ([1], ["type", "loc"]),
          ([1, 1], ["type", "range", "start", "comments"])] := by
  have attached : locatedScript.attach = some locatedScript.annotated :=
    attach_of_settled (by decide +kernel)
  obtain ⟨-, -, hframe⟩ := attach_frame locatedScript
  refine ⟨attached, (hframe _ attached).2.2.2.2.2, ?_⟩
  decide +kernel

/-- A script without statements and with comments that are in no order.  Most of them say nothing of
where they are, and so compare as equal to all others, of which some start before others. -/
def scatteredScript : Script where
  body := []
  comments := [some (10, 11), some (9, 10)] ++ List.replicate 8 none ++ [some (1, 2)] ++
    List.replicate 11 (some (5, 6)) |>.map fun range =>
      { kind := .block, text := "c", origin := { span := { range } } }

open scoped Sorting.Insertion in
/-- There is a sort that gives up on these comments, so they cannot be placed in general. -/
theorem attach_scatteredScript : scatteredScript.attach = none :=
  attach_of_not_settled (by decide +kernel)

end Script
end MarkupJsx
