import MarkupJsx.Proofs.Script.Offsets
import MarkupJsx.Script.InsertionSort

/-!
# Each comment goes to the first event that it does not start behind

Where a script has offsets (`Measured`), the place of a comment depends on no other comment.  The
starts and the ends of the script and of its nodes form a timeline; siblings are in the order of
their starts, and the stable sort decides between those that start at the same offset.  Since
everything has an offset, every sort does this.  A comment is put on the node whose start or end is
the first event of the timeline with an offset that is at least the start of the comment
(`firstEvent`).  If this is the start or the end of the script, or if there is none, the comment is
put on no node.

The offsets along the timeline need not grow, since nothing is asked of the nodes: they may overlap,
or end before they start.  What carries the argument is that the comments are sorted.  The comments
that an event takes from the front of the line are then all those in the line that start no later
(`walk_eq_firstDue`), and the others go on to the later events as if this one had not been there.

* `timeline_route`: the walk passes the events of the timeline.
* `walk_eq_firstFits`: so it puts every comment at its first event.
* `attach_firstFit`: **what is on the nodes of the output.**
-/

namespace MarkupJsx
namespace Script

variable (source : OffsetSource)

/-! ## The timeline -/

/-- The offset of a place that has one. -/
def offsetOf (place : Place) : Nat :=
  (place.offset? source).getD 0

/-- The offset of an end of a span that has one. -/
def spanOffset (edge : Edge) (span : Span) : Nat :=
  (spanOffset? source edge span).getD 0

/-- Where a comment starts. -/
def startOffset (comment : Comment) : Nat :=
  spanOffset source .start comment.origin.span

/-- The timelines of siblings, each with the offset at which the sibling starts, as one timeline. -/
def inOrder (siblings : List (Nat × List (Event Nat))) : List (Event Nat) :=
  (siblings.mergeSort fun a b => a.1 ≤ b.1).flatMap Prod.snd

mutual

/-- The timeline of a node: its start, the timelines of the nodes inside it, its end. -/
def Site.timeline : Site → List (Event Nat)
  | .mk path fields inner =>
    .enter (some path) (offsetOf source (.ofFields .start fields)) ::
      (inOrder (timelines inner) ++
        [.leave (some path) (offsetOf source (.ofFields .stop fields)) (!inner.isEmpty)])
termination_by structural site => site

/-- The timelines of nodes, each with the offset at which the node starts. -/
def timelines : List Site → List (Nat × List (Event Nat))
  | [] => []
  | site :: rest => (offsetOf source (site.place .start), site.timeline) :: timelines rest
termination_by structural sites => sites

end

/-- The timeline of a script: its start, the timelines of its statements, its end. -/
def timeline (script : Script) : List (Event Nat) :=
  .enter none (spanOffset source .start script.span) ::
    (inOrder (timelines source script.sites) ++
      [.leave none (spanOffset source .stop script.span) (!script.sites.isEmpty)])

/-- The first event that is no earlier than an offset. -/
def firstEvent (timeline : List (Event Nat)) (offset : Nat) : Option (Event Nat) :=
  timeline.find? fun event => offset ≤ event.place

/-- The copy of a comment that is made at its first event, if it has one. -/
def firstFit (timeline : List (Event Nat)) (comment : Comment) : Option Copy :=
  (firstEvent timeline (startOffset source comment)).map fun event => event.copy comment

/-- The copies of all comments, in the order in which the comments start. -/
def firstFits (script : Script) : List Copy :=
  (script.comments.mergeSort fun a b => startOffset source a ≤ startOffset source b).filterMap
    (firstFit source (script.timeline source))

variable {source}

theorem offsetOf_eq {place : Place} {n : Nat} (h : place.offset? source = some n) :
    offsetOf source place = n := by
  rw [offsetOf, h, Option.getD_some]

theorem spanOffset_eq {edge : Edge} {span : Span} {n : Nat}
    (h : spanOffset? source edge span = some n) : spanOffset source edge span = n := by
  rw [spanOffset, h, Option.getD_some]

/-- An offset below `2 ^ 53` that a span says is that of its place. -/
theorem offset?_ofSpan_of_isSmall {edge : Edge} {span : Span}
    (h : isSmall (spanOffset? source edge span)) :
    (Place.ofSpan edge span).offset? source = some (spanOffset source edge span) := by
  obtain ⟨n, hn, hlt⟩ := exists_of_isSmall h
  rw [spanOffset_eq hn]
  exact Place.offset?_ofSpan hn hlt

theorem offset?_of_isSmall {place : Place} (h : isSmall (place.offset? source)) :
    place.offset? source = some (offsetOf source place) := by
  obtain ⟨n, hn, -⟩ := exists_of_isSmall h
  rw [offsetOf_eq hn, hn]

/-! ## The walk follows the timeline -/

/-- What is passed, with the offsets of the places. -/
def measure (source : OffsetSource) (events : List (Event Place)) : List (Event Nat) :=
  events.map (Event.map (offsetOf source))

theorem measure_append (events others : List (Event Place)) :
    measure source (events ++ others) = measure source events ++ measure source others :=
  List.map_append

theorem isEmpty_arrange_arrangedAll [Sorter] (sites : List Site) :
    (arrange (arrangedAll sites)).isEmpty = sites.isEmpty := by
  rw [arrange, (Sorting.perm_sort _ _).isEmpty_eq, arrangedAll_eq_map, List.isEmpty_map]

/-- Where a node starts, and what is passed there. -/
def Site.measured (source : OffsetSource) (site : Site) : Nat × List (Event Nat) :=
  (offsetOf source (site.place .start), measure source site.events)

/-- Siblings that say where they start are passed in the order in which they start. -/
theorem measure_eventsOf_arrange [Sorter] {sites : List Site}
    (h : ∀ site ∈ sites, isSmall ((site.place .start).offset? source)) :
    measure source (eventsOf (arrange sites)) = inOrder (sites.map (Site.measured source)) := by
  have harrange : arrange sites = sites.mergeSort fun a b =>
      offsetOf source (a.place .start) ≤ offsetOf source (b.place .start) := by
    refine Sorting.sort_eq_mergeSort fun site hsite other hother => ?_
    exact Place.keyBefore_of_offset? (offset?_of_isSmall (h site hsite))
      (offset?_of_isSmall (h other hother))
  have hmap : (sites.map (Site.measured source)).mergeSort (fun a b => a.1 ≤ b.1) =
      (sites.mergeSort fun a b => offsetOf source (a.place .start) ≤
        offsetOf source (b.place .start)).map (Site.measured source) :=
    (List.map_mergeSort (f := Site.measured source) fun _ _ _ _ => rfl).symm
  rw [harrange, eventsOf_eq_flatMap, measure, List.map_flatMap, inOrder, hmap, List.flatMap_map]
  rfl

/-- Every node says where it starts and where it stops. -/
def AllSmall (source : OffsetSource) (nodes : List (Path × Entries Json)) : Prop :=
  ∀ node ∈ nodes, ∀ edge, isSmall ((Place.ofFields edge node.2).offset? source)

theorem AllSmall.start [Sorter] {sites : List Site} (h : AllSmall source (nodesOf sites)) :
    ∀ site ∈ arrangedAll sites, isSmall ((site.place .start).offset? source) := by
  intro arranged hmem
  rw [arrangedAll_eq_map] at hmem
  obtain ⟨site, hsite, rfl⟩ := List.mem_map.1 hmem
  rw [place_arranged]
  rw [nodesOf_eq_flatMap] at h
  match site with
  | .mk path fields inner =>
    exact h (path, fields) (List.mem_flatMap.2 ⟨_, hsite, List.mem_cons_self⟩) .start

section Walk

variable [Sorter]

mutual

theorem Site.measure_arranged (site : Site) (h : AllSmall source site.nodes) :
    measure source site.arranged.events = site.timeline source := by
  match site with
  | .mk path fields inner =>
    have hinner : AllSmall source (nodesOf inner) :=
      fun node hnode => h node (List.mem_cons_of_mem _ hnode)
    have hcore := (measure_eventsOf_arrange hinner.start).trans
      (congrArg inOrder (timelines_arrangedAll inner hinner))
    rw [Site.arranged, Site.events, isEmpty_arrange_arrangedAll, Site.timeline, ← hcore]
    show _ :: measure source (_ ++ _) = _
    rw [measure_append]
    rfl

theorem timelines_arrangedAll (sites : List Site) (h : AllSmall source (nodesOf sites)) :
    (arrangedAll sites).map (Site.measured source) = timelines source sites := by
  match sites with
  | [] => rfl
  | site :: rest =>
    rw [arrangedAll, List.map_cons, timelines, Site.measured, place_arranged,
      Site.measure_arranged site fun node hnode => h node (List.mem_append_left _ hnode),
      timelines_arrangedAll rest fun node hnode => h node (List.mem_append_right _ hnode)]

end

/-- **The walk passes the events of the timeline.** -/
theorem timeline_route {script : Script} (h : script.Measured source) :
    measure source script.events = script.timeline source := by
  have hcore := (measure_eventsOf_arrange (AllSmall.start h.nodes)).trans
    (congrArg inOrder (timelines_arrangedAll script.sites h.nodes))
  have hprogram : ∀ edge, offsetOf source (.ofSpan edge script.span) =
      spanOffset source edge script.span :=
    fun edge => offsetOf_eq (offset?_ofSpan_of_isSmall (h.program edge))
  rw [events, timeline, route, isEmpty_arrange_arrangedAll, ← hcore, ← hprogram, ← hprogram]
  show _ :: measure source (_ ++ _) = _
  rw [measure_append]
  rfl

end Walk

/-! ## The first event of a comment -/

/-- Whether a comment is due at an event is a matter of their offsets. -/
theorem isDue_of_offset? {event : Event Place} {comment : Comment}
    (hevent : event.place.offset? source = some (offsetOf source event.place))
    (hcomment : isSmall (spanOffset? source .start comment.origin.span)) :
    isDue event.place comment =
      decide (startOffset source comment ≤ offsetOf source event.place) :=
  Place.reaches_of_offset? (offset?_ofSpan_of_isSmall hcomment) hevent

/-- The first event that a comment is due at is the first that is no earlier. -/
theorem firstDue_eq_firstFit {events : List (Event Place)} {comment : Comment}
    (hevents : ∀ event ∈ events,
      event.place.offset? source = some (offsetOf source event.place))
    (hcomment : isSmall (spanOffset? source .start comment.origin.span)) :
    firstDue events comment = firstFit source (measure source events) comment := by
  induction events with
  | nil => rfl
  | cons event rest ih =>
    rw [List.forall_mem_cons] at hevents
    have hdue := isDue_of_offset? hevents.1 hcomment
    by_cases hle : startOffset source comment ≤ offsetOf source event.place
    · have hfirst : firstEvent (measure source (event :: rest)) (startOffset source comment) =
          some (event.map (offsetOf source)) :=
        List.find?_cons_of_pos (by rw [Event.place_map]; exact decide_eq_true hle)
      rw [firstDue_cons_of_due (hdue.trans (decide_eq_true hle)), firstFit, hfirst,
        Option.map_some, Event.copy_map]
    · have hfirst : firstEvent (measure source (event :: rest)) (startOffset source comment) =
          firstEvent (measure source rest) (startOffset source comment) :=
        List.find?_cons_of_neg (by rw [Event.place_map, decide_eq_true_iff]; exact hle)
      rw [firstDue_cons_of_not_due (by rw [hdue, decide_eq_true_iff]; exact hle), ih hevents.2,
        firstFit, firstFit, hfirst]

/-! ## The main statement -/

/-- Offsets are one of the ways of saying where something is. -/
theorem Measured.positioned {script : Script} (h : script.Measured source) :
    script.Positioned source.kind := by
  have hsome : ∀ {place : Place} {n : Nat}, place.offset? source = some n →
      (place.position? source.kind).isSome := by
    intro place n hoffset
    rw [Place.position?_of_offset? hoffset, Option.isSome_some]
  refine ⟨fun edge => ?_, fun node hnode edge => ?_, fun comment hcomment => ?_⟩
  · exact hsome (offset?_ofSpan_of_isSmall (h.program edge))
  · exact hsome (offset?_of_isSmall (h.nodes node hnode edge))
  · exact hsome (offset?_ofSpan_of_isSmall (h.comments comment hcomment))

section Output

variable [Sorter]

theorem sortedComments_eq_mergeSort {script : Script} (h : script.Measured source) :
    script.sortedComments =
      script.comments.mergeSort fun a b => startOffset source a ≤ startOffset source b :=
  Sorting.sort_eq_mergeSort fun comment hcomment other hother =>
    Place.before_of_offset? (offset?_ofSpan_of_isSmall (h.comments comment hcomment))
      (offset?_ofSpan_of_isSmall (h.comments other hother))

theorem offset?_of_mem_events {script : Script} (h : script.Measured source) :
    ∀ event ∈ script.events, event.place.offset? source = some (offsetOf source event.place) := by
  let hasOffset (place : Place) : Prop := place.offset? source = some (offsetOf source place)
  have hprogram : ∀ edge, hasOffset (.ofSpan edge script.span) := by
    intro edge
    have hspan := offset?_ofSpan_of_isSmall (h.program edge)
    exact hspan.trans (congrArg some (offsetOf_eq hspan).symm)
  exact place_of_mem_events (P := hasOffset) hprogram fun node hnode edge =>
    offset?_of_isSmall (h.nodes node hnode edge)

/-- **The walk puts every comment at its first event.** -/
theorem walk_eq_firstFits {script : Script} (h : script.Measured source) :
    script.walk.1 = script.firstFits source := by
  rw [walk_eq_firstDue h.positioned, firstFits, ← timeline_route h,
    ← sortedComments_eq_mergeSort h]
  refine List.filterMap_congr fun comment hcomment => ?_
  have hmem : comment ∈ script.comments := (Sorting.perm_sort _ _).mem_iff.1 hcomment
  exact firstDue_eq_firstFit (offset?_of_mem_events h) (h.comments comment hmem)

end Output

/-- A node from 2 to 8 around one from 4 to 6, and five comments, not in order: at 0, at 2, between
the start and the end of the inner node, behind it, and behind both. -/
def nestedScript : Script where
  body := [.object [("type", .string "A"), ("range", Span.rangeToJson (2, 8)),
    ("inner", .object [("type", .string "B"), ("range", Span.rangeToJson (4, 6))])]]
  comments := [("e", 19), ("d", 7), ("a", 0), ("c", 5), ("b", 2)].map fun (text, start) =>
    { kind := .block, text, origin := { span := { range := some (start, start + 1) } } }
  span := { range := some (0, 20) }

end Script
end MarkupJsx
