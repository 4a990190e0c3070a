import MarkupJsx.Proofs.Script.Positions
import MarkupJsx.Script.InsertionSort

/-!
# The order of siblings and the order of comments

Whether a comment starts before a node is asked by line and column, if that is how both say where
they are.  The nodes inside one node are put in order by a single number each, and where they have
lines and columns this is the line.  So the two orders are not the same: with offsets the nodes are
passed in the order in which they start, and with lines and columns they are passed line by line,
those of one line as they are listed.

* What is passed at siblings is passed in one go (`exists_events_of_isGroup`).
* `startInOrder_arrange_iff`: siblings are passed in the order in which they start exactly if those
  with the same first number are listed in this order.

The main statement, `walk_orders_siblings`, puts these together, with what is said of the comments
in `walk_eq_firstDue`.  The order of the walk is not that of the source where two statements on one
line are listed in the other order (`walk_passes_later_first`), and where markup in a script stands
on one line, as its closing tag is listed in front of what is inside (`walk_passes_closing_first`).
-/

namespace MarkupJsx
namespace Script

/-! ## Siblings along the walk -/

section Walk

variable [Sorter]

theorem mem_arrange {siblings : List Site} {site : Site} :
    site ∈ arrange siblings ↔ site ∈ siblings :=
  (Sorting.perm_sort _ siblings).mem_iff

/-- Putting the nodes inside siblings in order has no influence on the order of the siblings. -/
theorem arrange_arrangedAll (siblings : List Site) :
    arrange (arrangedAll siblings) = (arrange siblings).map Site.arranged := by
  rw [arrangedAll_eq_map, arrange, Sorting.sort_map]
  simp only [siteBefore, place_arranged]
  rfl

theorem eventsOf_arrange_arrangedAll (siblings : List Site) :
    eventsOf (arrange (arrangedAll siblings)) =
      (arrange siblings).flatMap fun site => site.arranged.events := by
  rw [eventsOf_eq_flatMap, arrange_arrangedAll, List.flatMap_map]

/-- **What is passed at siblings is passed in one go,** sibling by sibling. -/
theorem exists_events_of_isGroup {script : Script} {siblings : List Site}
    (h : script.IsGroup siblings) :
    ∃ before after, script.events =
      before ++ ((arrange siblings).flatMap fun site => site.arranged.events) ++ after := by
  induction h with
  | statements =>
    rw [events, route, eventsOf_arrange_arrangedAll]
    exact ⟨[_], [_], rfl⟩
  | @inner siblings path fields inner _ hmem ih =>
    obtain ⟨before, after, hevents⟩ := ih
    obtain ⟨left, right, hsplit⟩ :=
      List.append_of_mem (mem_arrange.2 hmem)
    have hsite : (Site.mk path fields inner).arranged.events =
        .enter (some path) (.ofFields .start fields) ::
          (((arrange inner).flatMap fun site => site.arranged.events) ++
            [.leave (some path) (.ofFields .stop fields)
              (!(arrange (arrangedAll inner)).isEmpty)]) := by
      rw [Site.arranged, Site.events, eventsOf_arrange_arrangedAll]
    rw [hevents, hsplit, List.flatMap_append, List.flatMap_cons, hsite]
    refine ⟨before ++ (left.flatMap fun site => site.arranged.events) ++
      [.enter (some path) (.ofFields .start fields)],
      .leave (some path) (.ofFields .stop fields) (!(arrange (arrangedAll inner)).isEmpty) ::
        ((right.flatMap fun site => site.arranged.events) ++ after), ?_⟩
    simp only [List.append_assoc, List.cons_append, List.nil_append]

end Walk

/-! ## The order of siblings -/

/-- No node of a list starts before one in front of it. -/
def StartInOrder (sites : List Site) : Prop :=
  sites.Pairwise fun left right => ¬(right.place .start).before (left.place .start)

/-- Whether two nodes start on one line. -/
def sameLine (left right : Site) : Bool :=
  match (left.place .start).location, (right.place .start).location with
  | some l, some r => Binary64.compare? l.1 r.1 = some .eq
  | _, _ => false

/-- Whether nodes all say where they start in a given way. -/
def AllAt (kind : PositionKind) (sites : List Site) : Prop :=
  ∀ site ∈ sites, ((site.place .start).position? kind).isSome

/-- Where a node starts. -/
def startPosition (kind : PositionKind) (site : Site) : Int ×ₗ Int :=
  (site.place .start).position kind

/-- The number by which a node is put in order. -/
def startKey (kind : PositionKind) (site : Site) : Int :=
  (ofLex (startPosition kind site)).1

section Group

variable {kind : PositionKind} {siblings : List Site} (h : AllAt kind siblings)
include h

theorem AllAt.position? {site : Site} (hsite : site ∈ siblings) :
    (site.place .start).position? kind = some (startPosition kind site) :=
  Place.position?_of_isSome (h site hsite)

/-- Nodes start in order exactly if their positions grow. -/
theorem startInOrder_iff : StartInOrder siblings ↔
    siblings.Pairwise fun left right => startPosition kind left ≤ startPosition kind right := by
  refine List.Pairwise.iff_of_mem fun {left right} hleft hright => ?_
  rw [Place.before_of_position? (h.position? hright) (h.position? hleft), decide_eq_true_iff,
    not_lt]

theorem keyBefore_of_allAt : ∀ site ∈ siblings, ∀ other ∈ siblings,
    siteBefore site other = decide (startKey kind site < startKey kind other) :=
  fun _ hsite _ hother => Place.keyBefore_of_position? (h.position? hsite) (h.position? hother)

variable [Sorter]

theorem AllAt.arrange : AllAt kind (arrange siblings) :=
  fun site hsite => h site (mem_arrange.1 hsite)

/-- No sort gives up on siblings that say where they start. -/
theorem AllAt.settles : settles siblings = true :=
  Sorting.isSome_sort?_of_key (keyBefore_of_allAt h)

/-- Siblings are passed in the order of the first numbers. -/
theorem pairwise_arrange :
    (arrange siblings).Pairwise fun left right => startKey kind left ≤ startKey kind right :=
  Sorting.pairwise_sort (keyBefore_of_allAt h)

/-- Siblings with one first number are passed as they are listed. -/
theorem withKey_arrange (k : Int) :
    Sorting.withKey (startKey kind) k (arrange siblings) =
      Sorting.withKey (startKey kind) k siblings :=
  Sorting.withKey_sort (keyBefore_of_allAt h) k

/-- **Siblings are passed in the order in which they start exactly if those with one first number
are listed in this order.** -/
theorem startInOrder_arrange_iff : StartInOrder (arrange siblings) ↔
    siblings.Pairwise fun left right => startKey kind left = startKey kind right →
      startPosition kind left ≤ startPosition kind right := by
  have hsame : StartInOrder (arrange siblings) ↔
      (arrange siblings).Pairwise fun left right => startKey kind left = startKey kind right →
        startPosition kind left ≤ startPosition kind right := by
    rw [startInOrder_iff h.arrange]
    refine ⟨fun horder => ?_, fun horder => ?_⟩
    · refine horder.imp ?_
      exact fun hle _ => hle
    · refine ((pairwise_arrange h).and horder).imp fun {left right} hboth => ?_
      rcases hboth.1.lt_or_eq with hlt | heq
      · exact Prod.Lex.le_iff.2 (Or.inl hlt)
      · exact hboth.2 heq
  rw [hsame, Sorting.pairwise_iff_withKey, Sorting.pairwise_iff_withKey]
  simp only [withKey_arrange h]

/-- The first number of an offset is all of it. -/
theorem startInOrder_arrange (hkind : kind ≠ .location) : StartInOrder (arrange siblings) := by
  have hsecond : ∀ site ∈ siblings, (ofLex (startPosition kind site)).2 = 0 := by
    intro site hsite
    have hposition := h.position? hsite
    cases kind with
    | range =>
      obtain ⟨_, _, -, -, hstart⟩ := Place.exists_range_of_position? hposition
      rw [← hstart]
      rfl
    | location => exact absurd rfl hkind
    | ends =>
      obtain ⟨-, -, _, _, -, -, hstart⟩ := Place.exists_offset_of_position? hposition
      rw [← hstart]
      rfl
  refine (startInOrder_arrange_iff h).2 (List.pairwise_of_forall_mem_list ?_)
  intro left hleft right hright hkey
  exact Prod.Lex.le_iff.2 (Or.inr ⟨hkey, by rw [hsecond left hleft, hsecond right hright]⟩)

end Group

section Lines

variable {siblings : List Site} (h : AllAt .location siblings)
include h

theorem sameLine_iff {left right : Site} (hleft : left ∈ siblings) (hright : right ∈ siblings) :
    sameLine left right ↔ startKey .location left = startKey .location right := by
  obtain ⟨-, x, x', m, m', hlocation, hx, -, hl⟩ :=
    Place.exists_location_of_position? (h.position? hleft)
  obtain ⟨-, y, y', n, n', hlocation', hy, -, hr⟩ :=
    Place.exists_location_of_position? (h.position? hright)
  rw [sameLine, hlocation, hlocation', decide_eq_true_iff, Place.compare?_of_rank? hx hy,
    Option.some_inj, compare_eq_iff_eq, startKey, startKey, ← hl, ← hr]
  rfl

variable [Sorter]

/-- **Lines are passed in order,** and on one line the nodes are passed as they are listed. -/
theorem filter_sameLine_arrange {site : Site} (hsite : site ∈ siblings) :
    (arrange siblings).filter (sameLine site) = siblings.filter (sameLine site) := by
  have hfilter : ∀ {others : List Site}, (∀ other ∈ others, other ∈ siblings) →
      others.filter (sameLine site) =
        Sorting.withKey (startKey .location) (startKey .location site) others := by
    intro others hothers
    refine List.filter_congr fun other hother => ?_
    rw [Bool.eq_iff_iff, decide_eq_true_iff, sameLine_iff h hsite (hothers other hother)]
    exact eq_comm
  rw [hfilter fun _ => mem_arrange.1, hfilter fun _ hother => hother, withKey_arrange h]

theorem startInOrder_arrange_iff_sameLine : StartInOrder (arrange siblings) ↔
    siblings.Pairwise fun left right => sameLine left right →
      ¬(right.place .start).before (left.place .start) := by
  rw [startInOrder_arrange_iff h]
  refine List.Pairwise.iff_of_mem fun {left right} hleft hright => ?_
  rw [sameLine_iff h hleft hright,
    Place.before_of_position? (h.position? hright) (h.position? hleft), decide_eq_true_iff, not_lt]

/-- A node that starts before one in front of it starts on the same line. -/
theorem pairwise_sameLine_arrange :
    (arrange siblings).Pairwise fun left right =>
      (right.place .start).before (left.place .start) → sameLine left right := by
  refine (pairwise_arrange h).imp_of_mem fun {left right} hleft hright hkey hbefore => ?_
  have hleft := mem_arrange.1 hleft
  have hright := mem_arrange.1 hright
  rw [Place.before_of_position? (h.position? hright) (h.position? hleft), decide_eq_true_iff,
    Prod.Lex.lt_iff] at hbefore
  rw [sameLine_iff h hleft hright]
  rcases hbefore with hlt | heq
  · exact absurd hlt hkey.not_gt
  · exact heq.1.symm

end Lines

/-! ## The main statement -/

/-- **Siblings are passed one after the other, in the order of the numbers they are sorted by.**
No sort gives up on siblings that have such numbers.  With offsets their order is the order in which
the siblings start.  With lines and columns it is the order of the lines, those of one line being
passed as they are listed; so it is the order in which they start exactly if they are listed in this
order on each line.  Comments go to the first event that they start no later than, in the order in
which the events are passed. -/
theorem walk_orders_siblings [Sorter] (script : Script) :
    (∀ siblings, script.IsGroup siblings →
      (∃ before after, script.events =
        before ++ ((arrange siblings).flatMap fun site => site.arranged.events) ++ after) ∧
      (arrange siblings).Perm siblings ∧
      ∀ kind, AllAt kind siblings →
        settles siblings = true ∧
        (kind ≠ .location → StartInOrder (arrange siblings)) ∧
        (kind = .location →
          ((arrange siblings).Pairwise fun left right =>
            (right.place .start).before (left.place .start) → sameLine left right) ∧
          (∀ site ∈ siblings,
            (arrange siblings).filter (sameLine site) = siblings.filter (sameLine site)) ∧
          (StartInOrder (arrange siblings) ↔ siblings.Pairwise fun left right =>
            sameLine left right → ¬(right.place .start).before (left.place .start)))) ∧
    ∀ kind, script.Positioned kind →
      script.attach = some script.annotated ∧
      script.walk.1 = script.sortedComments.filterMap (firstDue script.events) := by
  refine ⟨fun siblings hgroup => ?_, fun kind hpositioned =>
    ⟨attach_of_settled hpositioned.settled, walk_eq_firstDue hpositioned⟩⟩
  refine ⟨exists_events_of_isGroup hgroup, Sorting.perm_sort _ siblings, fun kind hall => ?_⟩
  refine ⟨hall.settles, startInOrder_arrange hall, ?_⟩
  rintro rfl
  exact ⟨pairwise_sameLine_arrange hall, fun site => filter_sameLine_arrange hall,
    startInOrder_arrange_iff_sameLine hall⟩

instance (kind : PositionKind) (sites : List Site) : Decidable (AllAt kind sites) :=
  inferInstanceAs (Decidable (∀ site ∈ sites, ((site.place .start).position? kind).isSome))

/-- A node between two columns of a line. -/
def locatedNode (type : String) (line start stop : Nat) (fields : Entries Json) : Json :=
  .object <| ("type", .string type) ::
    ("loc", (Location.mk ⟨line, start⟩ ⟨line, stop⟩).toJson) :: fields

/-- Two statements on two lines, the second line first, and a comment between them. -/
def twoLines : Script where
  body := [locatedNode "B" 2 0 1 [], locatedNode "A" 1 0 1 []]
  comments := [{ kind := .line, text := "c", origin := { span :=
    { location := some ⟨⟨1, 2⟩, ⟨1, 4⟩⟩ } } }]
  span := { location := some ⟨⟨1, 0⟩, ⟨2, 1⟩⟩ }

open scoped Sorting.Insertion in
theorem walk_orders_siblings_twoLines :
    StartInOrder (arrange twoLines.sites) ∧
      twoLines.attach = some twoLines.annotated ∧
      twoLines.walk.1 = twoLines.sortedComments.filterMap (firstDue twoLines.events) ∧
      twoLines.walk.1.map Prod.fst = [some [0]] := by
  obtain ⟨hgroups, hcomments⟩ := walk_orders_siblings twoLines
  obtain ⟨-, -, horder⟩ := hgroups twoLines.sites .statements
  have hlines : twoLines.sites.Pairwise fun left right =>
      sameLine left right → ¬(right.place .start).before (left.place .start) := by decide +kernel
  obtain ⟨hattach, hwalk⟩ := hcomments .location (by decide +kernel)
  exact ⟨((horder .location (by decide +kernel)).2.2 rfl).2.2.2 hlines, hattach, hwalk,
    by decide +kernel⟩

/-- Two statements on one line, the later one first, and a comment in front of both. -/
def oneLine : Script where
  body := [locatedNode "B" 1 10 11 [], locatedNode "A" 1 0 1 []]
  comments := [{ kind := .line, text := "c", origin := { span :=
    { location := some ⟨⟨1, 0⟩, ⟨1, 1⟩⟩ } } }]

open scoped Sorting.Insertion in
/-- The statement at column 10 is passed before the one at column 0, although it does not start
first, and so the comment at column 0 is put on it. -/
theorem walk_passes_later_first :
    let start (path : Path) : Place :=
      .ofFields .start ((oneLine.nodes.lookup path).getD [])
    AllAt .location oneLine.sites ∧
    (start [1]).before (start [0]) ∧
    (∀ comment ∈ oneLine.comments, isDue (start [1]) comment) ∧
    (oneLine.events.filter Event.leading).map Event.owner = [none, some [0], some [1]] ∧
    oneLine.settled = true ∧
    oneLine.walk.1.map Prod.fst = [some [0]] := by
  decide +kernel

/-- Markup with a comment inside, `<a>{/*c*/x}</a>`, as it is parsed: the closing tag is listed in
front of what stands before it. -/
def markupScript : Script where
  body := [locatedNode "ExpressionStatement" 1 0 15 [
    ("expression", locatedNode "JSXElement" 1 0 15 [
      ("openingElement", locatedNode "JSXOpeningElement" 1 0 3 [
        ("attributes", .array []),
        ("name", locatedNode "JSXIdentifier" 1 1 2 [("name", .string "a")]),
        ("selfClosing", .bool false)]),
      ("closingElement", locatedNode "JSXClosingElement" 1 11 15 [
        ("name", locatedNode "JSXIdentifier" 1 13 14 [("name", .string "a")])]),
      ("children", .array [locatedNode "JSXExpressionContainer" 1 3 11 [
        ("expression", locatedNode "Identifier" 1 9 10 [("name", .string "x")])]])])]]
  comments := [{ kind := .block, text := "c", origin := { span :=
    { location := some ⟨⟨1, 4⟩, ⟨1, 9⟩⟩ } } }]
  span := { location := some ⟨⟨1, 0⟩, ⟨1, 15⟩⟩ }

open scoped Sorting.Insertion in
/-- The walk enters the closing tag, `[0, 2, 3]`, before its sibling that starts first,
`[0, 2, 4, 0]`.  So the comment is put on the closing tag, although the name inside the sibling,
`[0, 2, 4, 0, 2]`, starts behind the comment as well, and first. -/
theorem walk_passes_closing_first :
    let start (path : Path) : Place :=
      .ofFields .start ((markupScript.nodes.lookup path).getD [])
    markupScript.Positioned .location ∧
    (start [0, 2, 4, 0]).before (start [0, 2, 3]) ∧
    (start [0, 2, 4, 0, 2]).before (start [0, 2, 3]) ∧
    (∀ comment ∈ markupScript.comments, isDue (start [0, 2, 4, 0, 2]) comment) ∧
    (markupScript.events.filter Event.leading).map Event.owner =
      [none, some [0], some [0, 2], some [0, 2, 2], some [0, 2, 2, 3], some [0, 2, 3],
        some [0, 2, 3, 2], some [0, 2, 4, 0], some [0, 2, 4, 0, 2]] ∧
    markupScript.walk.1.map Prod.fst = [some [0, 2, 3]] := by
  decide +kernel

end Script
end MarkupJsx
