import Mathlib.Data.Prod.Lex
import Mathlib.Order.Compare
import MarkupJsx.Proofs.Script.Settling
import MarkupJsx.Proofs.Script.StableSort

/-!
# Positions in a script

A place in a script can be said in three ways: by its `range`, by line and column, or by `start` and
`end`.  How two places compare depends on the ways in which both are said.  Where all of them are
said in one way, it is the order of pairs of numbers.

* `Place.position?` is the place as a pair of numbers, in lexicographic order.  Offsets come as
  pairs whose second number is zero.  Places compare as their positions do
  (`Place.compare?_of_position?`), while siblings are put in the order of the first numbers
  (`Place.keyBefore_of_position?`).
* `Positioned`: a script whose program, nodes and comments all say in one way where they are.  Then
  a comment goes to the first event of the walk that it starts no later than, in the order of the
  walk (`walk_eq_firstDue`).
-/

namespace MarkupJsx
namespace Script

/-! ## Positions -/

/-- A way of saying where something is. -/
inductive PositionKind where
  | range
  | location
  | ends
  deriving DecidableEq

/-- Without `range` and `loc`. -/
theorem eq_none_of_isNone_and_isNone {α β : Type} {range : Option α} {location : Option β}
    (h : (range.isNone && location.isNone) = true) : range = none ∧ location = none := by
  rw [Bool.and_eq_true, Option.isNone_iff_eq_none, Option.isNone_iff_eq_none] at h
  exact h

namespace Place

/-- A place as a pair of numbers, if it says where it is in a given way and in no way that comes
before that one.  The numbers of a script are never not-a-number, so that they have a rank. -/
def position? (kind : PositionKind) (place : Place) : Option (Int ×ₗ Int) :=
  match kind with
  | .range => (place.range.bind Binary64.rank?).map fun offset => toLex (offset, 0)
  | .location =>
    if place.range.isNone then
      place.location.bind fun location =>
        location.1.rank?.bind fun line => location.2.rank?.map fun column => toLex (line, column)
    else none
  | .ends =>
    if place.range.isNone && place.location.isNone then
      (place.offset.bind Binary64.rank?).map fun offset => toLex (offset, 0)
    else none

variable {kind : PositionKind} {p q : Place} {a b : Int ×ₗ Int}

/-- The position of a place that has one. -/
def position (kind : PositionKind) (place : Place) : Int ×ₗ Int :=
  (place.position? kind).getD (toLex (0, 0))

theorem position?_of_isSome (h : (p.position? kind).isSome) :
    p.position? kind = some (p.position kind) := by
  obtain ⟨pair, hpair⟩ := Option.isSome_iff_exists.1 h
  rw [position, hpair, Option.getD_some]

theorem exists_range_of_position? (h : p.position? .range = some a) :
    ∃ x m, p.range = some x ∧ x.rank? = some m ∧ toLex (m, 0) = a := by
  obtain ⟨m, hm, ha⟩ := Option.map_eq_some_iff.1 h
  obtain ⟨x, hx, hrank⟩ := Option.bind_eq_some_iff.1 hm
  exact ⟨x, m, hx, hrank, ha⟩

theorem exists_location_of_position? (h : p.position? .location = some a) :
    p.range = none ∧ ∃ x y m n, p.location = some (x, y) ∧ x.rank? = some m ∧ y.rank? = some n ∧
      toLex (m, n) = a := by
  rw [position?] at h
  split at h
  · rename_i hrange
    obtain ⟨⟨x, y⟩, hlocation, h⟩ := Option.bind_eq_some_iff.1 h
    obtain ⟨m, hx, h⟩ := Option.bind_eq_some_iff.1 h
    obtain ⟨n, hy, ha⟩ := Option.map_eq_some_iff.1 h
    exact ⟨Option.isNone_iff_eq_none.1 hrange, x, y, m, n, hlocation, hx, hy, ha⟩
  · exact nomatch h

theorem exists_offset_of_position? (h : p.position? .ends = some a) :
    p.range = none ∧ p.location = none ∧
      ∃ x m, p.offset = some x ∧ x.rank? = some m ∧ toLex (m, 0) = a := by
  rw [position?] at h
  split at h
  · rename_i hnone
    obtain ⟨hrange, hlocation⟩ := eq_none_of_isNone_and_isNone hnone
    obtain ⟨m, hm, ha⟩ := Option.map_eq_some_iff.1 h
    obtain ⟨x, hx, hrank⟩ := Option.bind_eq_some_iff.1 hm
    exact ⟨hrange, hlocation, x, m, hx, hrank, ha⟩
  · exact nomatch h

theorem compare?_of_rank? {x y : Binary64} {m n : Int} (hx : x.rank? = some m)
    (hy : y.rank? = some n) : Binary64.compare? x y = some (compare m n) := by
  rw [Binary64.compare?, hx, hy]
  rfl

theorem compare_then_self (m n : Int) :
    compare m n = (compare m n).then (compare (0 : Int) 0) := by
  rw [compare_eq_iff_eq.2 rfl, Ordering.then_eq]

/-- **Places compare as their positions do,** first number first. -/
theorem compare?_of_position? (hp : p.position? kind = some a) (hq : q.position? kind = some b) :
    compare? p q =
      some ((compare (ofLex a).1 (ofLex b).1).then (compare (ofLex a).2 (ofLex b).2)) := by
  cases kind with
  | range =>
    obtain ⟨x, m, hprange, hx, rfl⟩ := exists_range_of_position? hp
    obtain ⟨y, n, hqrange, hy, rfl⟩ := exists_range_of_position? hq
    rw [compare?, hprange, hqrange]
    exact (compare?_of_rank? hx hy).trans (congrArg some (compare_then_self m n))
  | location =>
    obtain ⟨hprange, x, x', m, m', hplocation, hx, hx', rfl⟩ := exists_location_of_position? hp
    obtain ⟨hqrange, y, y', n, n', hqlocation, hy, hy', rfl⟩ := exists_location_of_position? hq
    rw [compare?, hprange, hqrange, hplocation, hqlocation]
    show compareLocations (x, x') (y, y') = some ((compare m n).then (compare m' n'))
    rw [compareLocations, compare?_of_rank? hx hy, compare?_of_rank? hx' hy']
    cases compare m n <;> rfl
  | ends =>
    obtain ⟨hprange, hplocation, x, m, hpoffset, hx, rfl⟩ := exists_offset_of_position? hp
    obtain ⟨hqrange, hqlocation, y, n, hqoffset, hy, rfl⟩ := exists_offset_of_position? hq
    rw [compare?, hprange, hqrange, hplocation, hqlocation, hpoffset, hqoffset]
    exact (compare?_of_rank? hx hy).trans (congrArg some (compare_then_self m n))

theorem before_of_position? (hp : p.position? kind = some a) (hq : q.position? kind = some b) :
    before p q = decide (a < b) := by
  rw [before, compare?_of_position? hp hq]
  refine decide_eq_decide.2 (Option.some_inj.trans ?_)
  rw [Ordering.then_eq_lt, compare_lt_iff_lt, compare_lt_iff_lt, compare_eq_iff_eq,
    Prod.Lex.lt_iff]

theorem reaches_eq {order : Ordering} (h : compare? p q = some order) :
    reaches p q = decide (order ≠ .gt) := by
  rw [reaches, h]
  cases order <;> rfl

theorem reaches_of_position? (hp : p.position? kind = some a) (hq : q.position? kind = some b) :
    reaches p q = decide (a ≤ b) := by
  rw [reaches_eq (compare?_of_position? hp hq)]
  refine decide_eq_decide.2 ?_
  rw [← not_lt, not_iff_not, Ordering.then_eq_gt, compare_gt_iff_gt, compare_gt_iff_gt,
    compare_eq_iff_eq, Prod.Lex.lt_iff, eq_comm]

/-- **Siblings are put in the order of the first numbers.** -/
theorem keyBefore_of_position? (hp : p.position? kind = some a) (hq : q.position? kind = some b) :
    keyBefore p q = decide ((ofLex a).1 < (ofLex b).1) := by
  have hkey : ∀ {p : Place} {a : Int ×ₗ Int}, p.position? kind = some a →
      ∃ x, p.key? = some x ∧ x.rank? = some (ofLex a).1 := by
    intro p a hp
    cases kind with
    | range =>
      obtain ⟨x, m, hrange, hx, rfl⟩ := exists_range_of_position? hp
      exact ⟨x, by rw [key?, hrange]; rfl, hx⟩
    | location =>
      obtain ⟨hrange, x, y, m, n, hlocation, hx, -, rfl⟩ := exists_location_of_position? hp
      exact ⟨x, by rw [key?, hrange, hlocation]; rfl, hx⟩
    | ends =>
      obtain ⟨hrange, hlocation, x, m, hoffset, hx, rfl⟩ := exists_offset_of_position? hp
      exact ⟨x, by rw [key?, hrange, hlocation, hoffset]; rfl, hx⟩
  obtain ⟨x, hpkey, hx⟩ := hkey hp
  obtain ⟨y, hqkey, hy⟩ := hkey hq
  rw [keyBefore, hpkey, hqkey]
  show Binary64.lt x y = _
  rw [Binary64.lt, compare?_of_rank? hx hy]
  exact decide_eq_decide.2 (Option.some_inj.trans compare_lt_iff_lt)

end Place

/-! ## Scripts with positions -/

/-- A script in which everything says its place in a given way: the start and the end of the program
and of each node, and the start of each comment. -/
structure Positioned (kind : PositionKind) (script : Script) : Prop where
  program : ∀ edge, ((Place.ofSpan edge script.span).position? kind).isSome
  nodes : ∀ node ∈ script.nodes, ∀ edge, ((Place.ofFields edge node.2).position? kind).isSome
  comments : ∀ comment ∈ script.comments, ((startOf comment).position? kind).isSome

instance (p : Edge → Prop) [DecidablePred p] : Decidable (∀ edge, p edge) :=
  decidable_of_iff (p .start ∧ p .stop)
    ⟨fun h edge => match edge with
      | .start => h.1
      | .stop => h.2,
    fun h => ⟨h .start, h .stop⟩⟩

instance (kind : PositionKind) (script : Script) : Decidable (script.Positioned kind) :=
  decidable_of_iff
    ((∀ edge, ((Place.ofSpan edge script.span).position? kind).isSome) ∧
      (∀ node ∈ script.nodes, ∀ edge, ((Place.ofFields edge node.2).position? kind).isSome) ∧
      ∀ comment ∈ script.comments, ((startOf comment).position? kind).isSome)
    ⟨fun h => ⟨h.1, h.2.1, h.2.2⟩, fun h => ⟨h.program, h.nodes, h.comments⟩⟩

namespace Positioned

variable {kind : PositionKind} {script : Script} (h : script.Positioned kind)
include h

theorem position?_startOf : ∀ comment ∈ script.comments, (startOf comment).position? kind =
    some ((startOf comment).position kind) :=
  fun comment hcomment => Place.position?_of_isSome (h.comments comment hcomment)

/-- Siblings say where they start. -/
theorem isSome_position?_of_isGroup {siblings : List Site} (hgroup : script.IsGroup siblings) :
    ∀ site ∈ siblings, ((site.place .start).position? kind).isSome := by
  rintro ⟨path, fields, inner⟩ hsite
  refine h.nodes (path, fields) (mem_nodes_of_isGroup hgroup _ ?_) .start
  rw [nodesOf_eq_flatMap]
  exact List.mem_flatMap.2 ⟨_, hsite, List.mem_cons_self⟩

/-- **Whatever the sort does to others, it does not give up on comments and nodes with positions.**
-/
theorem settled [Sorter] : script.settled = true := by
  refine settled_of_groups ?_ fun siblings hgroup => ?_
  · have hless : ∀ comment ∈ script.comments, ∀ other ∈ script.comments,
        commentBefore comment other =
          decide ((startOf comment).position kind < (startOf other).position kind) :=
      fun comment hcomment other hother => Place.before_of_position?
        (h.position?_startOf comment hcomment) (h.position?_startOf other hother)
    exact Sorting.isSome_sort?_of_key hless
  · have hposition : ∀ site ∈ siblings, (site.place .start).position? kind =
        some ((site.place .start).position kind) := fun site hsite =>
      Place.position?_of_isSome (h.isSome_position?_of_isGroup hgroup site hsite)
    have hless : ∀ site ∈ siblings, ∀ other ∈ siblings, siteBefore site other =
        decide ((ofLex ((site.place .start).position kind)).1 <
          (ofLex ((other.place .start).position kind)).1) :=
      fun site hsite other hother =>
        Place.keyBefore_of_position? (hposition site hsite) (hposition other hother)
    exact Sorting.isSome_sort?_of_key hless

end Positioned

/-- **A comment goes to the first event of the walk that it starts no later than.** -/
theorem walk_eq_firstDue [Sorter] {kind : PositionKind} {script : Script}
    (h : script.Positioned kind) :
    script.walk.1 = script.sortedComments.filterMap (firstDue script.events) := by
  have hcomment := h.position?_startOf
  have hmem : ∀ comment ∈ script.sortedComments, comment ∈ script.comments :=
    fun _ => (Sorting.perm_sort _ _).mem_iff.1
  have hsorted : script.sortedComments.Pairwise fun left right =>
      (startOf left).position kind ≤ (startOf right).position kind :=
    Sorting.pairwise_sort fun comment hmem other hother =>
      Place.before_of_position? (hcomment comment hmem) (hcomment other hother)
  rw [walk_eq_deal]
  -- A comment that is due at an event brings all comments in front of it: these start no later.
  refine deal_eq_filterMap fun event hevent => ?_
  have hplace : event.place.position? kind = some (event.place.position kind) :=
    Place.position?_of_isSome (place_of_mem_events
      (P := fun place => (place.position? kind).isSome) h.program h.nodes event hevent)
  refine hsorted.imp_of_mem fun {left right} hleft hright hle => ?_
  rw [isDue, isDue, Place.reaches_of_position? (hcomment left (hmem left hleft)) hplace,
    Place.reaches_of_position? (hcomment right (hmem right hright)) hplace, decide_eq_true_iff,
    decide_eq_true_iff]
  exact hle.trans

end Script
end MarkupJsx
