import Mathlib.Data.List.Forall2
import MarkupJsx.Script.Attach

/-!
# The walk as a dealing out of comments to events

What the walk passes, the starts and the ends of nodes, forms one list of events, whatever the line
of comments is (`Script.events`).  The walk is then a loop over that list: each event takes what it
can from the front of the line, and leaves the rest to the next one (`deal`).  That the walk does
not even enter a node once the line is empty makes no difference (`walk_eq_deal`).

* `deal_eq_filterMap`: where the line is in the order of the events, each comment goes to the first
  event that it is due at (`firstDue`).
* `deal_split`: the comments that were taken, in the order in which the copies were made, are what
  stood in front of what is left of the line.
* `deal_regroup`: where no two events have the same owner and the same side, the copies can be
  found again by owner and side, event by event.
-/

namespace MarkupJsx
namespace Script

/-- Something that the walk passes: the start of a node, or its end, at some place.  The script
itself is the owner that has no path. -/
inductive Event (P : Type) where
  | enter (owner : Option Path) (place : P)
  | leave (owner : Option Path) (place : P) (hasInner : Bool)

namespace Event

variable {P Q : Type}

/-- The node whose start or end this is. -/
def owner : Event P → Option Path
  | enter owner _ => owner
  | leave owner _ _ => owner

/-- Where this is. -/
def place : Event P → P
  | enter _ place => place
  | leave _ place _ => place

/-- The first mark of a comment that is taken here: it stands before the node. -/
def leading : Event P → Bool
  | enter .. => true
  | leave .. => false

/-- The second mark of a comment that is taken here: it stands after the nodes inside. -/
def trailing : Event P → Bool
  | enter .. => false
  | leave _ _ hasInner => hasInner

/-- The same event with its place told in another way. -/
def map (f : P → Q) : Event P → Event Q
  | enter owner place => enter owner (f place)
  | leave owner place hasInner => leave owner (f place) hasInner

/-- Owner and side. -/
def label (event : Event P) : Option Path × Bool :=
  (event.owner, event.leading)

/-- The copy of a comment that is taken here. -/
def copy (event : Event P) (comment : Comment) : Copy :=
  (event.owner, comment.placed event.leading event.trailing)

@[simp] theorem place_map (f : P → Q) (event : Event P) :
    (event.map f).place = f event.place := by
  cases event <;> rfl

@[simp] theorem label_map (f : P → Q) (event : Event P) : (event.map f).label = event.label := by
  cases event <;> rfl

@[simp] theorem copy_map (f : P → Q) (event : Event P) : (event.map f).copy = event.copy := by
  cases event <;> rfl

/-- No comment is marked in both ways. -/
theorem not_leading_and_trailing (event : Event P) : ¬(event.leading ∧ event.trailing) := by
  cases event with
  | enter owner place => exact fun h => Bool.noConfusion h.2
  | leave owner place hasInner => exact fun h => Bool.noConfusion h.1

end Event

mutual

/-- What the walk passes at a node. -/
def Site.events : Site → List (Event Place)
  | .mk path fields inner =>
    .enter (some path) (.ofFields .start fields) ::
      (eventsOf inner ++ [.leave (some path) (.ofFields .stop fields) (!inner.isEmpty)])
termination_by structural site => site

/-- What the walk passes at nodes one after the other. -/
def eventsOf : List Site → List (Event Place)
  | [] => []
  | site :: rest => site.events ++ eventsOf rest
termination_by structural sites => sites

end

theorem eventsOf_eq_flatMap (sites : List Site) : eventsOf sites = sites.flatMap Site.events := by
  induction sites with
  | nil => rfl
  | cons site rest ih => rw [eventsOf, ih, List.flatMap_cons]

/-- What the walk passes, from the start of the script to its end. -/
def events [Sorter] (script : Script) : List (Event Place) :=
  .enter none (.ofSpan .start script.span) ::
    (eventsOf script.route ++ [.leave none (.ofSpan .stop script.span) (!script.route.isEmpty)])

/-- Deals comments out to events, one event after the other. -/
def deal : List (Event Place) → List Comment → List Copy × List Comment
  | [], line => ([], line)
  | event :: rest, line =>
    let taken := slice event.owner event.place event.leading event.trailing line
    let others := deal rest taken.2
    (taken.1 ++ others.1, others.2)

theorem deal_cons (event : Event Place) (rest : List (Event Place)) (line : List Comment) :
    deal (event :: rest) line =
      ((line.takeWhile (isDue event.place)).map event.copy ++
          (deal rest (line.dropWhile (isDue event.place))).1,
        (deal rest (line.dropWhile (isDue event.place))).2) := rfl

theorem deal_append (events others : List (Event Place)) (line : List Comment) :
    deal (events ++ others) line =
      ((deal events line).1 ++ (deal others (deal events line).2).1,
        (deal others (deal events line).2).2) := by
  induction events generalizing line with
  | nil => rfl
  | cons event rest ih => rw [List.cons_append, deal_cons, deal_cons, ih, List.append_assoc]

/-- No event takes anything from an empty line. -/
theorem deal_nil (events : List (Event Place)) : deal events [] = ([], []) := by
  induction events with
  | nil => rfl
  | cons event rest ih => rw [deal_cons, List.takeWhile_nil, List.dropWhile_nil, ih]; rfl

/-- What is dealt out from a start to the end that belongs to it. -/
theorem deal_enclosed (owner : Option Path) (start stop : Place) (hasInner : Bool)
    (inner : List (Event Place)) (line : List Comment) :
    deal (.enter owner start :: (inner ++ [.leave owner stop hasInner])) line =
      let before := slice owner start true false line
      let inside := deal inner before.2
      let after := slice owner stop false hasInner inside.2
      (before.1 ++ inside.1 ++ after.1, after.2) := by
  have last : ∀ line, deal [.leave owner stop hasInner] line =
      slice owner stop false hasInner line :=
    fun _ => Prod.ext (List.append_nil _) rfl
  rw [deal, deal_append, last]
  exact Prod.ext (List.append_assoc _ _ _).symm rfl

mutual

theorem Site.walk_eq_deal (site : Site) (line : List Comment) :
    site.walk line = deal site.events line := by
  match site with
  | .mk path fields inner =>
    rw [Site.walk, Site.events]
    split
    · rename_i hempty
      rw [List.isEmpty_iff.1 hempty, deal_nil]
    · simp only [walkAll_eq_deal inner, deal_enclosed]

theorem walkAll_eq_deal (sites : List Site) (line : List Comment) :
    walkAll sites line = deal (eventsOf sites) line := by
  match sites with
  | [] => rfl
  | site :: rest =>
    rw [walkAll, eventsOf, deal_append, Site.walk_eq_deal site, walkAll_eq_deal rest]

end

/-- **The walk deals the sorted comments out to the events.** -/
theorem walk_eq_deal [Sorter] (script : Script) :
    script.walk = deal script.events script.sortedComments := by
  rw [walk, events, deal_enclosed, walkAll_eq_deal]

/-! ## The first event for each comment -/

/-- The copy of a comment at the first event that it is due at. -/
def firstDue (events : List (Event Place)) (comment : Comment) : Option Copy :=
  (events.find? fun event => isDue event.place comment).map fun event => event.copy comment

theorem firstDue_cons_of_due {event : Event Place} {comment : Comment}
    (h : isDue event.place comment = true) (rest : List (Event Place)) :
    firstDue (event :: rest) comment = some (event.copy comment) := by
  have hfirst : (event :: rest).find? (fun event => isDue event.place comment) = some event :=
    List.find?_cons_of_pos h
  rw [firstDue, hfirst, Option.map_some]

theorem firstDue_cons_of_not_due {event : Event Place} {comment : Comment}
    (h : ¬isDue event.place comment = true) (rest : List (Event Place)) :
    firstDue (event :: rest) comment = firstDue rest comment := by
  have hfirst : (event :: rest).find? (fun event => isDue event.place comment) =
      rest.find? fun event => isDue event.place comment := List.find?_cons_of_neg h
  rw [firstDue, hfirst, firstDue]

/-- Where those in front are due with those behind, none is due behind the first that is not. -/
theorem not_of_mem_dropWhile {due : Comment → Bool} {line : List Comment}
    (h : line.Pairwise fun a b => due b = true → due a = true) :
    ∀ comment ∈ line.dropWhile due, ¬due comment = true := by
  induction line with
  | nil => exact fun _ hmem => (List.not_mem_nil hmem).elim
  | cons first rest ih =>
    rw [List.pairwise_cons] at h
    by_cases hfirst : due first = true
    · rw [List.dropWhile_cons_of_pos hfirst]
      exact ih h.2
    · rw [List.dropWhile_cons_of_neg hfirst]
      exact List.forall_mem_cons.2 ⟨hfirst, fun comment hmem hdue => hfirst (h.1 comment hmem hdue)⟩

/-- **A line in which those in front are due with those behind is dealt out to the first events.**
What an event takes is what is due there; for what is left this event is not the first one. -/
theorem deal_eq_filterMap {events : List (Event Place)} {line : List Comment}
    (h : ∀ event ∈ events,
      line.Pairwise fun a b => isDue event.place b = true → isDue event.place a = true) :
    (deal events line).1 = line.filterMap (firstDue events) := by
  induction events generalizing line with
  | nil => exact (List.filterMap_eq_nil_iff.2 fun _ _ => rfl).symm
  | cons event rest ih =>
    rw [List.forall_mem_cons] at h
    have htaken : (line.takeWhile (isDue event.place)).filterMap (firstDue (event :: rest)) =
        (line.takeWhile (isDue event.place)).map event.copy := by
      rw [← List.filterMap_eq_map]
      refine List.filterMap_congr fun comment hcomment => firstDue_cons_of_due ?_ rest
      exact List.all_eq_true.1 List.all_takeWhile comment hcomment
    have hleft : (line.dropWhile (isDue event.place)).filterMap (firstDue (event :: rest)) =
        (line.dropWhile (isDue event.place)).filterMap (firstDue rest) :=
      List.filterMap_congr fun comment hcomment =>
        firstDue_cons_of_not_due (not_of_mem_dropWhile h.1 comment hcomment) rest
    have hothers := ih fun other hother =>
      (h.2 other hother).sublist (List.dropWhile_sublist (isDue event.place))
    rw [deal_cons, hothers, ← hleft, ← htaken, ← List.filterMap_append,
      List.takeWhile_append_dropWhile]

/-! ## What the copies tell of the line -/

/-- A comment and a copy of it: they differ in the marks, which are both set in the copy, and not
both to true. -/
structure IsCopyOf (copy original : Comment) : Prop where
  kind : copy.kind = original.kind
  text : copy.text = original.text
  origin : copy.origin = original.origin
  marks : ∃ leading trailing : Bool,
    copy.leading = some leading ∧ copy.trailing = some trailing ∧ ¬(leading ∧ trailing)

theorem Event.isCopyOf {P : Type} (event : Event P) (comment : Comment) :
    IsCopyOf (event.copy comment).2 comment where
  kind := rfl
  text := rfl
  origin := rfl
  marks := ⟨event.leading, event.trailing, rfl, rfl, event.not_leading_and_trailing⟩

/-- **The copies are copies of the comments at the front of the line,** in their order; the others
are left. -/
theorem deal_split (events : List (Event Place)) (line : List Comment) :
    ∃ taken, line = taken ++ (deal events line).2 ∧
      List.Forall₂ IsCopyOf ((deal events line).1.map Prod.snd) taken := by
  induction events generalizing line with
  | nil => exact ⟨[], rfl, .nil⟩
  | cons event rest ih =>
    obtain ⟨taken, hsplit, hcopies⟩ := ih (line.dropWhile (isDue event.place))
    refine ⟨line.takeWhile (isDue event.place) ++ taken, ?_, ?_⟩
    · rw [deal_cons, List.append_assoc, ← hsplit, List.takeWhile_append_dropWhile]
    · rw [deal_cons, List.map_append, List.map_map]
      refine List.rel_append ?_ hcopies
      rw [List.forall₂_map_left_iff, List.forall₂_same]
      exact fun comment _ => event.isCopyOf comment

/-- Every copy is made at an event. -/
theorem exists_event_of_mem_deal {events : List (Event Place)} {line : List Comment} {copy : Copy}
    (h : copy ∈ (deal events line).1) :
    ∃ event ∈ events, ∃ comment, copy = event.copy comment := by
  induction events generalizing line with
  | nil => exact (List.not_mem_nil h).elim
  | cons event rest ih =>
    rw [deal_cons, List.mem_append, List.mem_map] at h
    rcases h with ⟨comment, -, rfl⟩ | h
    · exact ⟨event, List.mem_cons_self, comment, rfl⟩
    · obtain ⟨other, hother, hcopy⟩ := ih h
      exact ⟨other, List.mem_cons_of_mem _ hother, hcopy⟩

/-- Whether a copy has a given owner, and a given first mark. -/
def isAt (label : Option Path × Bool) (copy : Copy) : Bool :=
  copy.1 = label.1 && copy.2.leading = some label.2

theorem isAt_iff {label : Option Path × Bool} {copy : Copy} :
    isAt label copy = true ↔ copy.1 = label.1 ∧ copy.2.leading = some label.2 := by
  rw [isAt, Bool.and_eq_true, decide_eq_true_iff, decide_eq_true_iff]

theorem isAt_copy {P : Type} (label : Option Path × Bool) (event : Event P) (comment : Comment) :
    isAt label (event.copy comment) = true ↔ event.label = label := by
  rw [isAt_iff, Prod.ext_iff]
  exact and_congr_right fun _ => Option.some_inj

/-- **The copies can be told apart by their labels.**  An event has no copies but those with its
label, if its label is that of no other event, so collecting copies by the labels of the events
gives them all, in the order in which they were made. -/
theorem deal_regroup {events : List (Event Place)} (h : (events.map Event.label).Nodup)
    (line : List Comment) :
    (events.flatMap fun event => (deal events line).1.filter (isAt event.label)) =
      (deal events line).1 := by
  induction events generalizing line with
  | nil => rfl
  | cons event rest ih =>
    rw [List.map_cons, List.nodup_cons] at h
    obtain ⟨hfresh, hrest⟩ := h
    have own : ((line.takeWhile (isDue event.place)).map event.copy).filter (isAt event.label) =
        (line.takeWhile (isDue event.place)).map event.copy := by
      refine List.filter_eq_self.2 fun copy hcopy => ?_
      obtain ⟨comment, -, rfl⟩ := List.mem_map.1 hcopy
      exact (isAt_copy _ event comment).2 rfl
    have foreign : (deal rest (line.dropWhile (isDue event.place))).1.filter
        (isAt event.label) = [] := by
      refine List.filter_eq_nil_iff.2 fun copy hcopy hat => ?_
      obtain ⟨other, hother, comment, rfl⟩ := exists_event_of_mem_deal hcopy
      exact hfresh ((isAt_copy _ _ _).1 hat ▸ List.mem_map_of_mem hother)
    have others : ∀ other ∈ rest, ((line.takeWhile (isDue event.place)).map event.copy).filter
        (isAt other.label) = [] := by
      intro other hother
      refine List.filter_eq_nil_iff.2 fun copy hcopy hat => ?_
      obtain ⟨comment, -, rfl⟩ := List.mem_map.1 hcopy
      exact hfresh ((isAt_copy _ _ _).1 hat ▸ List.mem_map_of_mem hother)
    rw [deal_cons, List.flatMap_cons, List.filter_append, own, foreign, List.append_nil]
    refine congrArg (_ ++ ·) (Eq.trans ?_ (ih hrest (line.dropWhile (isDue event.place))))
    refine List.flatMap_congr fun other hother => ?_
    rw [List.filter_append, others other hother, List.nil_append]

end Script
end MarkupJsx
