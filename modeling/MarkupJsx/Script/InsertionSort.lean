import MarkupJsx.Script.Sorting

/-!
# A sorter

The items are taken from left to right, and each moves to the left past its neighbours as long as it
is strictly less than the next of them.  Where the comparison is an order this sorts stably
(`stablySorted_sort`).  Where it is none, a few items are left as they come to stand; of more than a
few it is asked that they come to stand in order, and otherwise the sort gives up.
-/

namespace MarkupJsx
namespace Sorting
namespace Insertion

variable {α β : Type}

/-- Moves an item into a reversed list, past the items that it is less than. -/
def insertReversed (less : α → α → Bool) (item : α) : List α → List α
  | [] => [item]
  | last :: before =>
    if less item last then last :: insertReversed less item before else item :: last :: before

/-- Each item in turn, moved to the left past the items that it is less than. -/
def insertAll (less : α → α → Bool) (items : List α) : List α :=
  (items.foldl (fun done item => insertReversed less item done) []).reverse

/-- How many items are always sorted. -/
def few : Nat := 20

/-- Sorts a list, or gives up if it is long and does not come to stand in order. -/
def sort? (less : α → α → Bool) (items : List α) : Option (List α) :=
  let sorted := insertAll less items
  if items.length ≤ few ∨ sorted.Pairwise fun a b => ¬less b a then some sorted else none

/-- Moving an item changes the order of things alone. -/
theorem perm_insertReversed (less : α → α → Bool) (item : α) (done : List α) :
    (insertReversed less item done).Perm (item :: done) := by
  induction done with
  | nil => exact List.Perm.refl _
  | cons last before ih =>
    unfold insertReversed
    split
    · exact (ih.cons last).trans (List.Perm.swap item last before)
    · exact List.Perm.refl _

theorem perm_insertAll (less : α → α → Bool) (items : List α) :
    (insertAll less items).Perm items := by
  have fold : ∀ items done : List α,
      (items.foldl (fun done item => insertReversed less item done) done).Perm
        (items.reverse ++ done) := by
    intro items
    induction items with
    | nil => intro done; exact List.Perm.refl _
    | cons item rest ih =>
      intro done
      refine (ih (insertReversed less item done)).trans ?_
      rw [List.reverse_cons, List.append_assoc]
      exact (perm_insertReversed less item done).append_left rest.reverse
  have hperm := fold items []
  rw [List.append_nil] at hperm
  exact (List.reverse_perm _).trans (hperm.trans (List.reverse_perm items))

theorem insertReversed_map (less : β → β → Bool) (f : α → β) (item : α) (done : List α) :
    insertReversed less (f item) (done.map f) =
      (insertReversed (fun left right => less (f left) (f right)) item done).map f := by
  induction done with
  | nil => rfl
  | cons last before ih =>
    rw [List.map_cons, insertReversed, insertReversed]
    split
    · rw [ih, List.map_cons]
    · rw [List.map_cons, List.map_cons]

theorem insertAll_map (less : β → β → Bool) (f : α → β) (items : List α) :
    insertAll less (items.map f) =
      (insertAll (fun left right => less (f left) (f right)) items).map f := by
  have fold : ∀ items done : List α,
      (items.map f).foldl (fun done item => insertReversed less item done) (done.map f) =
        (items.foldl (fun done item =>
          insertReversed (fun left right => less (f left) (f right)) item done) done).map f := by
    intro items
    induction items with
    | nil => intro done; rfl
    | cons item rest ih =>
      intro done
      rw [List.map_cons, List.foldl_cons, List.foldl_cons, insertReversed_map, ih]
  rw [insertAll, insertAll, List.map_reverse]
  exact congrArg List.reverse (fold items [])

section Order

variable {less : α → α → Bool} (h : IsOrder less)
include h

/-- An item moves past larger items only, so that a reversed list stays in order. -/
theorem pairwise_insertReversed (item : α) {done : List α}
    (hdone : done.Pairwise fun a b => ¬less a b) :
    (insertReversed less item done).Pairwise fun a b => ¬less a b := by
  induction done with
  | nil => exact List.pairwise_singleton _ _
  | cons last before ih =>
    rw [List.pairwise_cons] at hdone
    rw [insertReversed]
    split
    · rename_i hless
      refine List.pairwise_cons.2 ⟨fun other hother => ?_, ih hdone.2⟩
      rcases List.mem_cons.1 ((perm_insertReversed less item before).mem_iff.1 hother) with
        rfl | hin
      · exact h.asymm _ _ hless
      · exact hdone.1 other hin
    · rename_i hless
      refine List.pairwise_cons.2 ⟨fun other hother hitem => ?_, List.pairwise_cons.2 hdone⟩
      rcases List.mem_cons.1 hother with rfl | hin
      · exact hless hitem
      · rcases h.cotrans item last other hitem with hlast | hlast
        · exact hless hlast
        · exact hdone.1 other hin hlast

/-- Items with the same place do not change places. -/
theorem filter_insertReversed (a item : α) (done : List α) :
    (insertReversed less item done).filter (same less a) =
      (item :: done).filter (same less a) := by
  induction done with
  | nil => rfl
  | cons last before ih =>
    rw [insertReversed]
    split
    · rename_i hless
      -- An item and one that it is less than are not both at the place of a third one.
      have hone : same less a item = false ∨ same less a last = false := by
        rcases h.cotrans item a last hless with hitem | hlast
        · exact Or.inl (by rw [same, hitem, Bool.not_true, Bool.and_false])
        · exact Or.inr (by rw [same, hlast, Bool.not_true, Bool.false_and])
      rw [List.filter_cons, ih, List.filter_cons, List.filter_cons, List.filter_cons]
      rcases hone with hfalse | hfalse <;> simp only [hfalse, Bool.false_eq_true, if_false]
    · rfl

/-- **Where the comparison is an order, the items are sorted stably.** -/
theorem stablySorted_insertAll (items : List α) :
    StablySorted less items (insertAll less items) := by
  -- What is done so far is in order from right to left, with items of one place from right to left.
  have fold : ∀ items done : List α, done.Pairwise (fun a b => ¬less a b) →
      let result := items.foldl (fun done item => insertReversed less item done) done
      result.Pairwise (fun a b => ¬less a b) ∧
        ∀ a, result.filter (same less a) = (items.reverse ++ done).filter (same less a) := by
    intro items
    induction items with
    | nil => exact fun done hdone => ⟨hdone, fun _ => rfl⟩
    | cons item rest ih =>
      intro done hdone
      obtain ⟨hsorted, hstable⟩ := ih _ (pairwise_insertReversed h item hdone)
      refine ⟨hsorted, fun a => (hstable a).trans ?_⟩
      rw [List.filter_append, filter_insertReversed h, ← List.filter_append, List.reverse_cons,
        List.append_assoc]
      rfl
  obtain ⟨hsorted, hstable⟩ := fold items [] .nil
  refine ⟨List.pairwise_reverse.2 hsorted, fun a => ?_⟩
  rw [insertAll, List.filter_reverse, hstable, List.append_nil, List.filter_reverse,
    List.reverse_reverse]

end Order

theorem sort?_map (less : β → β → Bool) (f : α → β) (items : List α) :
    sort? less (items.map f) =
      (sort? (fun left right => less (f left) (f right)) items).map (List.map f) := by
  simp only [sort?, insertAll_map, List.length_map, List.pairwise_map]
  split <;> rfl

/-- The sorter. -/
scoped instance : Sorter where
  sort? := sort?
  perm_of_sort? := by
    intro α less items sorted h
    rw [sort?] at h
    split at h
    · rw [← Option.some.inj h]
      exact perm_insertAll less items
    · exact nomatch h
  sort?_map := sort?_map
  exists_sort?_of_isOrder := by
    intro α less items h
    have hsorted := stablySorted_insertAll h items
    exact ⟨_, if_pos (Or.inr hsorted.pairwise), hsorted⟩

end Insertion
end Sorting
end MarkupJsx
