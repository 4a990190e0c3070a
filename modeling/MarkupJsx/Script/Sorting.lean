/-!
# Sorting by a comparison that may be no order

Nodes and comments are sorted by where they start, and some of them may not say where that is.
Such a one compares as equal to everything, so "equal" need not be transitive, and then there is no
order in the usual sense.

What a sort does with such a list is its own affair: it may leave the items in any order, and it may
notice what is wrong and give up, which ends the program.  A `Sorter` is a sort of which only this
is known: it loses nothing; it sees the items through the comparison alone; and where the comparison
is an order (`IsOrder`), it does not give up and sorts stably (`StablySorted`).  Everything that is
said of scripts is said for every sorter.
-/

namespace MarkupJsx
namespace Sorting

variable {α : Type}

/-- A comparison that is an order in which different items may have the same place. -/
structure IsOrder (less : α → α → Bool) : Prop where
  asymm : ∀ a b, less a b → ¬less b a
  /-- Whatever is put between two items is above the lower one or below the upper one. -/
  cotrans : ∀ a b c, less a c → less a b ∨ less b c

/-- A comparison that is an order as far as the items of a list go. -/
def IsOrderOn (less : α → α → Bool) (items : List α) : Prop :=
  IsOrder fun a b : { item // item ∈ items } => less a.1 b.1

/-- Whether neither of two items is less than the other. -/
def same (less : α → α → Bool) (a b : α) : Bool :=
  !less a b && !less b a

/-- A list in order, in which items with the same place stand as they do in another list. -/
structure StablySorted (less : α → α → Bool) (items sorted : List α) : Prop where
  pairwise : sorted.Pairwise fun a b => ¬less b a
  stable : ∀ a, sorted.filter (same less a) = items.filter (same less a)

end Sorting

/-- A way of sorting lists.  It answers nothing for a list that it gives up on. -/
class Sorter where
  sort? {α : Type} (less : α → α → Bool) (items : List α) : Option (List α)
  perm_of_sort? {α : Type} {less : α → α → Bool} {items sorted : List α} :
    sort? less items = some sorted → sorted.Perm items
  /-- Items that are put for others compare as the others do, so they end up in the same places. -/
  sort?_map {α β : Type} (less : β → β → Bool) (f : α → β) (items : List α) :
    sort? less (items.map f) =
      (sort? (fun left right => less (f left) (f right)) items).map (List.map f)
  exists_sort?_of_isOrder {α : Type} {less : α → α → Bool} (items : List α) :
    Sorting.IsOrder less → ∃ sorted, sort? less items = some sorted ∧
      Sorting.StablySorted less items sorted

namespace Sorting

variable {α β : Type} [Sorter]

/-- The items of a list sorted, or as they are if the sort gives up on them. -/
def sort (less : α → α → Bool) (items : List α) : List α :=
  (Sorter.sort? less items).getD items

/-- Sorting changes the order of things alone. -/
theorem perm_sort (less : α → α → Bool) (items : List α) : (sort less items).Perm items := by
  rw [sort]
  cases h : Sorter.sort? less items with
  | none => exact List.Perm.refl _
  | some sorted => exact Sorter.perm_of_sort? h

theorem sort_map (less : β → β → Bool) (f : α → β) (items : List α) :
    sort less (items.map f) =
      (sort (fun left right => less (f left) (f right)) items).map f := by
  rw [sort, sort, Sorter.sort?_map]
  cases Sorter.sort? (fun left right => less (f left) (f right)) items <;> rfl

@[simp] theorem sort_nil (less : α → α → Bool) : sort less [] = [] :=
  (perm_sort less []).eq_nil

/-- What a sort does depends on how the items of the list compare with each other, and on nothing
else. -/
theorem sort?_congr {less other : α → α → Bool} {items : List α}
    (h : ∀ a ∈ items, ∀ b ∈ items, less a b = other a b) :
    Sorter.sort? less items = Sorter.sort? other items := by
  have hitems : items.attach.map Subtype.val = items := List.attach_map_subtype_val items
  have hsame : (fun a b : { item // item ∈ items } => less a.1 b.1) = fun a b => other a.1 b.1 :=
    funext fun a => funext fun b => h a.1 a.2 b.1 b.2
  rw [← hitems, Sorter.sort?_map, Sorter.sort?_map, hsame]

/-- No sort gives up on items that are in an order. -/
theorem isSome_sort?_of_isOrderOn {less : α → α → Bool} {items : List α}
    (h : IsOrderOn less items) : (Sorter.sort? less items).isSome := by
  have hitems : items.attach.map Subtype.val = items := List.attach_map_subtype_val items
  obtain ⟨sorted, hsorted, -⟩ := Sorter.exists_sort?_of_isOrder items.attach h
  rw [← hitems, Sorter.sort?_map, hsorted]
  rfl

end Sorting
end MarkupJsx
