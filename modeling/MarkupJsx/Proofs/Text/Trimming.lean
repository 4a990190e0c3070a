import Mathlib.Data.List.Basic
import Mathlib.Data.List.TakeWhile
import MarkupJsx.Text.Blank

/-!
# What is left after trimming

A trimmed list is a middle part of the list.  What stands in front of it and behind it is of the
class, and its own first and last elements are not, so no longer part can be taken off at either end
(`Trims`).  An empty list is left exactly where all elements are of the class.

* `trimBy_eq_iff`: trimming does just this, so there is one such part and no other.
* `trimBy_append_left`, `trimBy_append_right`: what is added of the class at an end is taken off
  again.
* `exists_of_between`: an element with others that are not of the class on both sides stays in its
  place.
-/

namespace MarkupJsx
namespace Text

variable {α : Type} {p : α → Bool} {items out left right : List α}

/-- A list, and what is left of it without the elements of a class at its ends. -/
def Trims (p : α → Bool) (items out : List α) : Prop :=
  ∃ left right, items = left ++ (out ++ right) ∧ (∀ x ∈ left, p x) ∧ (∀ x ∈ right, p x) ∧
    (∀ x ∈ out.head?, p x = false) ∧ ∀ x ∈ out.getLast?, p x = false

theorem eq_false_of_mem_head?_dropWhile {x : α} (h : x ∈ (items.dropWhile p).head?) :
    p x = false := by
  have hhead := List.head?_dropWhile_not p items
  rw [Option.mem_def.1 h] at hhead
  simpa using hhead

theorem trims_trimBy (p : α → Bool) (items : List α) : Trims p items (trimBy p items) := by
  obtain ⟨right, hright, hsplit⟩ := exists_dropEndWhile_append p (items.dropWhile p)
  have hfirst : ∀ x ∈ (trimBy p items).head?, p x = false := by
    intro x hx
    have hhead : x ∈ (items.dropWhile p).head? := by
      rw [hsplit, List.head?_append, ← trimBy, Option.mem_def.1 hx, Option.some_or]
      rfl
    exact eq_false_of_mem_head?_dropWhile hhead
  have hlast : ∀ x ∈ (trimBy p items).getLast?, p x = false := by
    intro x hx
    rw [trimBy, dropEndWhile, List.getLast?_reverse] at hx
    exact eq_false_of_mem_head?_dropWhile hx
  refine ⟨items.takeWhile p, right, ?_, List.all_eq_true.1 List.all_takeWhile, hright, hfirst,
    hlast⟩
  rw [trimBy, ← hsplit, List.takeWhile_append_dropWhile]

theorem trimBy_eq_nil (h : ∀ x ∈ items, p x) : trimBy p items = [] := by
  rw [trimBy, List.dropWhile_eq_nil_iff.2 h, dropEndWhile_nil]

theorem trimBy_of_trims (h : Trims p items out) : trimBy p items = out := by
  obtain ⟨left, right, rfl, hleft, hright, hfirst, hlast⟩ := h
  rcases List.eq_nil_or_concat' out with rfl | ⟨front, last, rfl⟩
  · refine trimBy_eq_nil fun x hx => ?_
    rw [List.nil_append] at hx
    exact (List.mem_append.1 hx).elim (hleft x) (hright x)
  · have hfrontStops : (front ++ [last] ++ right).dropWhile p = front ++ [last] ++ right := by
      cases front with
      | nil => exact List.dropWhile_cons_of_neg (by simp [hfirst last rfl])
      | cons first front => exact List.dropWhile_cons_of_neg (by simp [hfirst first rfl])
    have hlast : ¬p last := by simp [hlast last (by simp)]
    rw [trimBy, List.dropWhile_append_of_pos hleft, hfrontStops, List.append_assoc,
      List.singleton_append, dropEndWhile_append_cons hlast, dropEndWhile_eq_nil hright]

/-- **The elements of the class at the ends are taken off a list, and nothing else is.** -/
theorem trimBy_eq_iff : trimBy p items = out ↔ Trims p items out := by
  constructor
  · rintro rfl
    exact trims_trimBy p items
  · exact trimBy_of_trims

/-- It is no matter how much of the class is added in front. -/
theorem trimBy_append_left (h : ∀ x ∈ left, p x) (items : List α) :
    trimBy p (left ++ items) = trimBy p items := by
  rw [trimBy, List.dropWhile_append_of_pos h, ← trimBy]

/-- It is no matter how much of the class is added behind. -/
theorem trimBy_append_right (h : ∀ x ∈ right, p x) (items : List α) :
    trimBy p (items ++ right) = trimBy p items := by
  obtain ⟨front, back, hsplit, hfront, hback, hends⟩ := trims_trimBy p items
  have hbehind : ∀ x ∈ back ++ right, p x := fun x hx =>
    (List.mem_append.1 hx).elim (hback x) (h x)
  refine trimBy_of_trims ⟨front, back ++ right, ?_, hfront, hbehind, hends⟩
  conv_lhs => rw [hsplit, List.append_assoc, List.append_assoc]

/-- A list that has nothing of the class at its ends is left as it is. -/
theorem trimBy_of_ends (hfirst : ∀ x ∈ items.head?, p x = false)
    (hlast : ∀ x ∈ items.getLast?, p x = false) : trimBy p items = items :=
  trimBy_of_trims ⟨[], [], by simp, by simp, by simp, hfirst, hlast⟩

/-- **What stands between is kept in its place.**  If a list has elements that are not of the class
on both sides of a place, then what is taken off at the ends does not reach that place. -/
theorem exists_of_between {before after : List α} {x : α}
    (hsplit : before ++ x :: after = left ++ (out ++ right)) (hleft : ∀ y ∈ left, p y)
    (hright : ∀ y ∈ right, p y) (hbefore : ∃ y ∈ before, p y = false)
    (hafter : ∃ y ∈ after, p y = false) :
    ∃ before' after', before = left ++ before' ∧ after = after' ++ right ∧
      out = before' ++ x :: after' := by
  obtain ⟨first, hfirst, hfirstClass⟩ := hbefore
  obtain ⟨last, hlast, hlastClass⟩ := hafter
  have hnotLeft : first ∉ left := fun hmem => by simp [hleft first hmem] at hfirstClass
  have hnotRight : last ∉ right := fun hmem => by simp [hright last hmem] at hlastClass
  -- The part in front of the place reaches beyond what is taken off at the front.
  rcases List.append_eq_append_iff.1 hsplit with ⟨more, rfl, -⟩ | ⟨before', rfl, hrest⟩
  · exact absurd (List.mem_append_left more hfirst) hnotLeft
  -- The part behind the place reaches beyond what is taken off at the end.
  rcases List.append_eq_append_iff.1 hrest with ⟨more, -, rfl⟩ | ⟨more, hout, hmore⟩
  · exact absurd (List.mem_append_right more (List.mem_cons_of_mem x hlast)) hnotRight
  · cases more with
    | nil =>
      rw [List.nil_append] at hmore
      exact absurd (hmore ▸ List.mem_cons_of_mem x hlast) hnotRight
    | cons y after' =>
      obtain ⟨rfl, rfl⟩ := List.cons.inj hmore
      exact ⟨before', after', rfl, rfl, hout⟩

end Text
end MarkupJsx
