import Mathlib.Data.List.Sort
import MarkupJsx.Script.Sorting

/-!
# Sorting by a key

Where every item has a key in a linear order, such as a number, and an item is less than another
exactly if its key is, no sort gives up (`exists_sort?_of_key`).  It sorts by that key
(`pairwise_sort`), and keeps items with the same key in their order (`withKey_sort`).

A list that is sorted by key is determined by its items with each key, in their order
(`eq_of_pairwise_of_withKey`): its first item is one with the least key, and the first of these.  So
this is the stable sort by key (`sort_eq_mergeSort`).
-/

namespace MarkupJsx
namespace Sorting

variable {α κ : Type} [LinearOrder κ] {key : α → κ}

/-- The items with a given key. -/
def withKey (key : α → κ) (k : κ) (items : List α) : List α :=
  items.filter fun item => key item = k

@[simp] theorem withKey_nil (k : κ) : withKey key k [] = [] := rfl

theorem withKey_cons_self (item : α) (items : List α) :
    withKey key (key item) (item :: items) = item :: withKey key (key item) items :=
  List.filter_cons_of_pos (decide_eq_true rfl)

theorem withKey_cons_of_ne {k : κ} {item : α} (h : key item ≠ k) (items : List α) :
    withKey key k (item :: items) = withKey key k items :=
  List.filter_cons_of_neg (by simpa using h)

theorem mem_of_withKey_eq_cons {k : κ} {item : α} {items others : List α}
    (h : withKey key k items = item :: others) : item ∈ items :=
  (List.mem_filter.1 (h ▸ List.mem_cons_self : item ∈ withKey key k items)).1

/-- **A stably sorted list is determined by its items with each key.** -/
theorem eq_of_pairwise_of_withKey {items others : List α}
    (hitems : items.Pairwise fun a b => key a ≤ key b)
    (hothers : others.Pairwise fun a b => key a ≤ key b)
    (h : ∀ k, withKey key k items = withKey key k others) : items = others := by
  induction items generalizing others with
  | nil =>
    cases others with
    | nil => rfl
    | cons other rest => exact nomatch (h (key other)).trans (withKey_cons_self other rest)
  | cons item rest ih =>
    cases others with
    | nil => exact nomatch (h (key item)).symm.trans (withKey_cons_self item rest)
    | cons other tail =>
      rw [List.pairwise_cons] at hitems hothers
      have hmem := mem_of_withKey_eq_cons ((h (key item)).symm.trans (withKey_cons_self item rest))
      have hmem' := mem_of_withKey_eq_cons ((h (key other)).trans (withKey_cons_self other tail))
      -- Each of the two heads is in the other list, so neither has the smaller key.
      have hle : key other ≤ key item := by
        rcases List.mem_cons.1 hmem with heq | hin
        · exact (congrArg key heq).ge
        · exact hothers.1 item hin
      have hge : key item ≤ key other := by
        rcases List.mem_cons.1 hmem' with heq | hin
        · exact (congrArg key heq).ge
        · exact hitems.1 other hin
      have hkey : key other = key item := le_antisymm hle hge
      have hheads := h (key item)
      rw [withKey_cons_self, ← hkey, withKey_cons_self] at hheads
      obtain rfl : item = other := (List.cons.inj hheads).1
      refine congrArg (item :: ·) (ih hitems.2 hothers.2 fun k => ?_)
      by_cases hk : key item = k
      · subst hk
        exact (List.cons.inj hheads).2
      · have hrest := h k
        rwa [withKey_cons_of_ne hk, withKey_cons_of_ne hk] at hrest

/-- What holds between items with the same key holds within the items with each key. -/
theorem pairwise_iff_withKey {R : α → α → Prop} {items : List α} :
    (items.Pairwise fun a b => key a = key b → R a b) ↔
      ∀ k, (withKey key k items).Pairwise R := by
  constructor
  · intro h k
    refine (h.filter _).imp_of_mem fun ha hb hab => hab ?_
    rw [of_decide_eq_true (List.mem_filter.1 ha).2, of_decide_eq_true (List.mem_filter.1 hb).2]
  · intro h
    refine List.pairwise_iff_forall_sublist.2 fun {a b} hsub hkey => ?_
    have hpair : withKey key (key b) [a, b] = [a, b] := by
      rw [← hkey, withKey_cons_self, hkey, withKey_cons_self, withKey_nil]
    have hkept : [a, b].Sublist (withKey key (key b) items) := by
      rw [← hpair]
      exact hsub.filter _
    exact List.pairwise_iff_forall_sublist.1 (h (key b)) hkept

theorem pairwise_mergeSort_key (items : List α) :
    (items.mergeSort fun a b => key a ≤ key b).Pairwise fun a b => key a ≤ key b := by
  have h : (items.mergeSort fun a b => key a ≤ key b).Pairwise
      fun a b => decide (key a ≤ key b) = true :=
    List.pairwise_mergeSort (fun a b c => by simpa using le_trans)
      (fun a b => by simpa using le_total _ _) items
  exact h.imp of_decide_eq_true

/-- The stable sort keeps the order of items with the same key. -/
theorem withKey_mergeSort (items : List α) (k : κ) :
    withKey key k (items.mergeSort fun a b => key a ≤ key b) = withKey key k items := by
  have hequal : (withKey key k items).Pairwise fun a b => decide (key a ≤ key b) = true := by
    refine List.pairwise_of_forall_mem_list fun a ha b hb => decide_eq_true ?_
    rw [of_decide_eq_true (List.mem_filter.1 ha).2, of_decide_eq_true (List.mem_filter.1 hb).2]
  have hsub : (withKey key k items).Sublist (items.mergeSort fun a b => key a ≤ key b) :=
    List.sublist_mergeSort (fun a b c => by simpa using le_trans)
      (fun a b => by simpa using le_total _ _) hequal List.filter_sublist
  have hfiltered := hsub.filter fun item => key item = k
  rw [withKey, List.filter_filter] at hfiltered
  simp only [Bool.and_self] at hfiltered
  refine (hfiltered.eq_of_length ?_).symm
  exact (((List.mergeSort_perm items _).filter _).length_eq).symm

/-! ## Every sorter -/

/-- The order of keys is an order of the items. -/
theorem isOrder_key : IsOrder fun a b : α => decide (key a < key b) where
  asymm := fun a b hab hba => (of_decide_eq_true hab).asymm (of_decide_eq_true hba)
  cotrans := by
    intro a b c hac
    rcases lt_or_ge (key a) (key b) with hab | hba
    · exact Or.inl (decide_eq_true hab)
    · exact Or.inr (decide_eq_true (hba.trans_lt (of_decide_eq_true hac)))

theorem filter_same_key (a : α) (items : List α) :
    items.filter (same (fun a b => decide (key a < key b)) a) = withKey key (key a) items := by
  refine List.filter_congr fun b _ => ?_
  rw [same, Bool.eq_iff_iff, Bool.and_eq_true, Bool.not_eq_true', Bool.not_eq_true',
    decide_eq_false_iff_not, decide_eq_false_iff_not, decide_eq_true_iff, not_lt, not_lt]
  exact ⟨fun h => le_antisymm h.1 h.2, fun h => ⟨h.le, h.ge⟩⟩

section Keys

variable [Sorter] {less : α → α → Bool} {items : List α}
  (h : ∀ item ∈ items, ∀ other ∈ items, less item other = decide (key item < key other))
include h

/-- **Where items have keys, no sort gives up:** it sorts them by their keys and leaves those with
the same key in their order. -/
theorem exists_sort?_of_key : ∃ sorted, Sorter.sort? less items = some sorted ∧
    (sorted.Pairwise fun a b => key a ≤ key b) ∧
    ∀ k, withKey key k sorted = withKey key k items := by
  have horder : IsOrder fun a b : α => decide (key a < key b) := isOrder_key
  obtain ⟨sorted, hsorted, hstably⟩ := Sorter.exists_sort?_of_isOrder items horder
  refine ⟨sorted, (sort?_congr h).trans hsorted, ?_, fun k => ?_⟩
  · exact hstably.pairwise.imp fun hnot => not_lt.1 (mt decide_eq_true hnot)
  · by_cases hk : ∃ item ∈ items, key item = k
    · obtain ⟨item, -, rfl⟩ := hk
      rw [← filter_same_key, ← filter_same_key, hstably.stable]
    · have hnone : ∀ others : List α, (∀ item ∈ others, item ∈ items) →
          withKey key k others = [] := by
        intro others hothers
        refine List.filter_eq_nil_iff.2 fun item hitem heq => hk ⟨item, hothers item hitem, ?_⟩
        exact of_decide_eq_true heq
      have hperm := Sorter.perm_of_sort? hsorted
      rw [hnone sorted fun _ => hperm.mem_iff.1, hnone items fun _ hitem => hitem]

theorem isSome_sort?_of_key : (Sorter.sort? less items).isSome := by
  obtain ⟨sorted, hsorted, -⟩ := exists_sort?_of_key h
  rw [hsorted]
  rfl

/-- **Items are sorted by their keys.** -/
theorem pairwise_sort : (sort less items).Pairwise fun a b => key a ≤ key b := by
  obtain ⟨sorted, hsorted, hkeys, -⟩ := exists_sort?_of_key h
  rw [sort, hsorted]
  exact hkeys

/-- **Items with the same key stay in their order.** -/
theorem withKey_sort (k : κ) : withKey key k (sort less items) = withKey key k items := by
  obtain ⟨sorted, hsorted, -, hkeys⟩ := exists_sort?_of_key h
  rw [sort, hsorted]
  exact hkeys k

/-- **Where items have keys, every sort is the stable sort by key.** -/
theorem sort_eq_mergeSort : sort less items = items.mergeSort fun a b => key a ≤ key b := by
  refine eq_of_pairwise_of_withKey (pairwise_sort h) (pairwise_mergeSort_key items) fun k => ?_
  rw [withKey_sort h, withKey_mergeSort]

end Keys

end Sorting
end MarkupJsx
