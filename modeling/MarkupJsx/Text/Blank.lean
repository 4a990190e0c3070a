/-!
# Blank characters and trimming

The blank characters are those with the Unicode property `White_Space`: the ASCII blanks, the
next-line control, the no-break space, the ogham space, the spaces of general punctuation, the two
Unicode separators and the ideographic space.  The zero-width space and the byte order mark are
not among them.

`trimBy` takes the characters of a class off both ends of a text.
-/

namespace MarkupJsx
namespace Text

/-- Whether a character has the Unicode property `White_Space`. -/
def isBlank (c : Char) : Bool :=
  let n := c.toNat
  (0x09 ≤ n && n ≤ 0x0D) || n == 0x20 || n == 0x85 || n == 0xA0 || n == 0x1680 ||
    (0x2000 ≤ n && n ≤ 0x200A) || n == 0x2028 || n == 0x2029 || n == 0x202F || n == 0x205F ||
    n == 0x3000

/-- Every ASCII blank is blank. -/
theorem isBlank_of_isWhitespace {c : Char} (h : c.isWhitespace) : isBlank c := by
  simp only [Char.isWhitespace, Bool.or_eq_true, decide_eq_true_eq] at h
  rcases h with ((rfl | rfl) | rfl) | rfl <;> decide

variable {α : Type}

/-- A list without its last elements, as far back as they are in a class. -/
def dropEndWhile (p : α → Bool) (items : List α) : List α :=
  (items.reverse.dropWhile p).reverse

/-- A list without the elements of a class at its two ends. -/
def trimBy (p : α → Bool) (items : List α) : List α :=
  dropEndWhile p (items.dropWhile p)

@[simp] theorem dropEndWhile_nil (p : α → Bool) : dropEndWhile p ([] : List α) = [] := rfl

@[simp] theorem trimBy_nil (p : α → Bool) : trimBy p ([] : List α) = [] := rfl

/-- What is taken off the end is of the class. -/
theorem exists_dropEndWhile_append (p : α → Bool) (items : List α) :
    ∃ tail, (∀ x ∈ tail, p x) ∧ items = dropEndWhile p items ++ tail := by
  refine ⟨(items.reverse.takeWhile p).reverse, ?_, ?_⟩
  · intro x hx
    exact List.all_eq_true.1 List.all_takeWhile x (List.mem_reverse.1 hx)
  · rw [dropEndWhile, ← List.reverse_append, List.takeWhile_append_dropWhile,
      List.reverse_reverse]

/-- Where all elements are of the class, nothing is left. -/
theorem dropEndWhile_eq_nil {p : α → Bool} {items : List α} (h : ∀ x ∈ items, p x) :
    dropEndWhile p items = [] := by
  have hall : ∀ x ∈ items.reverse, p x := fun x hx => h x (List.mem_reverse.1 hx)
  rw [dropEndWhile, ← List.append_nil items.reverse, List.dropWhile_append_of_pos hall]
  rfl

/-- Nothing is taken off in front of an element that is not of the class. -/
theorem dropEndWhile_append_cons {p : α → Bool} {x : α} (h : ¬p x) (left right : List α) :
    dropEndWhile p (left ++ x :: right) = left ++ x :: dropEndWhile p right := by
  rw [dropEndWhile, dropEndWhile, List.reverse_append, List.reverse_cons, List.append_assoc,
    List.dropWhile_append]
  split
  · rename_i hnil
    rw [List.isEmpty_iff.1 hnil, List.singleton_append, List.dropWhile_cons_of_neg h]
    simp
  · simp

theorem dropEndWhile_map {β : Type} (p : β → Bool) (f : α → β) (items : List α) :
    dropEndWhile p (items.map f) = (dropEndWhile (p ∘ f) items).map f := by
  rw [dropEndWhile, dropEndWhile, ← List.map_reverse, List.dropWhile_map, List.map_reverse]

/-- Trimming looks at nothing but the class. -/
theorem trimBy_map {β : Type} (p : β → Bool) (f : α → β) (items : List α) :
    trimBy p (items.map f) = (trimBy (p ∘ f) items).map f := by
  rw [trimBy, trimBy, List.dropWhile_map, dropEndWhile_map]

/-- Trimming keeps some of the elements, in their order. -/
theorem trimBy_sublist (p : α → Bool) (items : List α) : (trimBy p items).Sublist items := by
  obtain ⟨tail, -, heq⟩ := exists_dropEndWhile_append p (items.dropWhile p)
  have hfront : (trimBy p items).Sublist (trimBy p items ++ tail) :=
    List.sublist_append_left _ _
  rw [trimBy, ← heq] at hfront
  exact hfront.trans (List.dropWhile_sublist p)

end Text
end MarkupJsx
