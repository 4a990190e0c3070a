/-!
# Lines and columns of a place in a text

A place in a text is named by the text before it.  Its line is one more than the number of line
feeds there, and its column one more than the number of UTF-16 units after the last of them, so a
character beyond the basic plane counts twice.
-/

namespace MarkupJsx
namespace Text

/-- A line and a column, both counted from one. -/
structure Place where
  line : Nat
  column : Nat
  deriving DecidableEq, Inhabited

/-- How many UTF-16 units a character takes. -/
def units16 (c : Char) : Nat :=
  if c.toNat < 0x10000 then 1 else 2

namespace Place

/-- The start of a text. -/
def origin : Place := ⟨1, 1⟩

/-- The place after one more character. -/
def next (place : Place) (c : Char) : Place :=
  if c = '\n' then ⟨place.line + 1, 1⟩ else ⟨place.line, place.column + units16 c⟩

/-- The place after a text. -/
def after (before : List Char) : Place :=
  before.foldl next origin

@[simp] theorem after_nil : after [] = origin := rfl

theorem after_append (left right : List Char) :
    after (left ++ right) = right.foldl next (after left) := by
  simp [after]

/-- Only line feeds start lines. -/
theorem line_foldl_next (place : Place) (text : List Char) :
    (text.foldl next place).line = place.line + text.count '\n' := by
  induction text generalizing place with
  | nil => simp
  | cons c rest ih =>
    rw [List.foldl_cons, ih]
    by_cases h : c = '\n'
    · simp [next, h]; omega
    · simp [next, h]

end Place
end Text
end MarkupJsx
