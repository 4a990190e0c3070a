import Mathlib.Data.List.Basic
import MarkupJsx.Tree.Origin

/-!
# What the span of a position says

A position is six numbers, each of which may be missing, and zero is no line and no column.  Its
span says nothing unless the position starts on a line (`Position.HasLine`); then its offsets are
those of the position, its range is the pair of them (`Position.range_span_eq_some_iff`), and its
location is there exactly if all lines and columns are, with columns that count from zero
(`Position.location_span_eq_some_iff`).

## The line of the end

No column of a location is below zero, since a column of zero is no column.  Of the lines only the
first one is asked to be one.  So a location starts on a line, but it stops on line zero if the
position does (`Position.location_span_endsOnLineZero`).
-/

namespace MarkupJsx

/-- A point has a place exactly if it has a line and a column other than zero, from which the column
of the place is one less. -/
theorem Point.lineColumn?_eq_some_iff {point : Point} {place : LineColumn} :
    point.lineColumn? = some place ↔
      point.line = some place.line ∧ point.column = some (place.column + 1) := by
  rw [lineColumn?]
  split
  · rename_i line column hline hcolumn
    rw [hline, hcolumn, Option.some_inj, Option.some_inj, Option.some_inj, Nat.succ_inj]
    constructor
    · rintro rfl
      exact ⟨rfl, rfl⟩
    · rintro ⟨rfl, rfl⟩
      rfl
  · rename_i hnone
    refine iff_of_false (Option.some_ne_none place).symm ?_
    rintro ⟨hline, hcolumn⟩
    exact hnone _ _ hline hcolumn

theorem both?_eq_some_iff {α β : Type} {left : Option α} {right : Option β} {pair : α × β} :
    both? left right = some pair ↔ left = some pair.1 ∧ right = some pair.2 := by
  cases left <;> cases right <;> simp [both?, Prod.ext_iff]

namespace Position

variable {position : Position}

/-- A position that says something: it starts on a line. -/
def HasLine (position : Position) : Prop :=
  ∃ line, position.start.line = some line ∧ 0 < line

/-- A position that does not start on a line says nothing. -/
theorem span_of_not_hasLine (h : ¬position.HasLine) : position.span = {} := by
  rw [span]
  split
  · rename_i line hline
    exact absurd ⟨line + 1, hline, line.succ_pos⟩ h
  · rfl

theorem span_of_hasLine (h : position.HasLine) :
    position.span =
      { start := position.start.offset
        stop := position.stop.offset
        location := (both? position.start.lineColumn? position.stop.lineColumn?).map fun places =>
          ⟨places.1, places.2⟩
        range := both? position.start.offset position.stop.offset } := by
  obtain ⟨line, hline, hpos⟩ := h
  obtain ⟨below, rfl⟩ := Nat.exists_eq_succ_of_ne_zero (Nat.pos_iff_ne_zero.1 hpos)
  rw [span, hline]

/-- **The range is there exactly if both offsets are,** and it is the pair of them. -/
theorem range_span_eq_some_iff {range : Nat × Nat} :
    position.span.range = some range ↔
      position.span.start = some range.1 ∧ position.span.stop = some range.2 := by
  by_cases h : position.HasLine
  · rw [span_of_hasLine h]
    exact both?_eq_some_iff
  · rw [span_of_not_hasLine h]
    simp

/-- **The location is there exactly if all lines and columns are,** and its columns are one less. -/
theorem location_span_eq_some_iff {location : Location} :
    position.span.location = some location ↔
      position.HasLine ∧
      position.start.line = some location.start.line ∧
      position.start.column = some (location.start.column + 1) ∧
      position.stop.line = some location.stop.line ∧
      position.stop.column = some (location.stop.column + 1) := by
  by_cases h : position.HasLine
  · rw [span_of_hasLine h, Option.map_eq_some_iff]
    simp only [both?_eq_some_iff, Point.lineColumn?_eq_some_iff, Prod.exists, and_assoc]
    constructor
    · rintro ⟨start, stop, hline, hcolumn, hstopLine, hstopColumn, rfl⟩
      exact ⟨h, hline, hcolumn, hstopLine, hstopColumn⟩
    · rintro ⟨-, hline, hcolumn, hstopLine, hstopColumn⟩
      exact ⟨location.start, location.stop, hline, hcolumn, hstopLine, hstopColumn, rfl⟩
  · rw [span_of_not_hasLine h]
    simp [h]

/-- A location starts on a line, and it stops on one unless the position stops on line zero. -/
theorem lines_of_location_span {location : Location} (h : position.span.location = some location) :
    0 < location.start.line ∧ (0 < location.stop.line ↔ position.stop.line ≠ some 0) := by
  obtain ⟨⟨line, hline, hpos⟩, hstart, -, hstop, -⟩ := location_span_eq_some_iff.1 h
  rw [hline] at hstart
  obtain rfl : line = location.start.line := Option.some.inj hstart
  rw [hstop, Ne, Option.some_inj]
  exact ⟨hpos, Nat.pos_iff_ne_zero⟩

end Position

/-- **What the span of a node says.**  Take a node with any position, whichever numbers of it are
missing or zero.

Its span is empty if the position does not start on a line.  Otherwise the start and the end of the
span are the offsets of the position.  The range of the span is there exactly if both are, and is
the pair of them.  Its location is there only if both points have a line and a column; then its
lines are those of the position, and its columns are one less than the columns of the position,
which are never zero.  So the lines of the location count from one, unless the position stops on
line zero. -/
theorem Source.span_of_position (position : Position) (data : Option Attachment) :
    let span := ({ position := some position, data := data } : Source).spanOrigin.span
    (¬position.HasLine → span = {}) ∧
    (position.HasLine →
      span.start = position.start.offset ∧ span.stop = position.stop.offset) ∧
    (∀ range : Nat × Nat,
      span.range = some range ↔ span.start = some range.1 ∧ span.stop = some range.2) ∧
    ∀ location : Location,
      (span.location = some location ↔
        position.HasLine ∧
        position.start.line = some location.start.line ∧
        position.start.column = some (location.start.column + 1) ∧
        position.stop.line = some location.stop.line ∧
        position.stop.column = some (location.stop.column + 1)) ∧
      (span.location = some location →
        0 < location.start.line ∧ (0 < location.stop.line ↔ position.stop.line ≠ some 0)) := by
  intro span
  refine ⟨Position.span_of_not_hasLine, fun h => ?_, fun range => Position.range_span_eq_some_iff,
    fun location => ⟨Position.location_span_eq_some_iff, Position.lines_of_location_span⟩⟩
  show position.span.start = _ ∧ position.span.stop = _
  rw [Position.span_of_hasLine h]
  exact ⟨rfl, rfl⟩

/-- A position whose end has no offset, and whose start stands in the first column. -/
theorem Source.span_of_position_partial :
    let position : Position := { start := ⟨some 2, some 1, some 7⟩, stop := ⟨some 3, some 5, none⟩ }
    let span := ({ position := some position } : Source).spanOrigin.span
    position.HasLine ∧ (span.start = some 7 ∧ span.stop = none) ∧ span.range = none ∧
      span.location = some ⟨⟨2, 0⟩, ⟨3, 4⟩⟩ ∧ 0 < 2 ∧ 0 < 3 := by
  intro position span
  obtain ⟨-, hoffsets, hrange, hlocation⟩ := span_of_position position none
  have hline : position.HasLine := ⟨2, rfl, by decide⟩
  have hplace : span.location = some ⟨⟨2, 0⟩, ⟨3, 4⟩⟩ :=
    (hlocation ⟨⟨2, 0⟩, ⟨3, 4⟩⟩).1.2 ⟨hline, rfl, rfl, rfl, rfl⟩
  have hnone : span.range = none := by
    refine Option.eq_none_iff_forall_ne_some.2 fun range hsome => ?_
    have hstop : span.stop = some range.2 := ((hrange range).1 hsome).2
    exact absurd ((hoffsets hline).2.symm.trans hstop) (by simp [position])
  obtain ⟨hstart, hstop⟩ := (hlocation ⟨⟨2, 0⟩, ⟨3, 4⟩⟩).2 hplace
  exact ⟨hline, hoffsets hline, hnone, hplace, hstart, hstop.2 (by simp [position])⟩

/-- **A location on line zero:** that the end of the position is on no line is not noticed. -/
theorem Position.location_span_endsOnLineZero :
    let position : Position :=
      { start := ⟨some 1, some 1, some 0⟩, stop := ⟨some 0, some 1, some 1⟩ }
    let span := ({ position := some position } : Source).spanOrigin.span
    span.location = some ⟨⟨1, 0⟩, ⟨0, 0⟩⟩ ∧
      ¬∀ location : Location, span.location = some location →
        1 ≤ location.start.line ∧ 1 ≤ location.stop.line := by
  intro position span
  have hlocation : span.location = some ⟨⟨1, 0⟩, ⟨0, 0⟩⟩ := rfl
  refine ⟨hlocation, fun h => ?_⟩
  exact absurd (h _ hlocation).2 (by decide)

end MarkupJsx
