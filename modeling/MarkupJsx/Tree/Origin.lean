import MarkupJsx.Tree.Basic

/-!
# From positions to spans

The position of a tree node counts columns from one, the span of an output node from zero.  A
position without a line at its start, or with line zero there, says nothing.  Otherwise each part
of the span is there as far as its numbers are known: the places need all four of them, and the
columns have to be at least one.

An output node takes either the span alone from the node that it was made from
(`Source.spanOrigin`), or the span and the data (`Source.origin`).  The script is never part of
that data, and data without any other field is no data.
-/

namespace MarkupJsx

/-- The line and the column of a point, with the column counted from zero. -/
def Point.lineColumn? (point : Point) : Option LineColumn :=
  match point.line, point.column with
  | some line, some (column + 1) => some ⟨line, column⟩
  | _, _ => none

/-- The two values of a pair, if both are there. -/
def both? {α β : Type} : Option α → Option β → Option (α × β)
  | some left, some right => some (left, right)
  | _, _ => none

/-- The span of a position. -/
def Position.span (position : Position) : Span :=
  match position.start.line with
  | some (_ + 1) =>
    { start := position.start.offset
      stop := position.stop.offset
      location :=
        (both? position.start.lineColumn? position.stop.lineColumn?).map fun places =>
          ⟨places.1, places.2⟩
      range := both? position.start.offset position.stop.offset }
  | _ => {}

/-- The data that is passed on: all but the script, if there is any. -/
def Attachment.passedOn (data : Attachment) : Option (Entries Json) :=
  if data.fields.isEmpty then none else some data.fields

namespace Source

/-- The span of a node. -/
def span (source : Source) : Span :=
  (source.position.map Position.span).getD {}

/-- An origin with the span of a node and no data. -/
def spanOrigin (source : Source) : Origin :=
  { span := source.span, data := none }

/-- An origin with the span and the data of a node. -/
def origin (source : Source) : Origin :=
  { span := source.span, data := source.data.bind Attachment.passedOn }

@[simp] theorem span_spanOrigin (source : Source) : source.spanOrigin.span = source.span := rfl

@[simp] theorem span_origin (source : Source) : source.origin.span = source.span := rfl

@[simp] theorem data_spanOrigin (source : Source) : source.spanOrigin.data = none := rfl

end Source
end MarkupJsx
