import MarkupJsx.Script.Basic

/-!
# Where nodes and comments stand

A node of a script says where it starts and stops in up to three ways: a pair of offsets under
`range`, places with line and column under `loc`, and offsets under `start` and `end`.  A comment
says the same in its span.  `Place` collects what is said about one of the two ends.

Two places compare by the first way that both of them have.  Where there is none, they do not
compare.  The numbers are doubles, as all numbers of a script are.
-/

namespace MarkupJsx
namespace Script

/-- One of the two ends of a node. -/
inductive Edge where
  | start
  | stop
  deriving DecidableEq

/-- What is known about the place of an end. -/
structure Place where
  range : Option Binary64 := none
  location : Option (Binary64 × Binary64) := none
  offset : Option Binary64 := none
  deriving DecidableEq, Inhabited

namespace Edge

/-- The name of an end. -/
def name : Edge → String
  | start => "start"
  | stop => "end"

/-- The place of an end in a pair. -/
def index : Edge → Nat
  | start => 0
  | stop => 1

/-- The part of a pair that belongs to an end. -/
def of {α : Type} (edge : Edge) (pair : α × α) : α :=
  match edge with
  | start => pair.1
  | stop => pair.2

end Edge

namespace Place

/-- The place of an end of a span. -/
def ofSpan (edge : Edge) (span : Span) : Place where
  range := span.range.map fun pair => .ofNat (edge.of pair)
  location := span.location.map fun location =>
    let place := edge.of (location.start, location.stop)
    (.ofNat place.line, .ofNat place.column)
  offset := (edge.of (span.start, span.stop)).map .ofNat

/-- The line and the column of an end of a node; both have to be there. -/
def locationOf? (edge : Edge) (fields : Entries Json) : Option (Binary64 × Binary64) := do
  let location ← Entries.get? "loc" fields
  let place ← location.field? edge.name
  let line ← (place.field? "line").bind Json.binary64?
  let column ← (place.field? "column").bind Json.binary64?
  some (line, column)

/-- The place of an end of a node of a script. -/
def ofFields (edge : Edge) (fields : Entries Json) : Place where
  range := ((Entries.get? "range" fields).bind (Json.item? edge.index)).bind Json.binary64?
  location := locationOf? edge fields
  offset := (Entries.get? edge.name fields).bind Json.binary64?

/-- How two pairs of line and column compare: by line, and on one line by column. -/
def compareLocations (left right : Binary64 × Binary64) : Option Ordering :=
  match Binary64.compare? left.1 right.1 with
  | some .eq => Binary64.compare? left.2 right.2
  | other => other

/-- How two places compare: by the first way of saying it that they share. -/
def compare? (left right : Place) : Option Ordering :=
  match left.range, right.range with
  | some l, some r => Binary64.compare? l r
  | _, _ =>
    match left.location, right.location with
    | some l, some r => compareLocations l r
    | _, _ =>
      match left.offset, right.offset with
      | some l, some r => Binary64.compare? l r
      | _, _ => none

/-- Whether one place is strictly before another. -/
def before (left right : Place) : Bool :=
  compare? left right = some .lt

/-- Whether one place is before another or the same. -/
def reaches (left right : Place) : Bool :=
  match compare? left right with
  | some .lt => true
  | some .eq => true
  | _ => false

/-- The single number by which siblings are put in order: an offset, or else a line. -/
def key? (place : Place) : Option Binary64 :=
  place.range <|> place.location.map Prod.fst <|> place.offset

/-- Whether one place is before another by their numbers. -/
def keyBefore (left right : Place) : Bool :=
  match left.key?, right.key? with
  | some l, some r => Binary64.lt l r
  | _, _ => false

end Place
end Script
end MarkupJsx
