import MarkupJsx.Json.Decode

/-!
# Where a node of the output comes from

A node of the output carries a `Span`, the stretch of source text it stands for, and the data that
was attached to the node it was made from.  A span has up to four parts, each of which may be
missing: two offsets, two places given by line and column, and the offsets once more as a pair.

Spans are read from embedded scripts and written to the output under the same field names.  The
fields of a span and the data are written among the fields of the node itself, so they are given
as a list of fields, `Origin.toFields`, with nothing written for a missing part.
-/

namespace MarkupJsx

/-- A line, counted from one, and a column, counted from zero. -/
structure LineColumn where
  line : Nat
  column : Nat
  deriving DecidableEq, Inhabited

/-- The places where something starts and stops. -/
structure Location where
  start : LineColumn
  stop : LineColumn
  deriving DecidableEq, Inhabited

/-- A stretch of source text, as far as it is known. -/
structure Span where
  start : Option Nat := none
  stop : Option Nat := none
  location : Option Location := none
  range : Option (Nat × Nat) := none
  deriving DecidableEq, Inhabited

/-- The span of a node and the data attached to it. -/
structure Origin where
  span : Span := {}
  data : Option (Entries Json) := none
  deriving Inhabited

/-! ## Reading -/

/-- Reads a line and a column. -/
def LineColumn.ofJson? (value : Json) : Option LineColumn := do
  let fields ← Json.record? ["line", "column"] value
  let line ← Json.required fields "line" Json.natural?
  let column ← Json.required fields "column" Json.natural?
  some ⟨line, column⟩

/-- Reads two places. -/
def Location.ofJson? (value : Json) : Option Location := do
  let fields ← Json.record? ["start", "end"] value
  let start ← Json.required fields "start" LineColumn.ofJson?
  let stop ← Json.required fields "end" LineColumn.ofJson?
  some ⟨start, stop⟩

/-- Reads a pair of offsets. -/
def Span.range? : Json → Option (Nat × Nat)
  | .array [start, stop] => do
    let start ← start.natural?
    let stop ← stop.natural?
    some (start, stop)
  | _ => none

/-- Reads the span that is written among the fields of an object. -/
def Span.ofFields? (fields : Entries Json) : Option Span := do
  let start ← Json.optional fields "start" Json.natural?
  let stop ← Json.optional fields "end" Json.natural?
  let location ← Json.optional fields "loc" Location.ofJson?
  let range ← Json.optional fields "range" Span.range?
  some { start, stop, location, range }

/-! ## Writing -/

/-- A line and a column as a JSON value. -/
def LineColumn.toJson (place : LineColumn) : Json :=
  .object [("line", .ofNat place.line), ("column", .ofNat place.column)]

/-- Two places as a JSON value. -/
def Location.toJson (location : Location) : Json :=
  .object [("start", location.start.toJson), ("end", location.stop.toJson)]

/-- A pair of offsets as a JSON value. -/
def Span.rangeToJson (range : Nat × Nat) : Json :=
  .array [.ofNat range.1, .ofNat range.2]

/-- A field where there is a value for it. -/
def Json.fieldOf {α : Type} (key : String) (encode : α → Json) : Option α → Entries Json
  | some value => [(key, encode value)]
  | none => []

theorem Json.get?_fieldOf {α : Type} (key other : String) (encode : α → Json)
    (value : Option α) :
    Entries.get? key (fieldOf other encode value) =
      if key = other then value.map encode else none := by
  cases value with
  | none => rw [fieldOf, Entries.get?_nil, Option.map_none, ite_self]
  | some value => rw [fieldOf, Entries.get?_cons, Option.map_some, Entries.get?_nil]

theorem Json.keys_fieldOf_sublist {α : Type} (key : String) (encode : α → Json)
    (value : Option α) : (Entries.keys (fieldOf key encode value)).Sublist [key] := by
  cases value with
  | none => exact List.nil_sublist _
  | some value => exact List.Sublist.refl _

/-- The fields of a span. -/
def Span.toFields (span : Span) : Entries Json :=
  Json.fieldOf "start" Json.ofNat span.start ++ Json.fieldOf "end" Json.ofNat span.stop ++
    Json.fieldOf "loc" Location.toJson span.location ++
    Json.fieldOf "range" Span.rangeToJson span.range

/-- The fields of a span and of the data beside it. -/
def Origin.toFields (origin : Origin) : Entries Json :=
  origin.span.toFields ++ Json.fieldOf "data" Json.object origin.data

@[simp] theorem Span.toFields_empty : Span.toFields {} = [] := rfl

@[simp] theorem Origin.toFields_empty : Origin.toFields {} = [] := rfl

@[simp] theorem LineColumn.ofJson?_toJson (place : LineColumn) :
    LineColumn.ofJson? place.toJson = some place := by
  simp [LineColumn.toJson, LineColumn.ofJson?, Json.record?, Json.required, Entries.get?_cons]

@[simp] theorem Location.ofJson?_toJson (location : Location) :
    Location.ofJson? location.toJson = some location := by
  simp [Location.toJson, Location.ofJson?, Json.record?, Json.required, Entries.get?_cons]

@[simp] theorem Span.range?_rangeToJson (range : Nat × Nat) :
    Span.range? (Span.rangeToJson range) = some range := by
  simp [Span.range?, Span.rangeToJson]

end MarkupJsx
