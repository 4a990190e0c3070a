import Mathlib.Logic.Function.Basic
import MarkupJsx.Script.Basic

/-!
# Spans and comments are read back

A span is written among the fields of a node, and so are the marks of a comment and the data.  What
is missing is not written at all, so the fields of two nodes may differ in number.  Since every part
has a key of its own, nothing is lost: the span of a node is read back from among its fields,
whatever stands in front of them under other keys (`Span.ofFields?_append`), and a comment is read
back from its JSON value (`Comment.ofJson?_toJson`).

* `Origin.toFields_injective`, `Comment.toJson_injective`: so the fields of an origin determine the
  origin, and the JSON value of a comment the comment.
* `Origin.get?_toFields_of_not_mem`: an origin has fields under five keys only.
-/

namespace MarkupJsx

/-- An optional field is read back if its values are. -/
theorem Json.optional_eq_some {α : Type} {fields : Entries Json} {key : String}
    {decode : Json → Option α} {encode : α → Json} {value : Option α}
    (hfield : Entries.get? key fields = value.map encode)
    (hback : ∀ value, decode (encode value) = some value) (hvalue : ∀ value, encode value ≠ .null) :
    Json.optional fields key decode = some value := by
  rw [Json.optional, Json.defaulted, hfield]
  cases value with
  | none => rfl
  | some value =>
    show Json.nullable decode (encode value) = some (some value)
    rw [Json.nullable.eq_def]
    split
    · rename_i hnull
      exact absurd hnull (hvalue value)
    · rw [hback, Option.map_some]

/-! ## Origins -/

namespace Origin

/-- The keys under which an origin has fields. -/
def keys : List String :=
  ["start", "end", "loc", "range", "data"]

theorem keys_toFields_sublist (origin : Origin) :
    (Entries.keys origin.toFields).Sublist keys := by
  simp only [toFields, Span.toFields, Entries.keys_append]
  exact ((((Json.keys_fieldOf_sublist _ _ _).append (Json.keys_fieldOf_sublist _ _ _)).append
    (Json.keys_fieldOf_sublist _ _ _)).append (Json.keys_fieldOf_sublist _ _ _)).append
      (Json.keys_fieldOf_sublist _ _ _)

/-- Under any other key an origin has no field. -/
theorem get?_toFields_of_not_mem {key : String} (h : key ∉ keys) (origin : Origin) :
    Entries.get? key origin.toFields = none := by
  simp only [keys, List.mem_cons, List.not_mem_nil, or_false, not_or] at h
  simp [toFields, Span.toFields, Entries.get?_append, Json.get?_fieldOf, h]

variable (origin : Origin)

theorem get?_start : Entries.get? "start" origin.toFields = origin.span.start.map Json.ofNat := by
  simp [toFields, Span.toFields, Entries.get?_append, Json.get?_fieldOf]

theorem get?_end : Entries.get? "end" origin.toFields = origin.span.stop.map Json.ofNat := by
  simp [toFields, Span.toFields, Entries.get?_append, Json.get?_fieldOf]

theorem get?_loc :
    Entries.get? "loc" origin.toFields = origin.span.location.map Location.toJson := by
  simp [toFields, Span.toFields, Entries.get?_append, Json.get?_fieldOf]

theorem get?_range :
    Entries.get? "range" origin.toFields = origin.span.range.map Span.rangeToJson := by
  simp [toFields, Span.toFields, Entries.get?_append, Json.get?_fieldOf]

theorem get?_data : Entries.get? "data" origin.toFields = origin.data.map Json.object := by
  simp [toFields, Span.toFields, Entries.get?_append, Json.get?_fieldOf]

end Origin

section ReadBack

variable {fields : Entries Json} (h : ∀ key ∈ Origin.keys, Entries.get? key fields = none)
  (origin : Origin)
include h

/-- Fields under other keys do not get in the way of those of an origin. -/
theorem Entries.get?_append_toFields {key : String} (hkey : key ∈ Origin.keys) :
    get? key (fields ++ origin.toFields) = get? key origin.toFields := by
  rw [get?_append, h key hkey, Option.none_or]

/-- **A span is read back** from among the fields of a node. -/
theorem Span.ofFields?_append : ofFields? (fields ++ origin.toFields) = some origin.span := by
  have hget : ∀ key ∈ Origin.keys,
      Entries.get? key (fields ++ origin.toFields) = Entries.get? key origin.toFields :=
    fun key hkey => Entries.get?_append_toFields h origin hkey
  have hstart := Json.optional_eq_some ((hget "start" (by decide)).trans origin.get?_start)
    Json.natural?_ofNat fun _ heq => nomatch heq
  have hstop := Json.optional_eq_some ((hget "end" (by decide)).trans origin.get?_end)
    Json.natural?_ofNat fun _ heq => nomatch heq
  have hlocation := Json.optional_eq_some ((hget "loc" (by decide)).trans origin.get?_loc)
    Location.ofJson?_toJson fun _ heq => nomatch heq
  have hrange := Json.optional_eq_some ((hget "range" (by decide)).trans origin.get?_range)
    range?_rangeToJson fun _ heq => nomatch heq
  rw [ofFields?, hstart, hstop, hlocation, hrange]
  rfl

/-- The data is read back from among the fields of a node. -/
theorem Json.optional_data_append :
    Json.optional (fields ++ origin.toFields) "data" Json.object? = some origin.data :=
  Json.optional_eq_some
    ((Entries.get?_append_toFields h origin (by decide)).trans origin.get?_data)
    (fun _ => rfl) fun _ heq => nomatch heq

end ReadBack

/-- **The fields of an origin determine it.** -/
theorem Origin.toFields_injective : Function.Injective Origin.toFields := by
  intro origin other h
  have hnone : ∀ key ∈ Origin.keys, Entries.get? key ([] : Entries Json) = none := fun _ _ => rfl
  have hspan : some origin.span = some other.span := by
    rw [← Span.ofFields?_append hnone, h, Span.ofFields?_append hnone]
  have hdata : some origin.data = some other.data := by
    rw [← Json.optional_data_append hnone, h, Json.optional_data_append hnone]
  exact congr (congrArg Origin.mk (Option.some.inj hspan)) (Option.some.inj hdata)

/-! ## Comments -/

namespace Comment

/-- The fields of a comment that do not come from its origin. -/
def ownFields (comment : Comment) : Entries Json :=
  [("type", .string comment.kind.name), ("value", .string comment.text)] ++
    Json.fieldOf "leading" Json.bool comment.leading ++
    Json.fieldOf "trailing" Json.bool comment.trailing

theorem toJson_eq (comment : Comment) :
    comment.toJson = .object (comment.ownFields ++ comment.origin.toFields) := rfl

theorem get?_leading (comment : Comment) :
    Entries.get? "leading" comment.ownFields = comment.leading.map Json.bool := by
  simp [ownFields, Entries.get?_append, Entries.get?_cons, Json.get?_fieldOf]

theorem get?_trailing (comment : Comment) :
    Entries.get? "trailing" comment.ownFields = comment.trailing.map Json.bool := by
  simp [ownFields, Entries.get?_append, Entries.get?_cons, Json.get?_fieldOf]

/-- A comment has no fields of its own under the keys of an origin. -/
theorem get?_ownFields_of_mem (comment : Comment) :
    ∀ key ∈ Origin.keys, Entries.get? key comment.ownFields = none := by
  simp [Origin.keys, ownFields, Entries.get?_append, Entries.get?_cons, Json.get?_fieldOf]

/-- **A comment is read back** from its JSON value. -/
@[simp] theorem ofJson?_toJson (comment : Comment) : ofJson? comment.toJson = some comment := by
  have hget : ∀ key ∉ Origin.keys, Entries.get? key (comment.ownFields ++ comment.origin.toFields) =
      Entries.get? key comment.ownFields := by
    intro key hkey
    rw [Entries.get?_append, Origin.get?_toFields_of_not_mem hkey, Option.or_none]
  have hkind : Json.required (comment.ownFields ++ comment.origin.toFields) "type"
      CommentKind.ofJson? = some comment.kind := by
    rw [Json.required, hget _ (by decide)]
    exact CommentKind.ofName?_name comment.kind
  have htext : Json.required (comment.ownFields ++ comment.origin.toFields) "value"
      Json.string? = some comment.text := by
    rw [Json.required, hget _ (by decide)]
    rfl
  have hleading : Json.optional (comment.ownFields ++ comment.origin.toFields) "leading"
      Json.bool? = some comment.leading :=
    Json.optional_eq_some ((hget _ (by decide)).trans comment.get?_leading) (fun _ => rfl)
      fun _ heq => Json.noConfusion heq
  have htrailing : Json.optional (comment.ownFields ++ comment.origin.toFields) "trailing"
      Json.bool? = some comment.trailing :=
    Json.optional_eq_some ((hget _ (by decide)).trans comment.get?_trailing) (fun _ => rfl)
      fun _ heq => Json.noConfusion heq
  have hspan := Span.ofFields?_append comment.get?_ownFields_of_mem comment.origin
  have hdata := Json.optional_data_append comment.get?_ownFields_of_mem comment.origin
  rw [toJson_eq, ofJson?]
  simp only [Json.object?, Option.bind_eq_bind, Option.bind_some, hkind, htext, hleading,
    htrailing, hspan, hdata]

/-- **The JSON value of a comment determines it.** -/
theorem toJson_injective : Function.Injective Comment.toJson := by
  intro comment other h
  exact Option.some.inj (by rw [← ofJson?_toJson, h, ofJson?_toJson])

end Comment
end MarkupJsx
