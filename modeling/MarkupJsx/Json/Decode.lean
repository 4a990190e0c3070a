import MarkupJsx.Json.Basic

/-!
# Decoding the fields of an object

A decoder answers nothing for a value it cannot read.  Three kinds of field are told apart by what
their absence means and by whether `null` counts as absence:

* `Json.required`: the field has to be there.
* `Json.defaulted`: an absent field has a default value, but `null` is a value like any other.
* `Json.optional`: an absent field and `null` both mean that there is nothing.

A record can also be written as an array of its fields in a fixed order; `Json.fieldsOfItems?`
gives such an array the names of its fields.
-/

namespace MarkupJsx
namespace Json

variable {α : Type}

/-- Reads a value where `null` means nothing. -/
def nullable (decode : Json → Option α) : Json → Option (Option α)
  | null => some none
  | value => (decode value).map some

/-- Reads a field that has to be there. -/
def required (fields : Entries Json) (key : String) (decode : Json → Option α) : Option α :=
  (Entries.get? key fields).bind decode

/-- Reads a field that has a default value. -/
def defaulted (fields : Entries Json) (key : String) (default : α) (decode : Json → Option α) :
    Option α :=
  match Entries.get? key fields with
  | none => some default
  | some value => decode value

/-- Reads a field that may be absent or `null`. -/
def optional (fields : Entries Json) (key : String) (decode : Json → Option α) :
    Option (Option α) :=
  defaulted fields key none (nullable decode)

section Congruence

variable {fields others : Entries Json} {key : String}
  (h : Entries.get? key fields = Entries.get? key others)
include h

/-- A field is read from its own value alone. -/
theorem required_congr (decode : Json → Option α) :
    required fields key decode = required others key decode := by
  rw [required, required, h]

theorem defaulted_congr (default : α) (decode : Json → Option α) :
    defaulted fields key default decode = defaulted others key default decode := by
  rw [defaulted, defaulted, h]

theorem optional_congr (decode : Json → Option α) :
    optional fields key decode = optional others key decode :=
  defaulted_congr h none _

end Congruence

/-- Reads every item of an array. -/
def listOf? (decode : Json → Option α) (value : Json) : Option (List α) :=
  value.array?.bind fun items => items.mapM decode

/-- Reads every field of an object. -/
def entriesOf? (decode : Json → Option α) (value : Json) : Option (Entries α) :=
  value.object?.bind (Entries.mapM? decode)

/-- Names the items of an array; there may be fewer items than names, but not more. -/
def fieldsOfItems? : List String → List Json → Option (Entries Json)
  | _, [] => some []
  | [], _ :: _ => none
  | name :: names, item :: items => (fieldsOfItems? names items).map ((name, item) :: ·)

/-- The fields of a record that is written as an object or as the array of its fields. -/
def record? (names : List String) : Json → Option (Entries Json)
  | object fields => some fields
  | array items => fieldsOfItems? names items
  | _ => none

end Json
end MarkupJsx
