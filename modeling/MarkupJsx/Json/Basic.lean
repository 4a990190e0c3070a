import MarkupJsx.Binary64
import MarkupJsx.Entries

/-!
# JSON values

A number is an integer if its text was that of a 64-bit integer, signed or unsigned, and a double
otherwise; the two are written differently, so the difference is kept.  An object is a list of
fields, since their order is part of what is written.

The functions at the end of the module read one shape each and answer nothing for any other; the
decoders of the library are put together from them.
-/

namespace MarkupJsx

/-- A number of a JSON text. -/
inductive Json.Number where
  | integer (value : Int)
  | binary (value : Binary64)
  deriving DecidableEq, Inhabited

/-- A JSON value. -/
inductive Json where
  | null
  | bool (value : Bool)
  | number (value : Json.Number)
  | string (value : String)
  | array (items : List Json)
  | object (fields : List (String × Json))
  deriving Inhabited

namespace Json

/-- An integer as a JSON value. -/
def ofNat (value : Nat) : Json :=
  number (.integer value)

/-- The number as a double. -/
def Number.toBinary64 : Number → Binary64
  | integer value => .ofInt value
  | binary value => value

/-- The text of a string. -/
def string? : Json → Option String
  | string value => some value
  | _ => none

/-- The value of a boolean. -/
def bool? : Json → Option Bool
  | bool value => some value
  | _ => none

/-- The value of a number. -/
def number? : Json → Option Number
  | number value => some value
  | _ => none

/-- The value of a number as a double. -/
def binary64? (value : Json) : Option Binary64 :=
  value.number?.map Number.toBinary64

/-- The value of an integer that is not negative.  A double is not one, even if it is whole. -/
def natural? : Json → Option Nat
  | number (.integer value) => if 0 ≤ value then some value.toNat else none
  | _ => none

/-- The items of an array. -/
def array? : Json → Option (List Json)
  | array items => some items
  | _ => none

/-- The fields of an object. -/
def object? : Json → Option (Entries Json)
  | object fields => some fields
  | _ => none

/-- A field of an object. -/
def field? (key : String) (value : Json) : Option Json :=
  value.object?.bind (Entries.get? key)

/-- An item of an array. -/
def item? (index : Nat) (value : Json) : Option Json :=
  value.array?.bind fun items => items[index]?

@[simp] theorem natural?_ofNat (value : Nat) : (ofNat value).natural? = some value := by
  simp [ofNat, natural?]

@[simp] theorem field?_object (key : String) (fields : List (String × Json)) :
    field? key (object fields) = Entries.get? key fields := rfl

/-- Whether fields are those of a syntax node: an object with a text under `type`. -/
def isNode (fields : Entries Json) : Bool :=
  ((Entries.get? "type" fields).bind string?).isSome

/-- A text under `type`, where there is one. -/
def kind? (value : Json) : Option String :=
  (value.field? "type").bind string?

end Json
end MarkupJsx
