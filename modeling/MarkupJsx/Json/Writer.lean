import MarkupJsx.Json.Basic
import MarkupJsx.Decimal.Layout

/-!
# Writing JSON text

A value has a compact text, without any blanks, and a pretty one, with every item and field on a
line of its own, indented by two more blanks for each level.  In strings only quotes, backslashes
and the ASCII controls are escaped.

Both texts are made as lists of pieces, and each function puts the pieces of its value in front of
those that come after it.  So a piece is written once, however deep its value is nested.
-/

namespace MarkupJsx
namespace Json

/-- A digit from zero to fifteen. -/
def hexDigit (n : Nat) : Char :=
  if n < 10 then Char.ofNat (48 + n) else Char.ofNat (87 + n)

/-- A character as it stands in a string. -/
def escape (c : Char) : String :=
  match c with
  | '\x22' => "\\\""
  | '\\' => "\\\\"
  | '\x08' => "\\b"
  | '\x0c' => "\\f"
  | '\n' => "\\n"
  | '\r' => "\\r"
  | '\t' => "\\t"
  | c =>
    if c.toNat < 0x20 then
      "\\u00" ++ String.ofList [hexDigit (c.toNat / 16), hexDigit (c.toNat % 16)]
    else String.singleton c

/-- A text in quotes. -/
def quote (text : String) : String :=
  text.toList.foldl (fun done c => done ++ escape c) "\"" ++ "\""

/-- The text of a number. -/
def Number.text : Number → String
  | integer value => toString value
  | binary value => String.ofList value.toJsonText

mutual

/-- The pieces of the compact text of a value, in front of others. -/
def compactPieces : Json → List String → List String
  | null, others => "null" :: others
  | bool value, others => (if value then "true" else "false") :: others
  | number value, others => value.text :: others
  | string value, others => quote value :: others
  | array items, others => "[" :: compactItems "" items ("]" :: others)
  | object fields, others => "\x7b" :: compactFields "" fields ("\x7d" :: others)
termination_by structural value => value

/-- The pieces of items, the first behind a separator of its own. -/
def compactItems (separator : String) : List Json → List String → List String
  | [], others => others
  | item :: rest, others =>
    separator :: compactPieces item (compactItems "," rest others)
termination_by structural items => items

/-- The pieces of fields, the first behind a separator of its own. -/
def compactFields (separator : String) : List (String × Json) → List String → List String
  | [], others => others
  | (key, value) :: rest, others =>
    separator :: quote key :: ":" :: compactPieces value (compactFields "," rest others)
termination_by structural fields => fields

end

/-- The compact text of a value. -/
def compact (value : Json) : String :=
  String.join (value.compactPieces [])

/-- The start of a line at a level of nesting. -/
def indent (level : Nat) : String :=
  String.ofList ('\n' :: List.replicate (2 * level) ' ')

mutual

/-- The pieces of the pretty text of a value at a level of nesting, in front of others. -/
def prettyPieces (level : Nat) : Json → List String → List String
  | null, others => "null" :: others
  | bool value, others => (if value then "true" else "false") :: others
  | number value, others => value.text :: others
  | string value, others => quote value :: others
  | array [], others => "[]" :: others
  | array (item :: items), others =>
    "[" :: prettyItems (level + 1) "" (item :: items) (indent level :: "]" :: others)
  | object [], others => "\x7b\x7d" :: others
  | object (field :: fields), others =>
    "\x7b" :: prettyFields (level + 1) "" (field :: fields) (indent level :: "\x7d" :: others)
termination_by structural value => value

/-- The pieces of items on lines of their own, the first behind a separator of its own. -/
def prettyItems (level : Nat) (separator : String) : List Json → List String → List String
  | [], others => others
  | item :: rest, others =>
    separator :: indent level :: prettyPieces level item (prettyItems level "," rest others)
termination_by structural items => items

/-- The pieces of fields on lines of their own, the first behind a separator of its own. -/
def prettyFields (level : Nat) (separator : String) :
    List (String × Json) → List String → List String
  | [], others => others
  | (key, value) :: rest, others =>
    separator :: indent level :: quote key :: ": " ::
      prettyPieces level value (prettyFields level "," rest others)
termination_by structural fields => fields

end

/-- The pretty text of a value. -/
def pretty (value : Json) : String :=
  String.join (value.prettyPieces 0 [])

end Json
end MarkupJsx
