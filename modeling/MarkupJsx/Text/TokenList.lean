import MarkupJsx.Text.Blank

/-!
# Lists of tokens in an attribute value

Some attributes hold lists: class names with blanks between them, image candidates with commas.
A list is joined and the blanks at both ends of the result are taken off.  A comma at the end of a
value closes its last entry, so an empty last token needs one comma more to stay visible.
-/

namespace MarkupJsx
namespace Text
namespace TokenList

/-- Tokens with a separator between them. -/
def join (separator : List Char) (tokens : List (List Char)) : List Char :=
  (tokens.intersperse separator).flatten

/-- The tokens of a blank-separated list as one value. -/
def withBlanks (tokens : List (List Char)) : List Char :=
  trimBy isBlank (join [' '] tokens)

/-- The tokens, with an empty one added after an empty last one. -/
def closeLast (tokens : List (List Char)) : List (List Char) :=
  if tokens.getLast? = some [] then tokens ++ [[]] else tokens

/-- The tokens of a comma-separated list as one value. -/
def withCommas (tokens : List (List Char)) : List Char :=
  trimBy isBlank (join [',', ' '] (closeLast tokens))

end TokenList
end Text
end MarkupJsx
