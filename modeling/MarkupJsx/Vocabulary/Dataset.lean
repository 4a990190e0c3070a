import MarkupJsx.Text.Case

/-!
# Data attributes

An attribute `data-foo-bar` is the property `dataFooBar`, and the other way round.  A data name is
`data` in any case, followed by at least one letter, digit or one of `_`, `-`, `.`, `:`.

With a hyphen after `data` it is an attribute, and the property has its hyphens joined.  Without
one it is a property, and the attribute has its capitals split, unless the name already holds a
hyphen before a small letter: then it belongs to neither fashion and stays as it is.
-/

namespace MarkupJsx
namespace Vocabulary
namespace Dataset

/-- Whether a character can stand in a data name. -/
def isNameChar (c : Char) : Bool :=
  c.isAlphanum || c == '_' || c == '-' || c == '.' || c == ':'

/-- What follows `data` in a data name. -/
def rest? : List Char → Option (List Char)
  | d :: a :: t :: e :: c :: rest =>
    if [d, a, t, e].map Char.toLower = ['d', 'a', 't', 'a'] ∧ (c :: rest).all isNameChar then
      some (c :: rest)
    else none
  | _ => none

/-- A text with its first letter as a capital. -/
def capitalize : List Char → List Char
  | [] => []
  | c :: rest => c.toUpper :: rest

/-- A hyphen in front, unless there is one. -/
def hyphenate (text : List Char) : List Char :=
  if text.head? = some '-' then text else '-' :: text

/-- The property and the attribute of a data name; none for any other name. -/
def names? (name : List Char) : Option (List Char × List Char) :=
  match rest? name with
  | none => none
  | some ('-' :: rest) => some (['d', 'a', 't', 'a'] ++ capitalize (Text.joinHyphens rest), name)
  | some rest =>
    if Text.hasHyphenedLetter rest then some (name, name)
    else some (name, ['d', 'a', 't', 'a'] ++ hyphenate (Text.splitCapitals rest))

end Dataset
end Vocabulary
end MarkupJsx
