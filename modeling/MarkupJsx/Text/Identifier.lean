import MarkupJsx.Text.IdentifierRanges

/-!
# Identifier names

An identifier name starts with a letter of some script, a dollar sign or an underscore, and goes
on with these, with digits and marks, and with the two zero-width joiners.  A name in markup may
also contain hyphens after its first character.  Reserved words are names like any other: `class`
is a fine attribute name and a fine key of an object.
-/

namespace MarkupJsx
namespace Text

/-- Whether a code point lies in one of some ranges. -/
def inRanges (ranges : List (Nat × Nat)) (code : Nat) : Bool :=
  ranges.any fun range => range.1 ≤ code && code ≤ range.2

/-- Whether an identifier name can start with a character. -/
def isIdentifierStart (c : Char) : Bool :=
  if c.toNat < 0x80 then c.isAlpha || c == '$' || c == '_'
  else inRanges identifierStartRanges c.toNat

/-- Whether a character can stand in an identifier name after the first place. -/
def isIdentifierPart (c : Char) : Bool :=
  if c.toNat < 0x80 then c.isAlphanum || c == '$' || c == '_'
  else
    inRanges identifierStartRanges c.toNat || inRanges identifierContinueRanges c.toNat ||
      c.toNat == 0x200C || c.toNat == 0x200D

/-- What can start a name can also continue it. -/
theorem isIdentifierPart_of_isIdentifierStart {c : Char} (h : isIdentifierStart c) :
    isIdentifierPart c := by
  unfold isIdentifierStart at h
  unfold isIdentifierPart
  split at h <;> rename_i hc
  · rw [if_pos hc]
    simp only [Char.isAlphanum, Bool.or_eq_true] at h ⊢
    rcases h with (h | h) | h <;> simp [h]
  · rw [if_neg hc]
    simp [h]

/-- Whether a text is a name: a first character, and then others of a class. -/
def isNameOf (part : Char → Bool) : List Char → Bool
  | [] => false
  | first :: rest => isIdentifierStart first && rest.all part

/-- Whether a text can be written as the key of an object without quotes. -/
def isIdentifierName (name : String) : Bool :=
  isNameOf isIdentifierPart name.toList

/-- Whether a text can be written as a simple name in markup. -/
def isMarkupName (name : String) : Bool :=
  isNameOf (fun c => isIdentifierPart c || c == '-') name.toList

end Text
end MarkupJsx
