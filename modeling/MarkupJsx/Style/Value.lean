import MarkupJsx.Text.Blank

/-!
# The value of a declaration

A value goes on to the next `;` or closing brace, but not to one inside a quoted string or between
parentheses.  It is read in pieces.  A quote takes everything to its closing quote with it, an
opening parenthesis everything to the next closing one, and any other character is a piece of its
own; so is a quote or a parenthesis that nothing closes.

A quoted string ends at the first quote that has no backslash before it.  Where there is none on
the same line, the last quote with a backslash ends it after all.

* `quoted?`: how far a quoted string goes.
* `pieceTail`: how far a piece goes.
* `takeValue`: a value and the text after it; `takeValue_append` says that nothing is lost.
-/

namespace MarkupJsx
namespace Style

/-- Whether a character ends a line of script. -/
def isLineEnd (c : Char) : Bool :=
  c == '\n' || c == '\r' || c == '\u2028' || c == '\u2029'

/-- How many characters a quoted string has after its opening quote, its closing quote included.
None where nothing closes it. -/
def quoted? (quote : Char) : List Char → Option Nat
  | [] => none
  | [c] => if c = quote then some 1 else none
  | c :: next :: rest =>
    if c = quote then some 1
    else if isLineEnd c then none
    else if c = '\\' ∧ next = quote then
      match quoted? quote rest with
      | some more => some (more + 2)
      | none => some 2
    else (quoted? quote (next :: rest)).map (· + 1)

/-- How many characters there are up to a first closing parenthesis, which is counted too. -/
def closed? : List Char → Option Nat
  | [] => none
  | c :: rest => if c = ')' then some 1 else (closed? rest).map (· + 1)

/-- How many of the characters after a first one belong to the same piece. -/
def pieceTail (first : Char) (rest : List Char) : Nat :=
  if first = '\x27' ∨ first = '\x22' then (quoted? first rest).getD 0
  else if first = '(' then (closed? rest).getD 0
  else 0

/-- Whether a character ends a value. -/
def endsValue (c : Char) : Bool :=
  c == ';' || c == '\x7d'

/-- The value at the front of a text, and the text after it. -/
def takeValue : List Char → List Char × List Char
  | [] => ([], [])
  | c :: rest =>
    if endsValue c then ([], c :: rest)
    else
      let count := pieceTail c rest
      let tail := takeValue (rest.drop count)
      (c :: (rest.take count ++ tail.1), tail.2)
termination_by text => text.length
decreasing_by simp only [List.length_drop, List.length_cons]; omega

@[simp] theorem takeValue_nil : takeValue [] = ([], []) := by
  simp only [takeValue]

theorem takeValue_of_endsValue {c : Char} (h : endsValue c) (rest : List Char) :
    takeValue (c :: rest) = ([], c :: rest) := by
  simp only [takeValue, h, if_true]

theorem takeValue_piece {c : Char} (h : endsValue c = false) (rest : List Char) :
    takeValue (c :: rest) =
      (c :: (rest.take (pieceTail c rest) ++ (takeValue (rest.drop (pieceTail c rest))).1),
        (takeValue (rest.drop (pieceTail c rest))).2) := by
  simp only [takeValue, h, Bool.false_eq_true, if_false]

/-- A value and the text after it are the whole text. -/
theorem takeValue_append : ∀ text : List Char, (takeValue text).1 ++ (takeValue text).2 = text
  | [] => by simp
  | c :: rest => by
    by_cases h : endsValue c
    · simp [takeValue_of_endsValue h]
    · have hc : endsValue c = false := by simpa using h
      rw [takeValue_piece hc]
      simp only [List.cons_append, List.append_assoc]
      rw [takeValue_append (rest.drop (pieceTail c rest)), List.take_append_drop]
termination_by text => text.length
decreasing_by simp only [List.length_drop, List.length_cons]; omega

end Style
end MarkupJsx
