import MarkupJsx.Style.Value
import MarkupJsx.Style.Casing
import MarkupJsx.Text.Place
import MarkupJsx.Tree.Value

/-!
# Inline styles

An inline style is a list of declarations, `name: value`, with semicolons between them and
comments in many places.  It is all that is understood of style sheets.

A style is read from the front.  Blanks and comments are skipped, and then declarations are read
as long as a character that can start a name follows; whatever is left after the last of them is
ignored.  Only two things are wrong with a style: a comment that is not closed where one may
stand, and a name without a colon.  Each step answers the text after what it has read, and a
failure answers the text at which it happened, from which its line and column are known.

The names and values are free of comments and of blanks at their ends.  A name that is declared
again keeps its first place and gets the new value.
-/

namespace MarkupJsx
namespace Style

/-- What can be wrong with a style. -/
inductive Cause where
  | unclosedComment
  | missingColon
  deriving DecidableEq, Inhabited

/-- How a cause is worded. -/
def Cause.message : Cause → String
  | unclosedComment => "End of comment missing"
  | missingColon => "property missing ':'"

/-- A failure, and the text that was left when it happened. -/
structure Failure where
  cause : Cause
  rest : List Char
  deriving DecidableEq

/-- A failure, and its place in the style. -/
structure Fault where
  cause : Cause
  place : Text.Place
  deriving DecidableEq, Inhabited

/-- A name and a value. -/
abbrev Declaration := List Char × List Char

/-- Whether a character is a blank of a script: these are the blank characters and the byte order
mark. -/
def isSpace (c : Char) : Bool :=
  Text.isBlank c || c == '\ufeff'

/-- The text after the blanks at its front. -/
def skipSpace (text : List Char) : List Char :=
  text.dropWhile isSpace

theorem length_skipSpace_le (text : List Char) : (skipSpace text).length ≤ text.length :=
  (List.dropWhile_suffix isSpace).length_le

/-! ## Comments -/

/-- How many characters a comment has before its closing mark.  None where it is not closed. -/
def commentLength? : List Char → Option Nat
  | [] => none
  | [_] => none
  | c :: next :: rest =>
    if c = '*' ∧ next = '/' then some 0 else (commentLength? (next :: rest)).map (· + 1)

/-- A text without its closed comments. -/
def stripComments : List Char → List Char
  | [] => []
  | [c] => [c]
  | c :: next :: rest =>
    if c = '/' ∧ next = '*' then
      match commentLength? rest with
      | some count => stripComments (rest.drop (count + 2))
      | none => c :: next :: rest
    else c :: stripComments (next :: rest)
termination_by text => text.length
decreasing_by
  · simp only [List.length_drop, List.length_cons]; omega
  · simp only [List.length_cons]; omega

/-- The text after a comment at its front and the blanks behind that; the whole text where there
is no comment. -/
def skipComment : List Char → Except Failure (List Char)
  | '/' :: '*' :: body =>
    match commentLength? body with
    | some count => .ok (skipSpace (body.drop (count + 2)))
    | none => .error ⟨.unclosedComment, '/' :: '*' :: body⟩
  | text => .ok text

/-- The text after all comments at its front, each with the blanks behind it. -/
def skipComments : List Char → Except Failure (List Char)
  | '/' :: '*' :: body =>
    match commentLength? body with
    | some count => skipComments (skipSpace (body.drop (count + 2)))
    | none => .error ⟨.unclosedComment, '/' :: '*' :: body⟩
  | text => .ok text
termination_by text => text.length
decreasing_by
  have := length_skipSpace_le (body.drop (count + 2))
  simp only [List.length_drop, List.length_cons] at *
  omega

theorem length_skipComment_le {text rest : List Char} (h : skipComment text = .ok rest) :
    rest.length ≤ text.length := by
  unfold skipComment at h
  split at h
  · split at h
    · rename_i body _ count _
      cases h
      have := length_skipSpace_le (body.drop (count + 2))
      simp only [List.length_drop, List.length_cons] at *
      omega
    · cases h
  · cases h
    exact Nat.le_refl _

theorem length_skipComments_le {text rest : List Char} (h : skipComments text = .ok rest) :
    rest.length ≤ text.length := by
  fun_induction skipComments text with
  | case1 body count hc ih =>
    have h₁ := ih h
    have h₂ := length_skipSpace_le (body.drop (count + 2))
    simp only [List.length_drop, List.length_cons] at *
    omega
  | case2 => cases h
  | case3 => cases h; exact Nat.le_refl _

/-! ## Declarations -/

/-- Whether a character can stand in the name of a declaration. -/
def isNameChar (c : Char) : Bool :=
  c.isAlphanum || c == '_' || c == '-' || c == '#' || c == '/' || c == '*' || c == '\\'

/-- Whether a character can stand between the brackets after a name. -/
def isHackChar (c : Char) : Bool :=
  c.isDigit || c.isLower || c == '_' || c == '-'

/-- How many characters a bracketed word takes that follows a name, as in `color[hack]`. -/
def hackLength : List Char → Nat
  | '[' :: rest =>
    let count := (rest.takeWhile isHackChar).length
    if count = 0 then 0 else if rest[count]? = some ']' then count + 2 else 0
  | _ => 0

/-- The name at the front of a text, and the text after it and the blanks behind it. -/
def takeName (text : List Char) : List Char × List Char :=
  let rest := text.dropWhile isNameChar
  let count := hackLength rest
  (text.takeWhile isNameChar ++ rest.take count, skipSpace (rest.drop count))

/-- The text after semicolons and blanks. -/
def skipSeparators (text : List Char) : List Char :=
  text.dropWhile fun c => c == ';' || isSpace c

/-- A name or value without comments and without blanks at its ends. -/
def clean (text : List Char) : List Char :=
  Text.trimBy isSpace (stripComments text)

/-- Reads the rest of a declaration, after its name. -/
def readAfterName (name text : List Char) : Except Failure (Declaration × List Char) :=
  match skipComment text with
  | .error failure => .error failure
  | .ok (':' :: rest) =>
    let value := takeValue (skipSpace rest)
    .ok ((clean name, clean value.1), skipSeparators value.2)
  | .ok rest => .error ⟨.missingColon, rest⟩

/-- Reads a declaration. -/
def readDeclaration (text : List Char) : Except Failure (Declaration × List Char) :=
  let name := takeName text
  readAfterName name.1 name.2

theorem length_readAfterName {name text rest : List Char} {declaration : Declaration}
    (h : readAfterName name text = .ok (declaration, rest)) : rest.length < text.length := by
  unfold readAfterName at h
  split at h
  · cases h
  · rename_i after hc
    cases h
    have h₁ := length_skipComment_le hc
    have h₂ := length_skipSpace_le after
    have h₃ := congrArg List.length (takeValue_append (skipSpace after))
    have h₄ : (skipSeparators (takeValue (skipSpace after)).2).length ≤
        (takeValue (skipSpace after)).2.length := (List.dropWhile_suffix _).length_le
    simp only [List.length_append, List.length_cons] at *
    omega
  · cases h

theorem length_takeName_le (text : List Char) : (takeName text).2.length ≤ text.length := by
  have h₁ := length_skipSpace_le
    ((text.dropWhile isNameChar).drop (hackLength (text.dropWhile isNameChar)))
  have h₂ : (text.dropWhile isNameChar).length ≤ text.length :=
    (List.dropWhile_suffix isNameChar).length_le
  simp only [takeName, List.length_drop] at *
  omega

theorem length_readDeclaration {text rest : List Char} {declaration : Declaration}
    (h : readDeclaration text = .ok (declaration, rest)) : rest.length < text.length :=
  Nat.lt_of_lt_of_le (length_readAfterName h) (length_takeName_le text)

/-- Reads declarations, with the comments behind each of them, as long as a name follows. -/
def readDeclarations (text : List Char) : Except Failure (List Declaration) :=
  if (text.head?.map isNameChar).getD false then
    match _ : readDeclaration text with
    | .error failure => .error failure
    | .ok (declaration, rest) =>
      match _ : skipComments rest with
      | .error failure => .error failure
      | .ok rest =>
        match readDeclarations rest with
        | .error failure => .error failure
        | .ok declarations => .ok (declaration :: declarations)
  else .ok []
termination_by text.length
decreasing_by
  exact Nat.lt_of_le_of_lt (length_skipComments_le ‹_›) (length_readDeclaration ‹_›)

/-- Reads a whole style. -/
def readStyle (text : List Char) : Except Failure (List Declaration) :=
  match skipComments (skipSpace text) with
  | .error failure => .error failure
  | .ok rest => readDeclarations rest

/-! ## Styles as entries -/

/-- The declarations of a style text, with their names in a fashion. -/
def parse (text : String) (names : StyleCase) : Except Fault (Entries String) :=
  let letters := text.toList
  match readStyle letters with
  | .error failure =>
    let before := letters.take (letters.length - failure.rest.length)
    .error ⟨failure.cause, Text.Place.after before⟩
  | .ok declarations =>
    .ok <| Entries.ofPairs <| declarations.map fun declaration =>
      (String.ofList (StyleCase.ofText names declaration.1), String.ofList declaration.2)

/-- The declarations of a style object, with their names in a fashion. -/
def ofObject (object : Entries Primitive) (names : StyleCase) : Entries String :=
  Entries.ofPairs <| object.map fun declaration =>
    (String.ofList (StyleCase.ofObject names declaration.1.toList), declaration.2.text)

end Style
end MarkupJsx
