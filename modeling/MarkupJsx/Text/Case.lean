/-!
# Letter case and hyphens in ASCII names

Attribute names, data names and style property names are written in two fashions: with hyphens
before small letters (`background-color`) and with capitals (`backgroundColor`).  Only ASCII
letters take part; every other character stands for itself.  The classes and the case maps of
`Char` are just these.

`joinHyphens` goes from the first fashion to the second and `splitCapitals` back.
-/

namespace MarkupJsx
namespace Text

/-- Whether two texts agree up to the case of ASCII letters. -/
def sameLetters (left right : String) : Bool :=
  left.toList.map Char.toLower = right.toList.map Char.toLower

/-- Writes every small letter after a hyphen as a capital and drops that hyphen. -/
def joinHyphens : List Char → List Char
  | [] => []
  | [c] => [c]
  | c :: next :: rest =>
    if c = '-' ∧ next.isLower then next.toUpper :: joinHyphens rest
    else c :: joinHyphens (next :: rest)

@[simp] theorem joinHyphens_nil : joinHyphens [] = [] := rfl

@[simp] theorem joinHyphens_singleton (c : Char) : joinHyphens [c] = [c] := rfl

theorem joinHyphens_other {c : Char} (h : c ≠ '-') (rest : List Char) :
    joinHyphens (c :: rest) = c :: joinHyphens rest := by
  cases rest <;> simp [joinHyphens, h]

/-- Writes every capital as a hyphen and its small letter. -/
def splitCapitals : List Char → List Char
  | [] => []
  | c :: rest => if c.isUpper then '-' :: c.toLower :: splitCapitals rest
    else c :: splitCapitals rest

@[simp] theorem splitCapitals_nil : splitCapitals [] = [] := rfl

/-- Whether a hyphen stands before a small letter somewhere. -/
def hasHyphenedLetter : List Char → Bool
  | c :: next :: rest => (c == '-' && next.isLower) || hasHyphenedLetter (next :: rest)
  | _ => false

/-- Where no small letter follows a hyphen there is nothing to join. -/
theorem joinHyphens_of_not_hasHyphenedLetter {text : List Char}
    (h : hasHyphenedLetter text = false) : joinHyphens text = text := by
  fun_induction joinHyphens text with
  | case1 => rfl
  | case2 => rfl
  | case3 c next rest hc ih => simp [hasHyphenedLetter, hc] at h
  | case4 c next rest hc ih =>
    simp only [hasHyphenedLetter, Bool.or_eq_false_iff] at h
    rw [ih h.2]

end Text
end MarkupJsx
