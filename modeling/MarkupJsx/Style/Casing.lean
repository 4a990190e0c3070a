import MarkupJsx.Text.Case

/-!
# The two fashions of style property names

A style property has a name in style sheets (`background-color`, `-webkit-transform`) and a name in
scripts (`backgroundColor`, `WebkitTransform`).  A custom property, whose name starts with two
hyphens, is spelled the same in both.  The vendor name `ms` is the one that stays small in scripts:
`-ms-transform` is `msTransform`.
-/

namespace MarkupJsx

/-- In which fashion the names of style properties are written. -/
inductive StyleCase where
  /-- As in scripts (`backgroundColor`). -/
  | dom
  /-- As in style sheets (`background-color`). -/
  | css
  deriving DecidableEq, Inhabited

namespace Style

/-- The name of a style property in scripts. -/
def toDomCase : List Char → List Char
  | '-' :: '-' :: rest => '-' :: '-' :: rest
  | '-' :: 'm' :: 's' :: '-' :: rest => Text.joinHyphens ('m' :: 's' :: '-' :: rest)
  | name => Text.joinHyphens name

/-- A hyphen before the vendor name `ms`. -/
def hyphenateVendor : List Char → List Char
  | 'm' :: 's' :: '-' :: rest => '-' :: 'm' :: 's' :: '-' :: rest
  | name => name

/-- The name of a style property in style sheets. -/
def toCssCase : List Char → List Char
  | '-' :: '-' :: rest => '-' :: '-' :: rest
  | name => hyphenateVendor (Text.splitCapitals name)

/-- Custom properties keep their names. -/
@[simp] theorem toDomCase_custom (rest : List Char) :
    toDomCase ('-' :: '-' :: rest) = '-' :: '-' :: rest := rfl

@[simp] theorem toCssCase_custom (rest : List Char) :
    toCssCase ('-' :: '-' :: rest) = '-' :: '-' :: rest := rfl

/-- The name under which a style text gives a property, written in a fashion: texts use the
fashion of style sheets already. -/
def StyleCase.ofText (names : StyleCase) (name : List Char) : List Char :=
  match names with
  | .dom => toDomCase name
  | .css => name

/-- The name under which a style object gives a property, written in a fashion: objects use the
fashion of scripts already. -/
def StyleCase.ofObject (names : StyleCase) (name : List Char) : List Char :=
  match names with
  | .dom => name
  | .css => toCssCase name

end Style
end MarkupJsx
