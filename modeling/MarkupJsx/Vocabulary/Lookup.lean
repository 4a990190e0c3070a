import MarkupJsx.Vocabulary.Html
import MarkupJsx.Vocabulary.Svg
import MarkupJsx.Vocabulary.Shared
import MarkupJsx.Vocabulary.Dataset

/-!
# Looking up a property

A property is found under its own name and under that of its attribute, whatever the case of the
letters.  Two names are the same up to case if their small forms agree.  The names in the tables
are ASCII, and besides the ASCII capitals only the kelvin sign has an ASCII letter as its small
form, so `foldChar` need not know any other character: one that has a small form beyond ASCII
matches no name either way.

No two rows of a vocabulary are listed under one name, so the first row found is the only one.
-/

namespace MarkupJsx

/-- In which fashion attribute names are written. -/
inductive AttributeCase where
  /-- As the properties of a component library are named (`className`). -/
  | react
  /-- As in markup (`class`). -/
  | html
  deriving DecidableEq, Inhabited

namespace Vocabulary

/-- The small form of a character, as far as it is ASCII. -/
def foldChar (c : Char) : Char :=
  if c = '\u212a' then 'k' else c.toLower

/-- The form in which names are compared. -/
def fold (name : String) : List Char :=
  name.toList.map foldChar

/-- Rows under the folded forms of both their names. -/
def indexOf (rows : List PropertyInfo) : List (List Char × PropertyInfo) :=
  rows.flatMap fun info => [(fold info.propertyName, info), (fold info.attributeName, info)]

/-- The rows of HTML under their names. -/
def htmlIndex : List (List Char × PropertyInfo) :=
  indexOf (sharedProperties ++ htmlProperties)

/-- The rows of SVG under their names. -/
def svgIndex : List (List Char × PropertyInfo) :=
  indexOf (sharedProperties ++ svgProperties)

/-- The rows of a vocabulary under their names. -/
def index : Namespace → List (List Char × PropertyInfo)
  | .html => htmlIndex
  | .svg => svgIndex

/-- The row that is listed under a name. -/
def row? (space : Namespace) (name : String) : Option PropertyInfo :=
  (index space).lookup (fold name)

/-- What is known about a name under which no row is listed: a data name has a property and an
attribute, and any other name is both. -/
def unlisted (name : String) : PropertyInfo :=
  match Dataset.names? name.toList with
  | some (propertyName, attributeName) =>
    .plain (String.ofList propertyName) (String.ofList attributeName)
  | none => .plain name name

/-- What is known about a property or attribute. -/
def find (space : Namespace) (name : String) : PropertyInfo :=
  (row? space name).getD (unlisted name)

/-- The properties that the component library names differently. -/
def reactNames : List (String × String) :=
  [("classId", "classID"), ("dataType", "datatype"), ("itemId", "itemID"),
    ("strokeDashArray", "strokeDasharray"), ("strokeDashOffset", "strokeDashoffset"),
    ("strokeLineCap", "strokeLinecap"), ("strokeLineJoin", "strokeLinejoin"),
    ("strokeMiterLimit", "strokeMiterlimit"), ("typeOf", "typeof"),
    ("xLinkActuate", "xlinkActuate"), ("xLinkArcRole", "xlinkArcrole"),
    ("xLinkHref", "xlinkHref"), ("xLinkRole", "xlinkRole"), ("xLinkShow", "xlinkShow"),
    ("xLinkTitle", "xlinkTitle"), ("xLinkType", "xlinkType"), ("xmlnsXLink", "xmlnsXlink")]

/-- The name that the component library has for a property. -/
def reactName (property : String) : String :=
  (reactNames.lookup property).getD property

/-- The name under which an attribute is written. -/
def PropertyInfo.writtenName (info : PropertyInfo) : AttributeCase → String
  | .react => if info.space.isSome then reactName info.propertyName else info.attributeName
  | .html => info.attributeName

/-- In the fashion of markup every attribute has its own name. -/
@[simp] theorem PropertyInfo.writtenName_html (info : PropertyInfo) :
    info.writtenName .html = info.attributeName := rfl

/-- A property without a space keeps its attribute name. -/
theorem PropertyInfo.writtenName_of_space_none {info : PropertyInfo} (h : info.space = none)
    (names : AttributeCase) : info.writtenName names = info.attributeName := by
  cases names <;> simp [writtenName, h]

end Vocabulary
end MarkupJsx
