import MarkupJsx.Conversion.Program
import MarkupJsx.Proofs.Style.Fashions
import MarkupJsx.Proofs.Style.Written
import MarkupJsx.Proofs.Vocabulary.StyleName
import MarkupJsx.Script.InsertionSort

/-!
# A style as a text and as an object

An inline style is given as a text, in the language and with the names of style sheets, or as an
object, with the names of scripts.  The two go different ways: a text is read character by
character, and its names are brought into the fashion of scripts where that is asked for; an object
is taken as it is, and its names are brought into the fashion of style sheets where that is asked
for.

Take declarations of a plain kind, with different names, and write them down both ways: as the text
`name: value; name: value` (`sheetText`), and as the object of their values under the names in
scripts (`scriptObject`).  The theory below says that nothing of the way shows.

* `parse_sheetText` and `ofObject_scriptObject`: both have the same entries in either fashion,
  one for each declaration and in their order.
* `attributeFor_styleText`, `attributeFor_styleObject`: both become the same attribute.
* `toProgram_styleText_eq_styleObject`: **the style as a text and the style as an object are
  converted to the same,** in any element and among any other properties.
-/

namespace MarkupJsx
open Jsx

namespace Style

/-! ## Declarations written both ways -/

/-- A plain declaration whose name can be told from the name in scripts. -/
structure SheetDeclaration extends PlainDeclaration where
  isSheetName : IsSheetName name

/-- Declarations as the text of a style, written in the usual way. -/
def sheetText (declarations : List SheetDeclaration) : String :=
  "; ".intercalate <| declarations.map fun declaration =>
    String.ofList declaration.name ++ ": " ++ String.ofList declaration.value

/-- Declarations as the object of a style: their values under the names in scripts. -/
def scriptObject (declarations : List SheetDeclaration) : Entries Primitive :=
  declarations.map fun declaration =>
    (String.ofList (toDomCase declaration.name), .string (String.ofList declaration.value))

/-- Declarations as entries, with the names in a fashion. -/
def sheetEntries (names : StyleCase) (declarations : List SheetDeclaration) : Entries String :=
  declarations.map fun declaration =>
    (String.ofList (StyleCase.ofText names declaration.name), String.ofList declaration.value)

/-- Different names stay different in either fashion. -/
theorem nodup_ofText {declarations : List SheetDeclaration}
    (distinct : (declarations.map fun declaration => declaration.name).Nodup)
    (names : StyleCase) :
    (declarations.map fun declaration =>
      String.ofList (StyleCase.ofText names declaration.name)).Nodup := by
  refine List.Pairwise.map _ ?_ (List.pairwise_map.1 distinct)
  intro declaration other hne heq
  have hletters := congrArg String.toList heq
  rw [String.toList_ofList, String.toList_ofList] at hletters
  cases names with
  | dom => exact hne (eq_of_toDomCase_eq declaration.isSheetName other.isSheetName hletters)
  | css => exact hne hletters

theorem nodup_keys_sheetEntries {declarations : List SheetDeclaration}
    (distinct : (declarations.map fun declaration => declaration.name).Nodup)
    (names : StyleCase) : (Entries.keys (sheetEntries names declarations)).Nodup := by
  rw [sheetEntries, Entries.keys, List.map_map]
  exact nodup_ofText distinct names

/-- The names in scripts are all different, so the object has an entry for each declaration. -/
theorem nodup_keys_scriptObject {declarations : List SheetDeclaration}
    (distinct : (declarations.map fun declaration => declaration.name).Nodup) :
    (Entries.keys (scriptObject declarations)).Nodup := by
  rw [scriptObject, Entries.keys, List.map_map]
  exact nodup_ofText distinct .dom

/-! ## The text -/

/-- A declaration with a blank behind its colon. -/
def PlainDeclaration.spaced (declaration : PlainDeclaration) : WrittenDeclaration :=
  { declaration.bare with
    indent := [' ']
    isSpace_indent := by simp [isSpace, Text.isBlank] }

/-- A semicolon and a blank. -/
def Separation.spaced : Separation where
  mix := [' ']
  remarks := []
  isSeparator_of_mem := by simp [isSeparator, isSpace, Text.isBlank]

/-- Where nothing is written there is nothing but blanks. -/
theorem isSpace_of_mem_nil : ∀ c ∈ ([] : List Char), isSpace c :=
  List.forall_mem_nil _

/-- Declarations with a semicolon and a blank between them. -/
def WrittenStyle.ofSheet (declarations : List SheetDeclaration) : WrittenStyle where
  indent := []
  remarks := []
  separated := declarations.dropLast.map fun declaration =>
    (declaration.toPlainDeclaration.spaced, .spaced)
  last := declarations.getLast?.map fun declaration => declaration.toPlainDeclaration.spaced
  isSpace_of_mem := isSpace_of_mem_nil

theorem WrittenStyle.text_ofSheet (declarations : List SheetDeclaration) :
    (ofSheet declarations).text = (sheetText declarations).toList := by
  have hspaced : ∀ declaration : PlainDeclaration,
      declaration.spaced.text = declaration.name ++ ':' :: ' ' :: declaration.value := by
    intro declaration
    simp [WrittenDeclaration.text, PlainDeclaration.spaced, PlainDeclaration.bare]
  have hseparator : Separation.spaced.separators ++ remarksText Separation.spaced.remarks =
      [';', ' '] := rfl
  rw [sheetText, String.toList_intercalate, List.map_map]
  simp only [text, ofSheet, remarksText_nil, List.nil_append, List.flatMap_map, hspaced,
    hseparator]
  induction declarations with
  | nil => rfl
  | cons declaration rest ih =>
    cases rest with
    | nil => simp [hspaced]
    | cons next rest =>
      rw [List.map_cons, List.map_cons, List.intercalate_cons_cons, ← List.map_cons, ← ih,
        List.dropLast_cons_cons, List.getLast?_cons_cons, List.flatMap_cons, List.append_assoc]
      simp

theorem WrittenStyle.pairs_ofSheet (declarations : List SheetDeclaration) :
    (ofSheet declarations).pairs =
      declarations.map fun declaration => (declaration.name, declaration.value) := by
  rcases List.eq_nil_or_concat' declarations with rfl | ⟨others, last, rfl⟩
  · rfl
  · simp [pairs, ofSheet, PlainDeclaration.spaced, PlainDeclaration.bare, Function.comp_def]

/-- **The text is read as its declarations,** in order. -/
theorem parse_sheetText {declarations : List SheetDeclaration}
    (distinct : (declarations.map fun declaration => declaration.name).Nodup)
    (names : StyleCase) :
    parse (sheetText declarations) names = .ok (sheetEntries names declarations) := by
  have hentries : entriesOf names (WrittenStyle.ofSheet declarations).pairs =
      sheetEntries names declarations := by
    rw [WrittenStyle.pairs_ofSheet, entriesOf, List.map_map]
    exact Entries.ofPairs_of_nodup (nodup_keys_sheetEntries distinct names)
  refine parse_eq_of_splits ⟨(WrittenStyle.ofSheet declarations).layout, [], _, ?_,
    (WrittenStyle.ofSheet declarations).fits, stopsAt_nil,
    forall₂_reads_iff.2 (WrittenStyle.ofSheet declarations).map_read_declarations, hentries.symm⟩
  rw [List.append_nil, WrittenStyle.text_layout, WrittenStyle.text_ofSheet]

/-! ## The object -/

/-- **The object has the same entries.**  In the fashion of style sheets its names are the ones that
the text has. -/
theorem ofObject_scriptObject {declarations : List SheetDeclaration}
    (distinct : (declarations.map fun declaration => declaration.name).Nodup)
    (names : StyleCase) :
    ofObject (scriptObject declarations) names = sheetEntries names declarations := by
  have hnames : ∀ declaration : SheetDeclaration,
      StyleCase.ofObject names (toDomCase declaration.name) =
        StyleCase.ofText names declaration.name := by
    intro declaration
    cases names with
    | dom => rfl
    | css => exact toCssCase_toDomCase declaration.isSheetName
  have hpairs : (scriptObject declarations).map (fun declaration =>
      (String.ofList (StyleCase.ofObject names declaration.1.toList), declaration.2.text)) =
        sheetEntries names declarations := by
    rw [scriptObject, List.map_map, sheetEntries]
    refine List.map_congr_left fun declaration _ => Prod.ext ?_ rfl
    simp only [Function.comp_apply, String.toList_ofList, hnames]
  rw [ofObject, hpairs]
  exact Entries.ofPairs_of_nodup (nodup_keys_sheetEntries distinct names)

end Style

/-! ## The attribute -/

namespace Conversion

/-- **A style is written under its name,** unless its value is one that counts as absent. -/
theorem attributeFor_of_sameLetters {space : Namespace} {spelling : Spelling}
    {tagName name : String} (h : Text.sameLetters name "style") {value : PropertyValue}
    (hmissing : value.isMissing = false) (hfalse : value ≠ .bool false) :
    attributeFor space spelling tagName name value =
      (declarationsOf spelling.styles tagName (flatten (Vocabulary.styleRow space) value)).map
        fun declarations => some (.named (.identifier "style")
          (.container (.expression (styleObject declarations) {})) {}) := by
  have hname := (Vocabulary.writtenName_find_eq_style_iff space spelling.attributes name).2 h
  have hrow := Vocabulary.find_of_sameLetters_style h space
  have homitted : isOmitted (Vocabulary.styleRow space) value = false := by
    have hboolean : (Vocabulary.styleRow space).isBoolean = false := by cases space <;> rfl
    simp [isOmitted, hmissing, hfalse, hboolean]
  have hmarkup : Text.isMarkupName "style" = true := by decide
  rw [hrow] at hname
  simp only [attributeFor, hrow, homitted, Bool.false_eq_true, if_false, hname, writtenValue,
    if_true, attributeOf, hmarkup]
  rcases declarationsOf spelling.styles tagName (flatten (Vocabulary.styleRow space) value) with
    error | declarations
  · rfl
  · rfl

/-- A style that is no list is written with its declarations. -/
theorem attributeFor_style {space : Namespace} {spelling : Spelling} {tagName name : String}
    (hname : Text.sameLetters name "style") {value : PropertyValue}
    {declarations : Entries String} (hmissing : value.isMissing = false)
    (hfalse : value ≠ .bool false) (hlist : ∀ items, value ≠ .list items)
    (h : declarationsOf spelling.styles tagName value = .ok declarations) :
    attributeFor space spelling tagName name value =
      .ok (some (.named (.identifier "style")
        (.container (.expression (styleObject declarations) {})) {})) := by
  have hflat : flatten (Vocabulary.styleRow space) value = value := by
    cases value with
    | list items => exact absurd rfl (hlist items)
    | _ => rfl
  rw [attributeFor_of_sameLetters hname hmissing hfalse, hflat, h]
  rfl

/-- The attribute for declarations in a fashion: each name is the key of its value, as an identifier
where it can be one. -/
def sheetAttribute (names : StyleCase) (declarations : List Style.SheetDeclaration) : Attribute :=
  .named (.identifier "style")
    (.container (.expression (.object (declarations.map fun declaration =>
      .init (declarationKey (String.ofList (Style.StyleCase.ofText names declaration.name)))
        (.literal (.string (String.ofList declaration.value))))) {})) {}

theorem styleObject_sheetEntries (names : StyleCase)
    (declarations : List Style.SheetDeclaration) :
    Attribute.named (.identifier "style")
      (.container (.expression (styleObject (Style.sheetEntries names declarations)) {})) {} =
        sheetAttribute names declarations := by
  rw [styleObject, Style.sheetEntries, List.map_map]
  rfl

variable {declarations : List Style.SheetDeclaration}
  (distinct : (declarations.map fun declaration => declaration.name).Nodup)
  (space : Namespace) (spelling : Spelling) (tagName : String)
include distinct

theorem attributeFor_styleText :
    attributeFor space spelling tagName "style" (.string (Style.sheetText declarations)) =
      .ok (some (sheetAttribute spelling.styles declarations)) := by
  rw [← styleObject_sheetEntries]
  refine attributeFor_style (by decide) rfl (fun h => nomatch h) (fun _ h => nomatch h) ?_
  rw [declarationsOf, Style.parse_sheetText distinct]

theorem attributeFor_styleObject :
    attributeFor space spelling tagName "style" (.style (Style.scriptObject declarations)) =
      .ok (some (sheetAttribute spelling.styles declarations)) := by
  rw [← styleObject_sheetEntries]
  refine attributeFor_style (by decide) rfl (fun h => nomatch h) (fun _ h => nomatch h) ?_
  rw [declarationsOf, Style.ofObject_scriptObject distinct]

omit distinct in
/-- Attributes are the same if one property, among any others, becomes the same attribute. -/
theorem attributesOf_congr {property : String} {value other : PropertyValue}
    (h : attributeFor space spelling tagName property value =
      attributeFor space spelling tagName property other)
    (before after : Entries PropertyValue) :
    attributesOf space spelling tagName (before ++ (property, value) :: after) =
      attributesOf space spelling tagName (before ++ (property, other) :: after) := by
  induction before with
  | nil => rw [List.nil_append, List.nil_append, attributesOf_cons, attributesOf_cons, h]
  | cons entry rest ih =>
    rw [List.cons_append, List.cons_append, attributesOf_cons, attributesOf_cons, ih]

omit distinct in
/-- What an element is converted to depends on its properties by way of its attributes alone. -/
theorem convertElement_congr {convert : Node → Conversion Converted}
    {properties others : Entries PropertyValue}
    (h : ∀ space spelling, attributesOf space spelling tagName properties =
      attributesOf space spelling tagName others)
    (source : Source) (children : List Node) :
    convertElement convert source tagName properties children =
      convertElement convert source tagName others children := by
  have hchildren : convertChildren convert (.element source tagName properties children) =
      convertChildren convert (.element source tagName others children) := rfl
  simp only [convertElement, h, hchildren]

end Conversion

/-! ## The whole program -/

/-- **A style is the same as a text and as an object.**  Take declarations with different names,
each of them that of a custom property, or without capitals and not starting with `ms-`, and with
plain values.  The names in scripts are different, too.  In any namespace and in either fashion of
names the text of the declarations and the object of them become the same attribute: one with the
declarations in their order, and with the same keys for both.  So an element that has either among
its properties has the same attributes, and is converted to the same program. -/
theorem toProgram_styleText_eq_styleObject [Sorter] (declarations : List Style.SheetDeclaration)
    (distinct : (declarations.map fun declaration => declaration.name).Nodup) :
    let text : PropertyValue := .string (Style.sheetText declarations)
    let object : PropertyValue := .style (Style.scriptObject declarations)
    (Entries.keys (Style.scriptObject declarations)).Nodup ∧
    (∀ (space : Namespace) (spelling : Spelling) (tagName : String),
      Conversion.attributeFor space spelling tagName "style" text =
          .ok (some (Conversion.sheetAttribute spelling.styles declarations)) ∧
        Conversion.attributeFor space spelling tagName "style" object =
          .ok (some (Conversion.sheetAttribute spelling.styles declarations))) ∧
    ∀ (space : Namespace) (spelling : Spelling) (maxDepth : Nat) (source : Source)
      (tagName : String) (before after : Entries PropertyValue) (children : List Node),
      Conversion.attributesOf space spelling tagName (before ++ ("style", text) :: after) =
          Conversion.attributesOf space spelling tagName (before ++ ("style", object) :: after) ∧
        toProgram { space, spelling, maxDepth }
            (.element source tagName (before ++ ("style", text) :: after) children) =
          toProgram { space, spelling, maxDepth }
            (.element source tagName (before ++ ("style", object) :: after) children) := by
  intro text object
  have htext := Conversion.attributeFor_styleText distinct
  have hobject := Conversion.attributeFor_styleObject distinct
  refine ⟨Style.nodup_keys_scriptObject distinct,
    fun space spelling tagName => ⟨htext space spelling tagName, hobject space spelling tagName⟩,
    fun space spelling maxDepth source tagName before after children => ?_⟩
  have hattributes : ∀ space spelling,
      Conversion.attributesOf space spelling tagName (before ++ ("style", text) :: after) =
        Conversion.attributesOf space spelling tagName (before ++ ("style", object) :: after) :=
    fun space spelling => Conversion.attributesOf_congr space spelling tagName
      ((htext space spelling tagName).trans (hobject space spelling tagName).symm) before after
  refine ⟨hattributes space spelling, ?_⟩
  let options : Options := { space, spelling, maxDepth }
  have hconvert : ∀ levels, convert options.overrides maxDepth levels
      (.element source tagName (before ++ ("style", text) :: after) children) =
        convert options.overrides maxDepth levels
          (.element source tagName (before ++ ("style", object) :: after) children) := by
    intro levels
    cases levels with
    | zero => rfl
    | succ levels =>
      rw [convert_succ, convert_succ, Conversion.convertWith_none, Conversion.convertWith_none,
        Conversion.convertByKind, Conversion.convertByKind,
        Conversion.convertElement_congr tagName hattributes]
      rfl
  rw [toProgram_eq, toProgram_eq]
  exact congrArg (fun run => Except.map
    (fun converted => programOf source.spanOrigin converted (run options.initialState).2)
    (run options.initialState).1) (hconvert maxDepth)

namespace Style

/-- A custom property, whose value has a semicolon in quotes. -/
def quotedCustom : SheetDeclaration where
  name := ['-', '-', 'A', '_', '1']
  value := ['\x27', 'b', ';', 'c', '\x27']
  name_ne_nil := by decide
  isPlainNameChar_of_mem := List.all_eq_true.1 (by decide)
  plain :=
    { pieces := ⟨[['\x27', 'b', ';', 'c', '\x27']], rfl, by
        simp only [List.mem_singleton, forall_eq]
        exact @PlainPiece.quoted '\x27' ['b', ';', 'c'] (.inl rfl) (by decide) (by decide)
          (by simp [isLineEnd])⟩
      first := by simp [StopsAt, isSpace, Text.isBlank]
      last := by simp [isSpace, Text.isBlank]
      noComment := by decide }
  isSheetName := .inl (by decide)

/-- A property of the vendor `ms`, whose value has a semicolon in parentheses. -/
def vendorName : SheetDeclaration where
  name := ['-', 'm', 's', '-', 'd', '-', 'e']
  value := ['x', '(', '0', ';', ')']
  name_ne_nil := by decide
  isPlainNameChar_of_mem := List.all_eq_true.1 (by decide)
  plain :=
    { pieces := ⟨[['x'], ['(', '0', ';', ')']], rfl, by
        simp only [List.mem_cons, List.not_mem_nil, or_false, forall_eq_or_imp, forall_eq]
        exact ⟨.single (c := 'x') (by decide) (by simp [IsQuote]) (by decide),
          @PlainPiece.group ['0', ';'] (by decide)⟩⟩
      first := by simp [StopsAt, isSpace, Text.isBlank]
      last := by simp [isSpace, Text.isBlank]
      noComment := by decide }
  isSheetName := isSheetName_of_all (by decide) (by decide)

end Style

open scoped Sorting.Insertion in
/-- Custom properties keep their names, and the vendor name stays small. -/
theorem toProgram_styleText_eq_styleObject_vendorName :
    let declarations := [Style.quotedCustom, Style.vendorName]
    (declarations.map fun declaration => declaration.name).Nodup ∧
      Style.sheetText declarations = "--A_1: 'b;c'; -ms-d-e: x(0;)" ∧
      Style.scriptObject declarations =
        [("--A_1", .string "'b;c'"), ("msDE", .string "x(0;)")] ∧
      toProgram {} (.element {} "p" [("id", .string "a"),
          ("style", .string (Style.sheetText declarations))] []) =
        toProgram {} (.element {} "p" [("id", .string "a"),
          ("style", .style (Style.scriptObject declarations))] []) :=
  have distinct : ([Style.quotedCustom, Style.vendorName].map
      fun declaration => declaration.name).Nodup := by decide
  ⟨distinct, by decide, by decide,
    ((toProgram_styleText_eq_styleObject _ distinct).2.2 .html {} 512 {} "p"
      [("id", .string "a")] [] []).2⟩

end MarkupJsx
