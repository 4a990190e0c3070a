import MarkupJsx.Proofs.Conversion.Faults
import MarkupJsx.Proofs.Conversion.StyleForms
import MarkupJsx.Script.InsertionSort

/-!
# A style that is neither a text nor an object

An inline style can be given as any value.  What is no text and no object should have no
declarations: this is so for a number and for `true`, but not for a list.  A list becomes a text
before it is asked what kind of value the style is, and this text is then read as a style.

* `emptyStyle` is the attribute of a style without declarations.
* `styleListText` is the text that is read in the place of a list, its items with blanks between
  them.
* `Node.withStyleTexts` puts these texts in the place of the lists, and no conversion tells the two
  trees apart (`toProgram_withStyleTexts`).
* `Node.styleTexts` lists the texts that are read as styles in a tree, those of lists among them.

So an error in a style comes from one of these texts, and a list has no declarations exactly if its
text has none (`toProgram_reads_style_texts`).  The text of a list can be as wrong as any other
(`toProgram_listStyle_fails`).
-/

namespace MarkupJsx
open Jsx (Attribute Child)

/-! ## Lists as texts -/

/-- The text that is read where a style is a list. -/
def styleListText (items : List Primitive) : String :=
  String.ofList (Text.TokenList.withBlanks (items.map fun item => item.text.toList))

/-- A property with its text in the place of its list, if it is an inline style. -/
def withStyleText : String × PropertyValue → String × PropertyValue
  | (name, .list items) =>
    if Text.sameLetters name "style" then (name, .string (styleListText items))
    else (name, .list items)
  | property => property

/-- The text that is read as a style where a property stands, if one is. -/
def styleText? : String × PropertyValue → Option String
  | (name, .string text) => if Text.sameLetters name "style" then some text else none
  | (name, .list items) =>
    if Text.sameLetters name "style" then some (styleListText items) else none
  | _ => none

theorem isListStyle_withStyleText (property : String × PropertyValue) :
    isListStyle (withStyleText property) = false := by
  obtain ⟨name, value⟩ := property
  cases value with
  | list items =>
    rw [withStyleText]
    split
    · rfl
    · rename_i h
      exact eq_false_of_ne_true h
  | _ => rfl

/-- What is wrong with a property, its list read as a text, is that its text cannot be read. -/
theorem styleFault?_withStyleText {names : StyleCase} {tagName : String}
    {property : String × PropertyValue} {error : ConversionError}
    (h : styleFault? names tagName (withStyleText property) = some error) :
    ∃ text fault, styleText? property = some text ∧ Style.parse text names = .error fault ∧
      error = .style tagName fault := by
  obtain ⟨name, value⟩ := property
  have hread : ∀ text, styleFault? names tagName (name, .string text) = some error →
      Text.sameLetters name "style" ∧ ∃ fault, Style.parse text names = .error fault ∧
        error = .style tagName fault := by
    intro text htext
    rw [styleFault?] at htext
    split at htext
    · rename_i hname
      cases hparse : Style.parse text names with
      | ok declarations =>
        rw [hparse] at htext
        exact (Option.some_ne_none error htext.symm).elim
      | error fault =>
        rw [hparse] at htext
        exact ⟨hname, fault, rfl, (Option.some.inj htext).symm⟩
    · exact (Option.some_ne_none error htext.symm).elim
  cases value with
  | string text =>
    obtain ⟨hname, fault, hparse, herror⟩ := hread text h
    exact ⟨text, fault, if_pos hname, hparse, herror⟩
  | list items =>
    rw [withStyleText] at h
    split at h
    · obtain ⟨hname, fault, hparse, herror⟩ := hread _ h
      exact ⟨styleListText items, fault, if_pos hname, hparse, herror⟩
    · exact (Option.some_ne_none error h.symm).elim
  | _ => exact (Option.some_ne_none error h.symm).elim

namespace Node

mutual

/-- A tree with texts in the place of the lists among its styles. -/
def withStyleTexts : Node → Node
  | .root source children => .root source (allWithStyleTexts children)
  | .element source tagName properties children =>
    .element source tagName (properties.map withStyleText) (allWithStyleTexts children)
  | .text source value => .text source value
  | .comment source value => .comment source value
  | .doctype source => .doctype source
  | .esm source => .esm source
  | .expression placement source => .expression placement source
  | .component placement source name attributes children =>
    .component placement source name attributes (allWithStyleTexts children)
  | .unknown source kind fields => .unknown source kind fields
  | .malformed value => .malformed value
termination_by structural node => node

/-- Trees with texts in the place of the lists among their styles. -/
def allWithStyleTexts : List Node → List Node
  | [] => []
  | node :: rest => node.withStyleTexts :: allWithStyleTexts rest
termination_by structural nodes => nodes

end

mutual

/-- The texts that are read as styles in a tree, each with the name of its element. -/
def styleTexts : Node → List (String × String)
  | .root _ children => allStyleTexts children
  | .element _ tagName properties children =>
    allStyleTexts children ++ (properties.filterMap styleText?).map (tagName, ·)
  | .text _ _ => []
  | .comment _ _ => []
  | .doctype _ => []
  | .esm _ => []
  | .expression _ _ => []
  | .component _ _ _ _ children => allStyleTexts children
  | .unknown _ _ _ => []
  | .malformed _ => []
termination_by structural node => node

/-- The texts that are read as styles in trees one after the other. -/
def allStyleTexts : List Node → List (String × String)
  | [] => []
  | node :: rest => node.styleTexts ++ allStyleTexts rest
termination_by structural nodes => nodes

end

@[simp] theorem source_withStyleTexts (node : Node) : node.withStyleTexts.source = node.source := by
  cases node <;> rfl

@[simp] theorem isLineBreak_withStyleTexts (node : Node) :
    node.withStyleTexts.isLineBreak = node.isLineBreak := by
  cases node <;> rfl

@[simp] theorem isTableStructure_withStyleTexts (node : Node) :
    node.withStyleTexts.isTableStructure = node.isTableStructure := by
  cases node <;> rfl

@[simp] theorem children_withStyleTexts (node : Node) :
    node.withStyleTexts.children = allWithStyleTexts node.children := by
  cases node <;> rfl

@[simp] theorem beyondLimit_withStyleTexts (limit : Nat) (node : Node) :
    beyondLimit limit node.withStyleTexts = beyondLimit limit node := by
  cases node <;> rfl

mutual

/-- Nothing happens to scripts. -/
theorem scripts_withStyleTexts (node : Node) : node.withStyleTexts.scripts = node.scripts := by
  match node with
  | .root _ children => exact allScripts_allWithStyleTexts children
  | .element _ _ _ children => exact allScripts_allWithStyleTexts children
  | .component _ _ _ attributes children =>
    exact congrArg (· ++ attributes.filterMap ComponentAttribute.script?)
      (allScripts_allWithStyleTexts children)
  | .text _ _ | .comment _ _ | .doctype _ | .esm _ | .expression _ _ | .unknown _ _ _
  | .malformed _ => rfl
termination_by structural node

theorem allScripts_allWithStyleTexts (nodes : List Node) :
    allScripts (allWithStyleTexts nodes) = allScripts nodes := by
  match nodes with
  | [] => rfl
  | node :: rest =>
    rw [allWithStyleTexts, allScripts, allScripts, scripts_withStyleTexts node,
      allScripts_allWithStyleTexts rest]
termination_by structural nodes

end

mutual

/-- No style is a list any more. -/
theorem isListStyle_of_mem_withStyleTexts (node : Node) :
    ∀ property ∈ node.withStyleTexts.properties, isListStyle property = false := by
  match node with
  | .root _ children => exact isListStyle_of_mem_allWithStyleTexts children
  | .element _ _ own children =>
    rw [withStyleTexts, properties, List.forall_mem_append, List.forall_mem_map]
    exact ⟨fun property _ => isListStyle_withStyleText property,
      isListStyle_of_mem_allWithStyleTexts children⟩
  | .component _ _ _ _ children => exact isListStyle_of_mem_allWithStyleTexts children
  | .text _ _ | .comment _ _ | .doctype _ | .esm _ | .expression _ _ | .unknown _ _ _
  | .malformed _ => exact List.forall_mem_nil _
termination_by structural node

theorem isListStyle_of_mem_allWithStyleTexts (nodes : List Node) :
    ∀ property ∈ allProperties (allWithStyleTexts nodes), isListStyle property = false := by
  match nodes with
  | [] => exact List.forall_mem_nil _
  | node :: rest =>
    rw [allWithStyleTexts, allProperties, List.forall_mem_append]
    exact ⟨isListStyle_of_mem_withStyleTexts node, isListStyle_of_mem_allWithStyleTexts rest⟩
termination_by structural nodes

end

section Faults

variable (names : StyleCase) (limit : Nat) {tagName : String} {fault : Style.Fault}

/-- Being too deep is no fault of a style. -/
theorem mem_of_mem_unlessTooDeep {level : Nat} {faults : List ConversionError}
    (h : .style tagName fault ∈ unlessTooDeep limit level faults) :
    .style tagName fault ∈ faults := by
  rw [unlessTooDeep] at h
  split at h
  · exact nomatch List.mem_singleton.1 h
  · exact h

variable [Sorter]

mutual

/-- **A fault of a style is one of a text that is read as a style.** -/
theorem exists_text_of_mem_faults (space : Namespace) (level : Nat) (node : Node)
    (h : .style tagName fault ∈ node.withStyleTexts.faults names limit space level) :
    ∃ text, (tagName, text) ∈ node.styleTexts ∧ Style.parse text names = .error fault := by
  match node with
  | .root _ children =>
    exact exists_text_of_mem_allFaults space (level + 1) false children
      (mem_of_mem_unlessTooDeep limit h)
  | .component _ _ _ _ children =>
    rcases List.mem_append.1 (mem_of_mem_unlessTooDeep limit h) with h | h
    · exact exists_text_of_mem_allFaults _ (level + 1) false children h
    · obtain ⟨_, -, hfault⟩ := List.mem_filterMap.1 h
      exact nomatch (exists_script_of_scriptFault? hfault).1
  | .esm _ | .expression _ _ =>
    have hfault := Option.mem_toList.1 (mem_of_mem_unlessTooDeep limit h)
    exact nomatch (exists_script_of_scriptFault? hfault).1
  | .element _ tag own children =>
    rw [styleTexts]
    rcases List.mem_append.1 (mem_of_mem_unlessTooDeep limit h) with h | h
    · obtain ⟨text, hmem, hparse⟩ := exists_text_of_mem_allFaults _ (level + 1) _ children h
      exact ⟨text, List.mem_append_left _ hmem, hparse⟩
    · obtain ⟨_, hown, hfault⟩ := List.mem_filterMap.1 h
      obtain ⟨property, hproperty, rfl⟩ := List.mem_map.1 hown
      obtain ⟨text, other, htext, hparse, herror⟩ := styleFault?_withStyleText hfault
      obtain ⟨rfl, rfl⟩ := ConversionError.style.inj herror
      refine ⟨text, List.mem_append_right _ (List.mem_map_of_mem ?_), hparse⟩
      exact List.mem_filterMap.2 ⟨property, hproperty, htext⟩
  | .unknown _ _ _ => exact nomatch List.mem_singleton.1 (mem_of_mem_unlessTooDeep limit h)
  | .malformed _ => exact nomatch List.mem_singleton.1 h
  | .text _ _ | .comment _ _ | .doctype _ =>
    exact (List.not_mem_nil (mem_of_mem_unlessTooDeep limit h)).elim
termination_by structural node

theorem exists_text_of_mem_allFaults (space : Namespace) (level : Nat) (skipBreaks : Bool)
    (nodes : List Node)
    (h : .style tagName fault ∈
      allFaults names limit space level skipBreaks (allWithStyleTexts nodes)) :
    ∃ text, (tagName, text) ∈ allStyleTexts nodes ∧ Style.parse text names = .error fault := by
  match nodes with
  | [] => exact (List.not_mem_nil h).elim
  | node :: rest =>
    rw [allStyleTexts]
    rw [allWithStyleTexts, allFaults] at h
    rcases List.mem_append.1 h with h | h
    · split at h
      · exact (List.not_mem_nil h).elim
      · obtain ⟨text, hmem, hparse⟩ := exists_text_of_mem_faults space level node h
        exact ⟨text, List.mem_append_left _ hmem, hparse⟩
    · obtain ⟨text, hmem, hparse⟩ := exists_text_of_mem_allFaults space level skipBreaks rest h
      exact ⟨text, List.mem_append_right _ hmem, hparse⟩
termination_by structural nodes

end

end Faults
end Node

namespace Conversion

/-! ## The attribute of a style -/

/-- The attribute of a style without declarations. -/
def emptyStyle : Attribute :=
  .named (.identifier "style") (.container (.expression (.object []) {})) {}

/-- A style is the empty one only if it has no declarations. -/
theorem styleAttribute_eq_emptyStyle_iff {declarations : Entries String} :
    Attribute.named (.identifier "style")
      (.container (.expression (styleObject declarations) {})) {} = emptyStyle ↔
        declarations = [] := by
  constructor
  · intro h
    injection h with _ hvalue _
    injection hvalue with hcontainer
    injection hcontainer with hobject _
    injection hobject with hproperties
    exact List.map_eq_nil_iff.1 hproperties
  · rintro rfl
    rfl

section Attribute

variable (space : Namespace) (spelling : Spelling) (tagName : String) {name : String}
  (h : Text.sameLetters name "style")
include h

theorem attributeFor_number {value : Binary64} (hnan : value.isNan = false) :
    attributeFor space spelling tagName name (.number value) = .ok (some emptyStyle) := by
  have hmissing : (PropertyValue.number value).isMissing = false := hnan
  have hfalse : PropertyValue.number value ≠ .bool false := nofun
  have hlist : ∀ items, PropertyValue.number value ≠ .list items := fun _ => nofun
  exact attributeFor_style h hmissing hfalse hlist rfl

theorem attributeFor_true :
    attributeFor space spelling tagName name (.bool true) = .ok (some emptyStyle) := by
  have hfalse : PropertyValue.bool true ≠ .bool false := nofun
  have hlist : ∀ items, PropertyValue.bool true ≠ .list items := fun _ => nofun
  exact attributeFor_style h rfl hfalse hlist rfl

/-- What stands for a list is what its text is read as. -/
theorem attributeFor_list (items : List Primitive) :
    attributeFor space spelling tagName name (.list items) =
      (declarationsOf spelling.styles tagName (.string (styleListText items))).map
        fun declarations => some (.named (.identifier "style")
          (.container (.expression (styleObject declarations) {})) {}) := by
  have hflat : flatten (Vocabulary.styleRow space) (.list items) =
      .string (styleListText items) := by
    cases space <;> rfl
  have hmissing : (PropertyValue.list items).isMissing = false := rfl
  rw [attributeFor_of_sameLetters h hmissing nofun, hflat]

theorem attributeFor_list_eq_emptyStyle_iff (items : List Primitive) :
    attributeFor space spelling tagName name (.list items) = .ok (some emptyStyle) ↔
      Style.parse (styleListText items) spelling.styles = .ok [] := by
  rw [attributeFor_list space spelling tagName h, declarationsOf]
  cases Style.parse (styleListText items) spelling.styles with
  | error fault =>
    refine iff_of_false (fun h => ?_) fun h => ?_
    · cases h
    · cases h
  | ok declarations =>
    constructor
    · intro hempty
      have hstyle := Option.some.inj (Except.ok.inj hempty)
      rw [styleAttribute_eq_emptyStyle_iff.1 hstyle]
    · intro hnone
      exact congrArg (fun item => Except.ok (some item))
        (styleAttribute_eq_emptyStyle_iff.2 (Except.ok.inj hnone))

theorem attributeFor_list_eq_error_iff (items : List Primitive) (error : ConversionError) :
    attributeFor space spelling tagName name (.list items) = .error error ↔
      ∃ fault, Style.parse (styleListText items) spelling.styles = .error fault ∧
        error = .style tagName fault := by
  rw [attributeFor_list space spelling tagName h, declarationsOf]
  cases Style.parse (styleListText items) spelling.styles with
  | ok declarations =>
    refine iff_of_false (fun h => ?_) fun h => ?_
    · cases h
    · obtain ⟨fault, hfault, -⟩ := h
      cases hfault
  | error fault =>
    constructor
    · intro herror
      exact ⟨fault, rfl, (Except.error.inj herror).symm⟩
    · rintro ⟨other, hother, rfl⟩
      rw [Except.error.inj hother]
      rfl

end Attribute

/-! ## Trees with texts in the place of lists -/

theorem attributeFor_withStyleText (space : Namespace) (spelling : Spelling) (tagName : String)
    (property : String × PropertyValue) :
    attributeFor space spelling tagName (withStyleText property).1 (withStyleText property).2 =
      attributeFor space spelling tagName property.1 property.2 := by
  obtain ⟨name, value⟩ := property
  cases value with
  | list items =>
    rw [withStyleText]
    split
    · rename_i h
      have hmissing : (PropertyValue.string (styleListText items)).isMissing = false := rfl
      rw [attributeFor_list space spelling tagName h]
      exact attributeFor_of_sameLetters h hmissing nofun
    · rfl
  | _ => rfl

/-- The attributes of an element do not tell a list from its text. -/
theorem attributesOf_withStyleText (space : Namespace) (spelling : Spelling) (tagName : String)
    (properties : Entries PropertyValue) :
    attributesOf space spelling tagName (properties.map withStyleText) =
      attributesOf space spelling tagName properties := by
  induction properties with
  | nil => rfl
  | cons property rest ih =>
    rw [List.map_cons, attributesOf_cons, attributesOf_cons, ih, attributeFor_withStyleText]

section Rules

variable {convert : Node → Conversion Converted}
  (h : ∀ node : Node, convert node.withStyleTexts = convert node)
include h

theorem convertNodes_allWithStyleTexts (skipBreaks : Bool) (nodes : List Node) :
    convertNodes convert skipBreaks (Node.allWithStyleTexts nodes) =
      convertNodes convert skipBreaks nodes := by
  induction nodes with
  | nil => rfl
  | cons node rest ih =>
    rw [Node.allWithStyleTexts, convertNodes, convertNodes, Node.isLineBreak_withStyleTexts, h, ih]

theorem convertChildren_withStyleTexts (node : Node) :
    convertChildren convert node.withStyleTexts = convertChildren convert node := by
  simp only [convertChildren, Node.isTableStructure_withStyleTexts, Node.children_withStyleTexts,
    convertNodes_allWithStyleTexts h]

theorem convertByKind_withStyleTexts [Sorter] (node : Node) :
    convertByKind convert node.withStyleTexts = convertByKind convert node := by
  have hchildren := convertChildren_withStyleTexts h node
  cases node with
  | root source children =>
    rw [Node.withStyleTexts] at hchildren ⊢
    rw [convertByKind, convertByKind, hchildren]
  | element source tagName properties children =>
    rw [Node.withStyleTexts] at hchildren ⊢
    simp only [convertByKind, convertElement, hchildren, attributesOf_withStyleText]
  | component placement source name attributes children =>
    rw [Node.withStyleTexts] at hchildren ⊢
    simp only [convertByKind, convertComponent, hchildren]
  | _ => rfl

end Rules

theorem convert_withStyleTexts [Sorter] (limit levels : Nat) (node : Node) :
    convert (fun _ => none) limit levels node.withStyleTexts =
      convert (fun _ => none) limit levels node := by
  induction levels generalizing node with
  | zero => rw [convert_zero, convert_zero, Node.beyondLimit_withStyleTexts]
  | succ levels ih =>
    simp only [convert_succ, convertWith_none, convertByKind_withStyleTexts ih,
      Node.beyondLimit_withStyleTexts]

end Conversion

/-! ## The whole program -/

/-- **No conversion tells a list from its text.** -/
theorem toProgram_withStyleTexts [Sorter] (space : Namespace) (spelling : Spelling) (maxDepth : Nat)
    (tree : Node) :
    toProgram { space, spelling, maxDepth } tree.withStyleTexts =
      toProgram { space, spelling, maxDepth } tree := by
  have hconvert : Options.convertNode { space, spelling, maxDepth } tree.withStyleTexts =
      Options.convertNode { space, spelling, maxDepth } tree := by
    funext state
    exact congrFun (Conversion.convert_withStyleTexts maxDepth (maxDepth - state.depth) tree) state
  rw [toProgram_eq, toProgram_eq, hconvert, Node.source_withStyleTexts]

/-- What is reported of a tree is what is wrong with it once its lists are read as texts. -/
theorem reports_withStyleTexts [Sorter] (space : Namespace) (spelling : Spelling) (maxDepth : Nat)
    (tree : Node) :
    Reports (tree.withStyleTexts.faults spelling.styles maxDepth space 0)
      (toProgram { space, spelling, maxDepth } tree) := by
  rw [← toProgram_withStyleTexts]
  exact reports_toProgram space spelling maxDepth tree.withStyleTexts
    tree.isListStyle_of_mem_withStyleTexts

/-- The first fault of a tree, its lists read as texts, is the error. -/
theorem toProgram_eq_error [Sorter] {space : Namespace} {spelling : Spelling} {maxDepth : Nat}
    {tree : Node} {error : ConversionError}
    (h : (tree.withStyleTexts.faults spelling.styles maxDepth space 0).head? = some error) :
    toProgram { space, spelling, maxDepth } tree = .error error :=
  (reports_withStyleTexts space spelling maxDepth tree).eq_error h

/-- An error in a style is one of a text that is read as a style. -/
theorem exists_text_of_toProgram [Sorter] {space : Namespace} {spelling : Spelling} {maxDepth : Nat}
    {tree : Node} {tagName : String} {fault : Style.Fault}
    (h : toProgram { space, spelling, maxDepth } tree = .error (.style tagName fault)) :
    ∃ text, (tagName, text) ∈ tree.styleTexts ∧
      Style.parse text spelling.styles = .error fault := by
  have hreports := reports_withStyleTexts space spelling maxDepth tree
  rw [h] at hreports
  exact Node.exists_text_of_mem_faults spelling.styles maxDepth space 0 tree
    (List.mem_of_head? hreports)

/-- A sort gives up only on the comments of a script in the tree. -/
theorem exists_script_of_toProgram [Sorter] {space : Namespace} {spelling : Spelling}
    {maxDepth : Nat} {tree : Node}
    (h : toProgram { space, spelling, maxDepth } tree = .error .unsorted) :
    ∃ script ∈ tree.scripts, script.attach = none := by
  have hreports := reports_withStyleTexts space spelling maxDepth tree
  rw [h] at hreports
  rw [← Node.scripts_withStyleTexts]
  exact Node.exists_script_of_unsorted spelling.styles maxDepth space 0 tree.withStyleTexts
    (List.mem_of_head? hreports)

/-- **A list is read as a text, and an error in a style is one of a text.**  So it can come from a
list, and a list can have declarations, while a number and `true` have none. -/
theorem toProgram_reads_style_texts [Sorter] (space : Namespace) (spelling : Spelling)
    (maxDepth : Nat) (tree : Node) :
    (∀ tagName fault,
      toProgram { space, spelling, maxDepth } tree = .error (.style tagName fault) →
        ∃ text, (tagName, text) ∈ tree.styleTexts ∧
          Style.parse text spelling.styles = .error fault) ∧
    ∀ name tagName, (Vocabulary.find space name).writtenName spelling.attributes = "style" →
      let written (value : PropertyValue) :=
        Conversion.attributeFor space spelling tagName name value
      (∀ value : Binary64, value.isNan = false →
        written (.number value) = .ok (some Conversion.emptyStyle)) ∧
      written (.bool true) = .ok (some Conversion.emptyStyle) ∧
      ∀ items,
        (written (.list items) = .ok (some Conversion.emptyStyle) ↔
          Style.parse (styleListText items) spelling.styles = .ok []) ∧
        ∀ error, written (.list items) = .error error ↔
          ∃ fault, Style.parse (styleListText items) spelling.styles = .error fault ∧
            error = .style tagName fault := by
  refine ⟨fun _ _ => exists_text_of_toProgram, ?_⟩
  intro name tagName hstyle written
  have hname := (Vocabulary.writtenName_find_eq_style_iff space spelling.attributes name).1 hstyle
  refine ⟨fun _ => Conversion.attributeFor_number space spelling tagName hname,
    Conversion.attributeFor_true space spelling tagName hname, fun items => ⟨?_, ?_⟩⟩
  · exact Conversion.attributeFor_list_eq_emptyStyle_iff space spelling tagName hname items
  · exact Conversion.attributeFor_list_eq_error_iff space spelling tagName hname items

open scoped Sorting.Insertion in
/-- Under a name in capitals, `true` has no declarations, while the list has the one of its text. -/
theorem toProgram_reads_style_texts_capitals :
    (Vocabulary.find .svg "STYLE").writtenName .html = "style" ∧
    Conversion.attributeFor .svg { attributes := .html } "b" "STYLE" (.bool true) =
      .ok (some Conversion.emptyStyle) ∧
    Conversion.attributeFor .svg { attributes := .html } "b" "STYLE"
      (.list [.string "color:red"]) ≠ .ok (some Conversion.emptyStyle) := by
  have hstyle : (Vocabulary.find .svg "STYLE").writtenName .html = "style" := by
    rw [Vocabulary.writtenName_find_eq_style_iff]
    decide
  have hparse : Style.parse "color:red" .dom ≠ .ok [] := by decide +kernel
  obtain ⟨-, htrue, hlist⟩ :=
    (toProgram_reads_style_texts .svg { attributes := .html } 512 (.root {} [])).2
      "STYLE" "b" hstyle
  refine ⟨hstyle, htrue, fun hempty => hparse ?_⟩
  have htext : styleListText [.string "color:red"] = "color:red" := by decide
  have hread := (hlist [.string "color:red"]).1.1 hempty
  rwa [htext] at hread

/-- An element with a list as its style, and no text. -/
def listStyled : Node :=
  .element {} "b" [("style", .list [.string "x"])] []

open scoped Sorting.Insertion in
/-- There is no colon in the only item of the list. -/
theorem toProgram_listStyle_fails :
    toProgram {} listStyled = .error (.style "b" ⟨.missingColon, ⟨1, 2⟩⟩) := by
  have hparse : Style.parse "x" .dom = .error ⟨.missingColon, ⟨1, 2⟩⟩ := by decide +kernel
  have htext : withStyleText ("style", .list [.string "x"]) = ("style", .string "x") := by rfl
  have hfault : styleFault? .dom "b" ("style", .string "x") =
      some (.style "b" ⟨.missingColon, ⟨1, 2⟩⟩) := by
    rw [styleFault?, if_pos (by decide), hparse]
  refine toProgram_eq_error ?_
  show ([withStyleText ("style", .list [.string "x"])].filterMap (styleFault? .dom "b")).head? = _
  rw [htext, List.filterMap_cons, hfault]
  rfl

end MarkupJsx
