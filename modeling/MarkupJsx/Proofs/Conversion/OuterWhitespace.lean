import MarkupJsx.Conversion.Nodes
import MarkupJsx.Proofs.Text.Trimming
import MarkupJsx.Script.InsertionSort

/-!
# The whitespace around the children of a root

A document starts and ends with blank lines that mean nothing, and what is between its parts may
mean something.  So a root drops the whitespace in front of the first of the others of its children
and behind the last of them, and no other.  It does so in one pass over the children, with a queue
for whitespace of which it is not known yet whether anything follows; that the pass is the same as
trimming is `Conversion.dropOuterLayout_none`.

What counts are the children that the root gets, wherever they come from: an override may give
several children for one node, and among them texts and JSON values of its own.  `IsWhitespace` says
which of all these are whitespace.  The main statement is `root_drops_outer_whitespace`.
-/

namespace MarkupJsx
open Jsx

/-- Whether a child is whitespace: an expression that is a text of spaces, tabs, line feeds, form
feeds and carriage returns alone. -/
inductive IsWhitespace : Child → Prop
  | text {value : String} (inner outer : Origin)
      (h : ∀ c ∈ value.toList, c ∈ [' ', '\t', '\n', '\x0c', '\r']) :
      IsWhitespace (.container (.expression (.literal ⟨.string value, inner⟩) outer))

theorem isLayout_char_iff {c : Char} :
    Jsx.isLayout c ↔ c ∈ [' ', '\t', '\n', '\x0c', '\r'] := by
  simp [Jsx.isLayout, or_assoc]

/-- The test for whitespace finds all of it, and nothing else. -/
theorem isLayout_iff {child : Child} : child.isLayout ↔ IsWhitespace child := by
  constructor
  · intro h
    unfold Child.isLayout at h
    split at h
    · exact .text _ _ fun c hc => isLayout_char_iff.1 (List.all_eq_true.1 h c hc)
    · cases h
  · rintro ⟨inner, outer, h⟩
    exact List.all_eq_true.2 fun c hc => isLayout_char_iff.2 (h c hc)

theorem isLayout_eq_false_iff {child : Child} : child.isLayout = false ↔ ¬IsWhitespace child := by
  rw [← isLayout_iff, Bool.not_eq_true]

namespace Conversion

/-- What a root becomes when its children are converted. -/
theorem run_root [Sorter] {convert : Node → Conversion Converted} {source : Source}
    {children : List Node} {state after : State} {inside : List Child}
    (h : (convertChildren convert (.root source children)).run state = (.ok inside, after)) :
    (convertByKind convert (.root source children)).run state =
      (.ok (.one (.markup (.fragment [] false (Text.trimBy Child.isLayout inside) source.origin))),
        after) := by
  rw [convertByKind, run_bind, h, ← dropOuterLayout_none]
  rfl

/-- **A root drops the whitespace at its two ends, and nothing else.**  Whatever the overrides are,
let the children of a root become a list of children.  Then the root becomes a fragment of a middle
part of that list.  What stands in front of that part and behind it is whitespace, and the part
itself neither starts nor ends with whitespace, so these are the longest such ends; and it is empty
if all of the list is whitespace.  What stands between two others, whitespace too, is in the part,
once and with the same children around it. -/
theorem root_drops_outer_whitespace [Sorter] (overrides : String → Option Override) (limit : Nat)
    (source : Source) (children : List Node) (state after : State) (inside : List Child)
    (h : (convertChildren (convertNode overrides limit) (.root source children)).run state =
      (.ok inside, after)) :
    ∃ left kept right,
      (convertByKind (convertNode overrides limit) (.root source children)).run state =
        (.ok (.one (.markup (.fragment [] false kept source.origin))), after) ∧
      inside = left ++ (kept ++ right) ∧
      (∀ child ∈ left, IsWhitespace child) ∧ (∀ child ∈ right, IsWhitespace child) ∧
      (∀ child ∈ kept.head?, ¬IsWhitespace child) ∧
      (∀ child ∈ kept.getLast?, ¬IsWhitespace child) ∧
      ((∀ child ∈ inside, IsWhitespace child) → kept = []) ∧
      ∀ before child behind, inside = before ++ child :: behind →
        (∃ other ∈ before, ¬IsWhitespace other) → (∃ other ∈ behind, ¬IsWhitespace other) →
        ∃ before' behind', before = left ++ before' ∧ behind = behind' ++ right ∧
          kept = before' ++ child :: behind' := by
  obtain ⟨left, right, hsplit, hleft, hright, hfirst, hlast⟩ :=
    Text.trims_trimBy Child.isLayout inside
  refine ⟨left, Text.trimBy Child.isLayout inside, right, run_root h, hsplit,
    fun child hchild => isLayout_iff.1 (hleft child hchild),
    fun child hchild => isLayout_iff.1 (hright child hchild),
    fun child hchild => isLayout_eq_false_iff.1 (hfirst child hchild),
    fun child hchild => isLayout_eq_false_iff.1 (hlast child hchild),
    fun hall => Text.trimBy_eq_nil fun child hchild => isLayout_iff.2 (hall child hchild), ?_⟩
  rintro before child behind hplace ⟨first, hfirstMem, hfirst⟩ ⟨last, hlastMem, hlast⟩
  exact Text.exists_of_between (hplace.symm.trans hsplit) hleft hright
    ⟨first, hfirstMem, isLayout_eq_false_iff.2 hfirst⟩
    ⟨last, hlastMem, isLayout_eq_false_iff.2 hlast⟩

/-- A child that is a text. -/
def textChild (value : String) : Child :=
  .container (.expression (.literal (.string value)) {})

/-- Notes become blanks around a JSON value, which is no whitespace even if it is a blank. -/
def blankNotes (kind : String) : Option Override :=
  if kind = "note" then
    some fun _ => .done (.many [textChild " ", .foreign (.string " "), textChild " "])
  else none

/-- A root with a line feed, a note, a tab, a comment and a blank. -/
def notedChildren : List Node :=
  [.text {} (some "\n"), .unknown {} "note" [], .text {} (some "\t"), .comment {} "c",
    .text {} (some " ")]

open scoped Sorting.Insertion in
theorem root_drops_outer_whitespace_notes :
    let note : Child := .foreign (.string " ")
    let comment : Child := .container (commentContainer {} "c")
    let kept := [note, textChild " ", textChild "\t", comment]
    let after : State := { comments := [commentOf {} "c"] }
    (convertChildren (convertNode blankNotes 2) (.root {} notedChildren)).run {} =
        (.ok (textChild "\n" :: textChild " " :: (kept ++ [textChild " "])), after) ∧
      (convertByKind (convertNode blankNotes 2) (.root {} notedChildren)).run {} =
        (.ok (.one (.markup (.fragment [] false kept {}))), after) ∧
      (∀ child ∈ kept.head?, ¬IsWhitespace child) ∧
      ∀ child ∈ kept.getLast?, ¬IsWhitespace child := by
  intro note comment kept after
  have hinside : (convertChildren (convertNode blankNotes 2) (.root {} notedChildren)).run {} =
      (.ok (textChild "\n" :: textChild " " :: (kept ++ [textChild " "])), after) := rfl
  have hresult : (convertByKind (convertNode blankNotes 2) (.root {} notedChildren)).run {} =
      (.ok (.one (.markup (.fragment [] false kept {}))), after) := rfl
  obtain ⟨left, others, right, hrun, -, -, -, hfirst, hlast, -⟩ :=
    root_drops_outer_whitespace blankNotes 2 {} notedChildren {} after _ hinside
  obtain rfl : kept = others := by
    have hsame := hresult.symm.trans hrun
    simp only [Prod.mk.injEq, Except.ok.injEq, Converted.one.injEq, Child.markup.injEq,
      Markup.fragment.injEq] at hsame
    exact hsame.1.2.2.1
  exact ⟨hinside, hresult, hfirst, hlast⟩

end Conversion
end MarkupJsx
