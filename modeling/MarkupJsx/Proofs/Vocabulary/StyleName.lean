import MarkupJsx.Proofs.Vocabulary.WrittenNames

/-!
# Which properties are written as `style`

Whether a property is the inline style of an element is decided by the name under which it is
written, behind a lookup in one of two tables.  In the end only its own name matters: a property is
written as `style` exactly if its name is `style` up to the case of its letters
(`writtenName_find_eq_style_iff`), in both vocabularies and in both fashions.

Up to case means up to the case of ASCII letters here, since the one character beyond ASCII that is
looked up as a letter is a `k`.  What is written as `style` is found again as what it is, and what
is found under `style` is the row of the style.  A property without a row is written as itself or as
a data attribute.
-/

namespace MarkupJsx
namespace Vocabulary

/-- The row of the inline style. -/
def styleRow : Namespace → PropertyInfo
  | .html => ⟨"style", "style", some .html, []⟩
  | .svg => ⟨"style", "style", some .svg, []⟩

theorem styleRow_mem_rows (space : Namespace) : styleRow space ∈ rows space := by
  cases space <;> decide +kernel

theorem fold_eq_style_iff (name : String) :
    fold name = fold "style" ↔ Text.sameLetters name "style" :=
  fold_eq_fold_iff (by decide) (by decide) name

/-- **A name that is `style` up to case is found.** -/
theorem find_of_sameLetters_style {name : String} (h : Text.sameLetters name "style")
    (space : Namespace) : find space name = styleRow space := by
  have hname : fold name = fold (styleRow space).propertyName := by
    cases space <;> exact (fold_eq_style_iff name).2 h
  rw [find, row?_of_listed (styleRow_mem_rows space) List.mem_cons_self hname, Option.getD_some]

/-- No data attribute is a style. -/
theorem eq_style_of_unlisted {name : String} (h : (unlisted name).attributeName = "style") :
    name = "style" := by
  rcases attributeName_unlisted name with hname | ⟨rest, hdata, -⟩
  · exact hname.symm.trans h
  · have hletters := congrArg String.toList (hdata.symm.trans h)
    rw [String.toList_ofList] at hletters
    exact absurd (List.cons.inj hletters).1 (by decide)

/-- **A property is written as `style` exactly if that is its name,** up to the case of its
letters. -/
theorem writtenName_find_eq_style_iff (space : Namespace) (names : AttributeCase)
    (name : String) :
    (find space name).writtenName names = "style" ↔ Text.sameLetters name "style" := by
  constructor
  · intro h
    cases hrow : row? space name with
    | some info =>
      obtain ⟨hmem, listed, hlisted, hname⟩ := exists_listed_of_row? hrow
      rw [find, hrow, Option.getD_some] at h
      have hstyle : styleRow space = info := by
        rw [← find_of_sameLetters_style (by decide : Text.sameLetters "style" "style"), ← h]
        exact find_writtenName hmem names
      have hsame : listed = "style" := by
        rw [← hstyle] at hlisted
        cases space <;> exact (List.mem_pair.1 hlisted).elim id id
      rw [← fold_eq_style_iff, hname, hsame]
    | none =>
      rw [find, hrow, Option.getD_none, PropertyInfo.writtenName_of_space_none
        (space_unlisted name)] at h
      rw [eq_style_of_unlisted h]
      decide
  · intro h
    rw [find_of_sameLetters_style h]
    cases space <;> cases names <;> decide

end Vocabulary
end MarkupJsx
