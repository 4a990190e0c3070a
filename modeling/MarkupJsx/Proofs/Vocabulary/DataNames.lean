import MarkupJsx.Proofs.Style.Fashions
import MarkupJsx.Proofs.Vocabulary.Rows

/-!
# Data attributes and their properties

An attribute `data-foo-bar` is found as the property `dataFooBar`, and the attribute is found again
under the property.  The two directions are separate rewritings: small letters behind hyphens become
capitals, and capitals become small letters behind hyphens.  The attributes here are those without
capitals, which are the ones that markup can have, and with a character other than a hyphen behind
`data-`, since the first character of the rest is a capital in the property, and a hyphen has none.

The property is looked up in the tables first, and the table of SVG has a property `dataType`, whose
attribute is `datatype`.  So there the attribute `data-type` does not come back, nor does any other
one whose property is `dataType` up to case (`find_dataType_svg`).  **All others do**
(`find_property_of_dataAttribute`).
-/

namespace MarkupJsx

namespace Text

theorem isLower_eq_false {c : Char} (h : c.isUpper) : c.isLower = false := by
  have hupper := toNat_of_isUpper h
  have hlower : ¬(97 ≤ c.toNat ∧ c.toNat ≤ 122) := by omega
  delta Char.isLower
  simpa [UInt32.le_iff_toNat_le, ← Char.toNat_val] using hlower

theorem toUpper_of_not_isLower {c : Char} (h : ¬c.isLower) : c.toUpper = c := by
  delta Char.toUpper
  rw [dif_neg]
  rintro ⟨hle, hge⟩
  exact h (Bool.and_eq_true_iff.2 ⟨decide_eq_true hle, decide_eq_true hge⟩)

theorem toUpper_ne_hyphen {c : Char} (h : c.isLower) : c.toUpper ≠ '-' := by
  intro heq
  have hupper := (toLower_toUpper h).1
  rw [heq] at hupper
  exact absurd hupper (by decide)

theorem hasHyphenedLetter_cons {c : Char} {rest : List Char}
    (h : c = '-' → ∀ next ∈ rest.head?, next.isLower = false) :
    hasHyphenedLetter (c :: rest) = hasHyphenedLetter rest := by
  cases rest with
  | nil => rfl
  | cons next rest =>
    rw [hasHyphenedLetter, Bool.or_eq_right_iff_imp, Bool.and_eq_true, beq_iff_eq]
    rintro ⟨hc, hnext⟩
    exact absurd hnext (ne_true_of_eq_false (h hc next rfl))

/-- A small letter at the front was there before hyphens were joined. -/
theorem head?_of_joinHyphens {text : List Char} {c : Char} (h : (joinHyphens text).head? = some c)
    (hc : c.isLower) : text.head? = some c := by
  fun_cases joinHyphens text with
  | case1 => exact h
  | case2 other => exact h
  | case3 other next rest hjoined =>
    rw [joinHyphens, if_pos hjoined] at h
    obtain rfl := Option.some.inj h
    exact absurd hc (ne_true_of_eq_false (isLower_eq_false (toLower_toUpper hjoined.2).1))
  | case4 other next rest hother =>
    rw [joinHyphens, if_neg hother] at h
    exact h

/-- No hyphen stands before a small letter once they are joined. -/
theorem hasHyphenedLetter_joinHyphens (text : List Char) :
    hasHyphenedLetter (joinHyphens text) = false := by
  fun_induction joinHyphens text with
  | case1 => rfl
  | case2 c => rfl
  | case3 c next rest hc ih =>
    rw [hasHyphenedLetter_cons fun heq => absurd heq (toUpper_ne_hyphen hc.2), ih]
  | case4 c next rest hc ih =>
    rw [hasHyphenedLetter_cons, ih]
    intro hhyphen other hother
    by_contra hlower
    obtain rfl := Option.some.inj (head?_of_joinHyphens hother (eq_true_of_ne_false hlower))
    exact hc ⟨hhyphen, eq_true_of_ne_false hlower⟩

end Text

namespace Vocabulary
namespace Dataset

/-- What follows `data` in a data name, and what comes before. -/
theorem rest?_eq_some_iff {name rest : List Char} :
    rest? name = some rest ↔
      ∃ front, name = front ++ rest ∧ front.map Char.toLower = ['d', 'a', 't', 'a'] ∧
        rest ≠ [] ∧ rest.all isNameChar := by
  constructor
  · intro h
    unfold rest? at h
    split at h
    · rename_i d a t e c tail
      split at h
      · rename_i hdata
        obtain rfl := Option.some.inj h
        exact ⟨[d, a, t, e], rfl, hdata.1, List.cons_ne_nil _ _, hdata.2⟩
      · exact nomatch h
    · exact nomatch h
  · rintro ⟨front, rfl, hfront, hrest, hall⟩
    obtain ⟨d, others, rfl, -, hothers⟩ := List.map_eq_cons_iff.1 hfront
    obtain ⟨a, others, rfl, -, hothers⟩ := List.map_eq_cons_iff.1 hothers
    obtain ⟨t, others, rfl, -, hothers⟩ := List.map_eq_cons_iff.1 hothers
    obtain ⟨e, others, rfl, -, hothers⟩ := List.map_eq_cons_iff.1 hothers
    obtain rfl := List.map_eq_nil_iff.1 hothers
    obtain ⟨c, tail, rfl⟩ := List.exists_cons_of_ne_nil hrest
    exact if_pos ⟨hfront, hall⟩

/-! ## From the attribute to the property -/

theorem isNameChar_toUpper {c : Char} (h : isNameChar c) : isNameChar c.toUpper := by
  by_cases hlower : c.isLower
  · have hupper := (Text.toLower_toUpper hlower).1
    have halpha : c.toUpper.isAlphanum := by
      show (c.toUpper.isUpper || c.toUpper.isLower || c.toUpper.isDigit) = true
      rw [hupper]
      rfl
    simp [isNameChar, halpha]
  · rwa [Text.toUpper_of_not_isLower hlower]

theorem all_isNameChar_joinHyphens {text : List Char} (h : text.all isNameChar) :
    (Text.joinHyphens text).all isNameChar := by
  fun_induction Text.joinHyphens text with
  | case1 => rfl
  | case2 c => exact h
  | case3 c next rest hc ih =>
    simp only [List.all_cons, Bool.and_eq_true] at h ⊢
    exact ⟨isNameChar_toUpper h.2.1, ih h.2.2⟩
  | case4 c next rest hc ih =>
    rw [List.all_cons, Bool.and_eq_true] at h ⊢
    exact ⟨h.1, ih h.2⟩

theorem capitalize_joinHyphens_ne_nil {text : List Char} (h : text ≠ []) :
    capitalize (Text.joinHyphens text) ≠ [] := by
  fun_cases Text.joinHyphens text with
  | case1 => exact absurd rfl h
  | case2 | case3 | case4 => exact List.cons_ne_nil _ _

/-- A data attribute keeps its name, and the hyphens behind `data-` are joined in the property. -/
theorem names?_attribute {rest : List Char} (h : rest.all isNameChar) :
    names? (['d', 'a', 't', 'a'] ++ '-' :: rest) =
      some (['d', 'a', 't', 'a'] ++ capitalize (Text.joinHyphens rest),
        ['d', 'a', 't', 'a'] ++ '-' :: rest) := by
  have hrest : rest? (['d', 'a', 't', 'a'] ++ '-' :: rest) = some ('-' :: rest) := by
    refine rest?_eq_some_iff.2 ⟨_, rfl, by decide, List.cons_ne_nil _ _, ?_⟩
    rw [List.all_cons, h]
    decide
  rw [names?, hrest]
  rfl

/-! ## From the property to the attribute -/

/-- The capitals of the property are those of joined hyphens, and the one at its front. -/
theorem hyphenate_splitCapitals {c : Char} {rest : List Char} (hc : c ≠ '-')
    (hsmall : ∀ other ∈ c :: rest, other.isUpper = false) :
    hyphenate (Text.splitCapitals (c.toUpper :: Text.joinHyphens rest)) = '-' :: c :: rest := by
  have hback : Text.splitCapitals (Text.joinHyphens rest) = rest :=
    Text.splitCapitals_joinHyphens fun other hother => hsmall other (List.mem_cons_of_mem _ hother)
  by_cases hlower : c.isLower
  · obtain ⟨hupper, hagain⟩ := Text.toLower_toUpper hlower
    rw [Text.splitCapitals, if_pos hupper, hagain, hback]
    rfl
  · have hupper : ¬c.isUpper := ne_true_of_eq_false (hsmall c List.mem_cons_self)
    rw [Text.toUpper_of_not_isLower hlower, Text.splitCapitals, if_neg hupper, hback, hyphenate,
      List.head?_cons, if_neg fun heq => hc (Option.some.inj heq)]

/-- **The attribute comes back from the property.** -/
theorem names?_property {rest : List Char} (hne : rest ≠ []) (hhead : rest.head? ≠ some '-')
    (h : rest.all isNameChar) (hsmall : ∀ c ∈ rest, c.isUpper = false) :
    names? (['d', 'a', 't', 'a'] ++ capitalize (Text.joinHyphens rest)) =
      some (['d', 'a', 't', 'a'] ++ capitalize (Text.joinHyphens rest),
        ['d', 'a', 't', 'a'] ++ '-' :: rest) := by
  obtain ⟨c, tail, rfl⟩ := List.exists_cons_of_ne_nil hne
  have hc : c ≠ '-' := fun heq => hhead (congrArg some heq)
  have hupper : c.toUpper ≠ '-' := by
    by_cases hlower : c.isLower
    · exact Text.toUpper_ne_hyphen hlower
    · rwa [Text.toUpper_of_not_isLower hlower]
  rw [List.all_cons, Bool.and_eq_true] at h
  have hall : (c.toUpper :: Text.joinHyphens tail).all isNameChar := by
    rw [List.all_cons, Bool.and_eq_true]
    exact ⟨isNameChar_toUpper h.1, all_isNameChar_joinHyphens h.2⟩
  have hletter : Text.hasHyphenedLetter (c.toUpper :: Text.joinHyphens tail) = false := by
    rw [Text.hasHyphenedLetter_cons fun heq => absurd heq hupper,
      Text.hasHyphenedLetter_joinHyphens]
  rw [Text.joinHyphens_other hc, capitalize, names?,
    rest?_eq_some_iff.2 ⟨_, rfl, by decide, List.cons_ne_nil _ _, hall⟩]
  split
  · rename_i heq
    exact (Option.some_ne_none _ heq).elim
  · rename_i heq
    exact absurd (List.cons.inj (Option.some.inj heq)).1 hupper
  · rename_i other _ heq
    obtain rfl := Option.some.inj heq
    rw [hletter, hyphenate_splitCapitals hc hsmall]
    rfl

end Dataset

/-! ## Looking data names up -/

/-- What starts with `data` does so in its folded form. -/
theorem fold_data (rest : List Char) :
    fold (String.ofList (['d', 'a', 't', 'a'] ++ rest)) =
      ['d', 'a', 't', 'a'] ++ rest.map foldChar := by
  rw [fold, String.toList_ofList, List.map_append]
  congr 1

/-- What follows `data` in the name of the row. -/
theorem fold_dataRow (space : Namespace) :
    fold (dataRow space).attributeName =
      ['d', 'a', 't', 'a'] ++ if space = .svg then ['t', 'y', 'p', 'e'] else [] := by
  cases space <;> decide

/-- No data attribute is listed. -/
theorem row?_attribute (space : Namespace) (rest : List Char) :
    row? space (String.ofList (['d', 'a', 't', 'a'] ++ '-' :: rest)) = none := by
  have hhyphen : foldChar '-' = '-' := by decide
  rw [row?_of_data (fold_data ('-' :: rest)), fold_data, fold_dataRow, List.map_cons, hhyphen,
    if_neg]
  intro heq
  have htail := List.append_cancel_left heq
  cases space with
  | html => exact nomatch htail
  | svg => exact absurd (List.cons.inj htail).1 (by decide)

/-- A property that starts with `data` and goes on is not listed, unless it is `dataType` in SVG. -/
theorem row?_property {space : Namespace} {rest : List Char} (hne : rest ≠ []) :
    row? space (String.ofList (['d', 'a', 't', 'a'] ++ rest)) =
      if space = .svg ∧
        Text.sameLetters (String.ofList (['d', 'a', 't', 'a'] ++ rest)) "dataType" then
        some (dataRow .svg)
      else none := by
  rw [row?_of_data (fold_data rest)]
  cases space with
  | html =>
    have hlong : fold (String.ofList (['d', 'a', 't', 'a'] ++ rest)) ≠
        fold (dataRow .html).attributeName := by
      rw [fold_data, fold_dataRow]
      exact fun heq => hne (List.map_eq_nil_iff.1 (List.append_cancel_left heq))
    rw [if_neg hlong, if_neg fun h => nomatch h.1]
  | svg =>
    have hiff : fold (String.ofList (['d', 'a', 't', 'a'] ++ rest)) =
        fold (dataRow .svg).attributeName ↔
          Text.sameLetters (String.ofList (['d', 'a', 't', 'a'] ++ rest)) "dataType" := by
      have hsame : fold (dataRow .svg).attributeName = fold "dataType" := by decide
      rw [hsame, fold_eq_fold_iff (by decide) (by decide)]
    simp only [hiff, true_and]

theorem unlisted_of_names? {name propertyName attributeName : List Char}
    (h : Dataset.names? name = some (propertyName, attributeName)) :
    unlisted (String.ofList name) =
      .plain (String.ofList propertyName) (String.ofList attributeName) := by
  rw [unlisted, String.toList_ofList, h]

theorem find_of_row?_none {space : Namespace} {name : String} (h : row? space name = none) :
    find space name = unlisted name := by
  rw [find, h, Option.getD_none]

/-- What is found under a data attribute. -/
theorem find_attribute (space : Namespace) (rest : List Char)
    (h : rest.all Dataset.isNameChar) :
    find space (String.ofList (['d', 'a', 't', 'a'] ++ '-' :: rest)) =
      .plain (String.ofList (['d', 'a', 't', 'a'] ++ Dataset.capitalize (Text.joinHyphens rest)))
        (String.ofList (['d', 'a', 't', 'a'] ++ '-' :: rest)) := by
  rw [find_of_row?_none (row?_attribute space rest),
    unlisted_of_names? (Dataset.names?_attribute h)]

/-- **A data attribute comes back from its property,** unless SVG has a property of this name. -/
theorem find_property_of_dataAttribute (space : Namespace) (rest : String) (hne : rest ≠ "")
    (hchars : ∀ c ∈ rest.toList, Dataset.isNameChar c ∧ c.isUpper = false)
    (hhead : rest.toList.head? ≠ some '-') :
    let dataName := "data-" ++ rest
    let property := (find space dataName).propertyName
    find space dataName = .plain property dataName ∧
    find space property =
      if space = .svg ∧ Text.sameLetters property "dataType" then dataRow .svg
      else .plain property dataName := by
  have hall : rest.toList.all Dataset.isNameChar := by
    rw [List.all_eq_true]
    exact fun c hc => (hchars c hc).1
  have hletters : rest.toList ≠ [] := mt String.toList_eq_nil_iff.1 hne
  have hname : "data-" ++ rest = String.ofList (['d', 'a', 't', 'a'] ++ '-' :: rest.toList) := by
    have hfront : "data-" = String.ofList ['d', 'a', 't', 'a', '-'] := rfl
    rw [hfront, ← String.ofList_toList (s := rest), String.toList_ofList, ← String.ofList_append]
    rfl
  have hfound := find_attribute space rest.toList hall
  have hback := unlisted_of_names?
    (Dataset.names?_property hletters hhead hall fun c hc => (hchars c hc).2)
  rw [← hname] at hfound hback
  intro dataName property
  have hproperty : property = String.ofList (['d', 'a', 't', 'a'] ++
      Dataset.capitalize (Text.joinHyphens rest.toList)) :=
    congrArg PropertyInfo.propertyName hfound
  rw [hproperty]
  refine ⟨hfound, ?_⟩
  rw [find, row?_property (Dataset.capitalize_joinHyphens_ne_nil hletters)]
  split
  · rfl
  · exact hback

/-- Runs of hyphens and other characters behind a hyphen come back as they were. -/
theorem find_property_of_dataAttribute_hyphens :
    find .svg "data-foo--b.-1-" = .plain "dataFoo-B.-1-" "data-foo--b.-1-" ∧
    find .svg "dataFoo-B.-1-" = .plain "dataFoo-B.-1-" "data-foo--b.-1-" := by
  have hproperty : (find .svg "data-foo--b.-1-").propertyName = "dataFoo-B.-1-" :=
    congrArg PropertyInfo.propertyName
      (find_attribute .svg ['f', 'o', 'o', '-', '-', 'b', '.', '-', '1', '-'] (by decide))
  have hall : ("foo--b.-1-".toList.all fun c => Dataset.isNameChar c && !c.isUpper) = true := by
    decide
  have hchars : ∀ c ∈ "foo--b.-1-".toList, Dataset.isNameChar c ∧ c.isUpper = false := by
    intro c hc
    simpa using List.all_eq_true.1 hall c hc
  obtain ⟨hfound, hback⟩ := find_property_of_dataAttribute .svg "foo--b.-1-" (by decide) hchars
    (by decide)
  have hname : "data-" ++ "foo--b.-1-" = "data-foo--b.-1-" := by decide
  rw [hname, hproperty] at hfound hback
  exact ⟨hfound, hback⟩

/-- The table of SVG has a property that is named like one of the data attributes. -/
theorem find_dataType_svg :
    find .svg "data-type" = .plain "dataType" "data-type" ∧
    find .svg "dataType" = ⟨"dataType", "datatype", some .svg, []⟩ := by
  have hrow : row? .svg "dataType" = some (dataRow .svg) :=
    row?_of_listed (dataRow_mem_rows .svg) List.mem_cons_self rfl
  refine ⟨find_attribute .svg ['t', 'y', 'p', 'e'] (by decide), ?_⟩
  rw [find, hrow, Option.getD_some, dataRow]

end Vocabulary
end MarkupJsx
