import MarkupJsx.Proofs.Vocabulary.DataNames

/-!
# Looking written names up

The name under which a property is written can be looked up like any other name.  It is written as
itself then, and the same is known about it as about the property (`writtenName_find_writtenName`):
**naming attributes is idempotent,** in both vocabularies and in both fashions.

* A property in the tables is written under one of its two names, or under the one that the
  component library has for it.  The latter differs from the name of the property in its case only
  (`fold_reactName`), so the same row is found, as no two rows share a name.
* Any other property is written under the attribute that is made of its name.  That is the name
  itself or a data attribute, and neither is in the tables (`find_attributeName_unlisted`).
-/

namespace MarkupJsx
namespace Vocabulary

/-! ## Properties in the tables -/

/-- The component library changes the case of names only. -/
theorem fold_reactName (property : String) : fold (reactName property) = fold property := by
  rw [reactName]
  cases hother : reactNames.lookup property with
  | none => rfl
  | some other =>
    have hall : ∀ pair ∈ reactNames, fold pair.2 = fold pair.1 := by decide +kernel
    exact hall _ (mem_of_lookup hother)

/-- A property is written under one of its names, up to case. -/
theorem exists_listed_of_writtenName (info : PropertyInfo) (names : AttributeCase) :
    ∃ listed ∈ info.names, fold (info.writtenName names) = fold listed := by
  have hproperty : info.propertyName ∈ info.names := List.mem_cons_self
  have hattribute : info.attributeName ∈ info.names :=
    List.mem_cons_of_mem _ (List.mem_singleton_self _)
  cases names with
  | html => exact ⟨info.attributeName, hattribute, rfl⟩
  | react =>
    rw [PropertyInfo.writtenName]
    split
    · exact ⟨info.propertyName, hproperty, fold_reactName info.propertyName⟩
    · exact ⟨info.attributeName, hattribute, rfl⟩

/-- **A row is found again under the name that it is written under.** -/
theorem find_writtenName {space : Namespace} {info : PropertyInfo} (hrow : info ∈ rows space)
    (names : AttributeCase) : find space (info.writtenName names) = info := by
  obtain ⟨listed, hlisted, hname⟩ := exists_listed_of_writtenName info names
  rw [find, row?_of_listed hrow hlisted hname, Option.getD_some]

/-! ## Other properties -/

namespace Dataset

theorem isNameChar_toLower {c : Char} (h : c.isUpper) : isNameChar c.toLower := by
  have hall : ∀ n : Fin 26, isNameChar (Char.ofNat (65 + n)).toLower := by decide
  have hrange := Text.toNat_of_isUpper h
  have hc : Char.ofNat (65 + (c.toNat - 65)) = c := by
    rw [Nat.add_sub_cancel' hrange.1, Char.ofNat_toNat]
  rw [← hc]
  exact hall ⟨c.toNat - 65, by omega⟩

theorem all_isNameChar_splitCapitals {text : List Char} (h : text.all isNameChar) :
    (Text.splitCapitals text).all isNameChar := by
  induction text with
  | nil => rfl
  | cons c rest ih =>
    rw [List.all_cons, Bool.and_eq_true] at h
    rw [Text.splitCapitals]
    split
    · rename_i hupper
      simp only [List.all_cons, Bool.and_eq_true]
      exact ⟨by decide, isNameChar_toLower hupper, ih h.2⟩
    · rw [List.all_cons, Bool.and_eq_true]
      exact ⟨h.1, ih h.2⟩

/-- There is one hyphen in front at least. -/
theorem exists_hyphenate {text : List Char} (h : text.all isNameChar) :
    ∃ rest, hyphenate text = '-' :: rest ∧ rest.all isNameChar := by
  rw [hyphenate]
  split
  · rename_i hhead
    obtain ⟨rest, rfl⟩ := List.head?_eq_some_iff.1 hhead
    rw [List.all_cons, Bool.and_eq_true] at h
    exact ⟨rest, rfl, h.2⟩
  · exact ⟨text, rfl, h⟩

/-- The attribute of a data name is the name itself or a data attribute. -/
theorem attribute_of_names? {name propertyName attributeName : List Char}
    (h : names? name = some (propertyName, attributeName)) :
    attributeName = name ∨
      ∃ rest, attributeName = ['d', 'a', 't', 'a'] ++ '-' :: rest ∧ rest.all isNameChar := by
  rw [names?] at h
  split at h
  · exact (Option.some_ne_none _ h.symm).elim
  · exact Or.inl (Prod.mk.inj (Option.some.inj h)).2.symm
  · rename_i rest _ hrest
    obtain ⟨front, rfl, -, -, hall⟩ := rest?_eq_some_iff.1 hrest
    split at h
    · exact Or.inl (Prod.mk.inj (Option.some.inj h)).2.symm
    · obtain ⟨tail, htail, halltail⟩ := exists_hyphenate (all_isNameChar_splitCapitals hall)
      refine Or.inr ⟨tail, ?_, halltail⟩
      rw [← (Prod.mk.inj (Option.some.inj h)).2, htail]

end Dataset

/-- The attribute of a property without a row is its name or a data attribute. -/
theorem attributeName_unlisted (name : String) :
    (unlisted name).attributeName = name ∨
      ∃ rest, (unlisted name).attributeName = String.ofList (['d', 'a', 't', 'a'] ++ '-' :: rest) ∧
        rest.all Dataset.isNameChar := by
  rw [unlisted]
  split
  · rename_i _ _ hnames
    rcases Dataset.attribute_of_names? hnames with rfl | ⟨rest, rfl, hall⟩
    · exact Or.inl String.ofList_toList
    · exact Or.inr ⟨rest, rfl, hall⟩
  · exact Or.inl rfl

theorem space_unlisted (name : String) : (unlisted name).space = none := by
  rw [unlisted]
  split <;> rfl

theorem forms_unlisted (name : String) : (unlisted name).forms = [] := by
  rw [unlisted]
  split <;> rfl

/-- **Nothing more is known about the attribute,** and it is its own attribute. -/
theorem find_attributeName_unlisted {space : Namespace} {name : String}
    (h : row? space name = none) :
    ∃ propertyName, find space (unlisted name).attributeName =
      .plain propertyName (unlisted name).attributeName := by
  rcases attributeName_unlisted name with hname | ⟨rest, hdata, hall⟩
  · rw [hname, find_of_row?_none h]
    refine ⟨(unlisted name).propertyName, ?_⟩
    rw [PropertyInfo.plain, ← space_unlisted name, ← forms_unlisted name]
    exact congrArg (PropertyInfo.mk _ · _ _) hname
  · rw [hdata, find_attribute space rest hall]
    exact ⟨_, rfl⟩

/-! ## The main statement -/

/-- **Naming attributes is idempotent,** and the same is known about the name as about the
property. -/
theorem writtenName_find_writtenName (space : Namespace) (names : AttributeCase) (name : String) :
    let info := find space name
    let again := find space (info.writtenName names)
    again.writtenName names = info.writtenName names ∧ again.space = info.space ∧
      again.forms = info.forms := by
  intro info again
  cases hrow : row? space name with
  | some row =>
    have hinfo : info = row := by
      show find space name = row
      rw [find, hrow, Option.getD_some]
    have hagain : again = info := by
      show find space (info.writtenName names) = info
      rw [hinfo]
      exact find_writtenName (exists_listed_of_row? hrow).1 names
    rw [hagain]
    exact ⟨rfl, rfl, rfl⟩
  | none =>
    have hinfo : info = unlisted name := find_of_row?_none hrow
    have hspace : info.space = none := hinfo ▸ space_unlisted name
    have hwritten : info.writtenName names = (unlisted name).attributeName := by
      rw [PropertyInfo.writtenName_of_space_none hspace, hinfo]
    obtain ⟨propertyName, hplain⟩ := find_attributeName_unlisted hrow
    have hagain : again = .plain propertyName (unlisted name).attributeName := by
      show find space (info.writtenName names) = _
      rw [hwritten, hplain]
    rw [hagain, PropertyInfo.writtenName_of_space_none rfl, hwritten, hspace, hinfo,
      forms_unlisted]
    exact ⟨rfl, rfl, rfl⟩

end Vocabulary
end MarkupJsx
