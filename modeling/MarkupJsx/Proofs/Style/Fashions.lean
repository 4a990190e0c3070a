import Mathlib.Data.List.Basic
import MarkupJsx.Style.Declaration

/-!
# From style sheets to scripts and back

A style property has a name in style sheets and one in scripts, and there is a map in either
direction.  Neither undoes the other on all names.  A small letter after a hyphen becomes a capital
in scripts, so a capital that is there already cannot be told from it; and since the vendor name
`ms` stays small in scripts, a name of style sheets that starts with `ms-` comes back with a hyphen
before it.

`IsSheetName` leaves just these out.

* `toCssCase_toDomCase`: on what remains, `toCssCase` undoes `toDomCase`, so that no two such names
  are the same in scripts.
* `isSheetName_of_undone`: it undoes it on no other name.  What comes back has no capitals, whatever
  the name was, and no `ms-` at its front.
* `parse_dom_of_parse_css`: a style text is read in the fashion of scripts as it is in that of style
  sheets, name by name, if all names are such names.
-/

namespace MarkupJsx

namespace Text

/-- A small letter has a capital, whose small letter it is. -/
theorem toLower_toUpper {c : Char} (h : c.isLower) :
    c.toUpper.isUpper ∧ c.toUpper.toLower = c := by
  have hall : ∀ n : Fin 26, (Char.ofNat (97 + n)).toUpper.isUpper ∧
      (Char.ofNat (97 + n)).toUpper.toLower = Char.ofNat (97 + n) := by decide
  have hrange : 97 ≤ c.toNat ∧ c.toNat ≤ 122 := by
    delta Char.isLower at h
    simpa [UInt32.le_iff_toNat_le, ← Char.toNat_val] using h
  have hc : Char.ofNat (97 + (c.toNat - 97)) = c := by
    rw [Nat.add_sub_cancel' hrange.1, Char.ofNat_toNat]
  rw [← hc]
  exact hall ⟨c.toNat - 97, by omega⟩

theorem toNat_of_isUpper {c : Char} (h : c.isUpper) : 65 ≤ c.toNat ∧ c.toNat ≤ 90 := by
  delta Char.isUpper at h
  simpa [UInt32.le_iff_toNat_le, ← Char.toNat_val] using h

/-- The small letter of a capital is none. -/
theorem isUpper_toLower {c : Char} (h : c.isUpper) : c.toLower.isUpper = false := by
  have hall : ∀ n : Fin 26, (Char.ofNat (65 + n)).toLower.isUpper = false := by decide
  have hrange := toNat_of_isUpper h
  have hc : Char.ofNat (65 + (c.toNat - 65)) = c := by
    rw [Nat.add_sub_cancel' hrange.1, Char.ofNat_toNat]
  rw [← hc]
  exact hall ⟨c.toNat - 65, by omega⟩

/-- Splitting leaves no capitals. -/
theorem isUpper_of_mem_splitCapitals {name : List Char} {c : Char}
    (h : c ∈ splitCapitals name) : c.isUpper = false := by
  induction name with
  | nil => exact nomatch h
  | cons first rest ih =>
    rw [splitCapitals] at h
    split at h
    · rename_i hfirst
      rcases List.mem_cons.1 h with rfl | h
      · rfl
      rcases List.mem_cons.1 h with rfl | h
      · exact isUpper_toLower hfirst
      · exact ih h
    · rename_i hfirst
      rcases List.mem_cons.1 h with rfl | h
      · exact Bool.eq_false_iff.2 hfirst
      · exact ih h

/-- In a name without capitals every capital stands for a hyphen that was joined. -/
theorem splitCapitals_joinHyphens {name : List Char} (h : ∀ c ∈ name, c.isUpper = false) :
    splitCapitals (joinHyphens name) = name := by
  fun_induction joinHyphens name with
  | case1 => rfl
  | case2 c => simp [splitCapitals, h c List.mem_cons_self]
  | case3 c next rest hc ih =>
    obtain ⟨rfl, hlower⟩ := hc
    obtain ⟨hupper, hback⟩ := toLower_toUpper hlower
    rw [splitCapitals, if_pos hupper, hback,
      ih fun c hc => h c (List.mem_cons_of_mem _ (List.mem_cons_of_mem _ hc))]
  | case4 c next rest hc ih =>
    rw [splitCapitals, if_neg (by simp [h c List.mem_cons_self]),
      ih fun c hc => h c (List.mem_cons_of_mem _ hc)]

/-- Joining makes no two hyphens at the front out of one. -/
theorem not_hyphens_joinHyphens {name : List Char} (h : ¬['-', '-'] <+: name) :
    ¬['-', '-'] <+: joinHyphens name := by
  match name with
  | [] => exact h
  | [c] => exact h
  | c :: next :: rest =>
    rw [joinHyphens]
    split
    · rename_i hc
      have hne : next.toUpper ≠ '-' := by
        intro heq
        have hupper := (toLower_toUpper hc.2).1
        rw [heq] at hupper
        exact absurd hupper (by decide)
      rw [List.cons_prefix_cons]
      exact fun hstart => hne hstart.1.symm
    · intro hstart
      obtain ⟨rfl, hbehind⟩ := List.cons_prefix_cons.1 hstart
      have hnext : next ≠ '-' := by
        rintro rfl
        exact h (by simp)
      rw [joinHyphens_other hnext] at hbehind
      exact hnext (List.cons_prefix_cons.1 hbehind).1.symm

end Text

namespace Style

/-- A name of style sheets that can be told from its name in scripts: that of a custom property, or
a name without capitals that does not start with `ms-`. -/
def IsSheetName (name : List Char) : Prop :=
  ['-', '-'] <+: name ∨ (∀ c ∈ name, c.isUpper = false) ∧ ¬['m', 's', '-'] <+: name

theorem isSheetName_of_all {name : List Char} (hsmall : name.all fun c => !c.isUpper)
    (hvendor : ¬['m', 's', '-'] <+: name) : IsSheetName name :=
  .inr ⟨fun c hc => by simpa using List.all_eq_true.1 hsmall c hc, hvendor⟩

theorem toCssCase_of_not_custom {name : List Char} (h : ¬['-', '-'] <+: name) :
    toCssCase name = hyphenateVendor (Text.splitCapitals name) := by
  unfold toCssCase
  split
  · exact absurd (by simp) h
  · rfl

theorem hyphenateVendor_of_not_vendor {name : List Char} (h : ¬['m', 's', '-'] <+: name) :
    hyphenateVendor name = name := by
  unfold hyphenateVendor
  split
  · exact absurd (by simp) h
  · rfl

/-- **The name in style sheets comes back** from the name in scripts. -/
theorem toCssCase_toDomCase {name : List Char} (h : IsSheetName name) :
    toCssCase (toDomCase name) = name := by
  by_cases hcustom : ['-', '-'] <+: name
  · obtain ⟨rest, rfl⟩ := hcustom
    rfl
  · obtain ⟨hsmall, hvendor⟩ := h.resolve_left hcustom
    unfold toDomCase
    split
    · exact absurd (by simp) hcustom
    · rename_i rest
      have hsmall : ∀ c ∈ 'm' :: 's' :: '-' :: rest, c.isUpper = false :=
        fun c hc => hsmall c (List.mem_cons_of_mem _ hc)
      rw [toCssCase_of_not_custom (Text.not_hyphens_joinHyphens (by simp)),
        Text.splitCapitals_joinHyphens hsmall]
      rfl
    · rw [toCssCase_of_not_custom (Text.not_hyphens_joinHyphens hcustom),
        Text.splitCapitals_joinHyphens hsmall, hyphenateVendor_of_not_vendor hvendor]

/-- No two such names are the same in scripts. -/
theorem eq_of_toDomCase_eq {name other : List Char} (hname : IsSheetName name)
    (hother : IsSheetName other) (h : toDomCase name = toDomCase other) : name = other := by
  rw [← toCssCase_toDomCase hname, h, toCssCase_toDomCase hother]

/-! ## All other names -/

theorem isUpper_of_mem_hyphenateVendor {name : List Char}
    (h : ∀ c ∈ name, c.isUpper = false) : ∀ c ∈ hyphenateVendor name, c.isUpper = false := by
  unfold hyphenateVendor
  split
  · intro c hc
    rcases List.mem_cons.1 hc with rfl | hc
    · rfl
    · exact h c hc
  · exact h

/-- A name of style sheets that was made from one in scripts does not start with the vendor name. -/
theorem not_vendor_hyphenateVendor (name : List Char) :
    ¬['m', 's', '-'] <+: hyphenateVendor name := by
  unfold hyphenateVendor
  split
  · exact fun hstart => absurd (List.cons_prefix_cons.1 hstart).1 (by decide)
  · rename_i hne
    rintro ⟨rest, rfl⟩
    exact hne rest rfl

/-- Only custom properties have the names of custom properties in scripts. -/
theorem not_hyphens_toDomCase {name : List Char} (h : ¬['-', '-'] <+: name) :
    ¬['-', '-'] <+: toDomCase name := by
  unfold toDomCase
  split
  · exact absurd (by simp) h
  · exact Text.not_hyphens_joinHyphens (by simp)
  · exact Text.not_hyphens_joinHyphens h

/-- **What comes back is a name of style sheets,** whatever it was before. -/
theorem isSheetName_of_undone {name : List Char} (h : toCssCase (toDomCase name) = name) :
    IsSheetName name := by
  by_cases hcustom : ['-', '-'] <+: name
  · exact .inl hcustom
  · rw [toCssCase_of_not_custom (not_hyphens_toDomCase hcustom)] at h
    refine .inr ⟨?_, ?_⟩
    · rw [← h]
      exact isUpper_of_mem_hyphenateVendor fun c hc => Text.isUpper_of_mem_splitCapitals hc
    · rw [← h]
      exact not_vendor_hyphenateVendor _

/-! ## The names in a style text -/

/-- The name in scripts of a property with a name in style sheets. -/
def domName (name : String) : String :=
  String.ofList (toDomCase name.toList)

theorem eq_of_domName_eq {name other : String} (hname : IsSheetName name.toList)
    (hother : IsSheetName other.toList) (h : domName name = domName other) : name = other :=
  String.toList_injective (eq_of_toDomCase_eq hname hother (String.ofList_injective h))

/-- Both fashions are those of the same declarations. -/
theorem exists_pairs_of_parse_css {text : String} {entries : Entries String}
    (h : parse text .css = .ok entries) :
    ∃ pairs : List (String × String), entries = Entries.ofPairs pairs ∧
      parse text .dom = .ok (Entries.ofPairs (Entries.renamed domName pairs)) := by
  cases hread : readStyle text.toList with
  | error failure =>
    simp only [parse, hread] at h
    cases h
  | ok declarations =>
    simp only [parse, hread] at h ⊢
    obtain rfl := Except.ok.inj h
    refine ⟨_, rfl, ?_⟩
    rw [Entries.renamed, List.map_map]
    simp [StyleCase.ofText, domName, Function.comp_def]

/-- **A style text in the two fashions.**  Whatever is declared under a name of style sheets is
declared under the name in scripts, and if all names are such that they come back, then nothing but
the names is different. -/
theorem parse_dom_of_parse_css {text : String} {entries : Entries String}
    (h : parse text .css = .ok entries) :
    ∃ scripts, parse text .dom = .ok scripts ∧
      (∀ name ∈ Entries.keys entries, domName name ∈ Entries.keys scripts) ∧
      ((∀ name ∈ Entries.keys entries, IsSheetName name.toList) →
        scripts = Entries.renamed domName entries) := by
  obtain ⟨pairs, rfl, hdom⟩ := exists_pairs_of_parse_css h
  refine ⟨_, hdom, fun name hname => ?_, fun hnames => ?_⟩
  · rw [Entries.mem_keys_ofPairs, Entries.keys_renamed]
    exact List.mem_map_of_mem (Entries.mem_keys_ofPairs.1 hname)
  · refine Entries.ofPairs_renamed fun key hkey other hother heq => ?_
    exact eq_of_domName_eq (hnames other (Entries.mem_keys_ofPairs.2 hother))
      (hnames key (Entries.mem_keys_ofPairs.2 hkey)) heq

/-- **The two maps are inverse where they should be.**  A name of style sheets comes back from the
name in scripts exactly if it is that of a custom property, or has no capitals and does not start
with `ms-`.  So no two such names are the same in scripts.  In a style text the declarations of such
names have different names in scripts, and if all names are such, then reading the text in the
fashion of scripts gives the same declarations in the same order under their names in scripts. -/
theorem toCssCase_undoes_toDomCase :
    (∀ name, toCssCase (toDomCase name) = name ↔ IsSheetName name) ∧
    (∀ name other, IsSheetName name → IsSheetName other →
      toDomCase name = toDomCase other → name = other) ∧
    ∀ (text : String) (entries : Entries String), parse text .css = .ok entries →
      (Entries.keys entries).Pairwise (fun name other => IsSheetName name.toList →
        IsSheetName other.toList → domName name ≠ domName other) ∧
      ∃ scripts, parse text .dom = .ok scripts ∧
        (∀ name ∈ Entries.keys entries, domName name ∈ Entries.keys scripts) ∧
        ((∀ name ∈ Entries.keys entries, IsSheetName name.toList) →
          scripts = Entries.renamed domName entries) := by
  refine ⟨fun name => ⟨isSheetName_of_undone, toCssCase_toDomCase⟩,
    fun name other => eq_of_toDomCase_eq, fun text entries h => ⟨?_, parse_dom_of_parse_css h⟩⟩
  obtain ⟨pairs, rfl, -⟩ := exists_pairs_of_parse_css h
  refine (Entries.nodup_keys_ofPairs pairs).imp fun hne hname hother heq => ?_
  exact hne (eq_of_domName_eq hname hother heq)

/-- A vendor name, a custom property whose capitals stay, a digit behind a hyphen, and a name that
is declared again. -/
def vendorText : String :=
  "-ms-flex: 1; --Gap: 2; color: red; x-2-y: 3; color: blue"

theorem toCssCase_undoes_toDomCase_vendorText :
    let entries := [("-ms-flex", "1"), ("--Gap", "2"), ("color", "blue"), ("x-2-y", "3")]
    parse vendorText .css = .ok entries ∧
      (∀ name ∈ Entries.keys entries, IsSheetName name.toList) ∧
      parse vendorText .dom =
        .ok [("msFlex", "1"), ("--Gap", "2"), ("color", "blue"), ("x-2Y", "3")] ∧
      toCssCase (toDomCase "ms-flex".toList) ≠ "ms-flex".toList := by
  intro entries
  have hread : parse vendorText .css = .ok entries := by decide +kernel
  have hnames : ∀ name ∈ Entries.keys entries, IsSheetName name.toList := by
    intro name hname
    simp only [entries, Entries.keys, List.map_cons, List.map_nil, List.mem_cons, List.not_mem_nil,
      or_false] at hname
    rcases hname with rfl | rfl | rfl | rfl
    · exact isSheetName_of_all (by decide) (by decide)
    · exact .inl (by decide)
    · exact isSheetName_of_all (by decide) (by decide)
    · exact isSheetName_of_all (by decide) (by decide)
  obtain ⟨hback, -, htext⟩ := toCssCase_undoes_toDomCase
  obtain ⟨-, scripts, hdom, -, hscripts⟩ := htext vendorText entries hread
  refine ⟨hread, hnames, ?_, ?_⟩
  · rw [hdom, hscripts hnames]
    decide
  · rw [Ne, hback]
    exact not_or.2 ⟨by decide, fun hvendor => hvendor.2 (by decide)⟩

end Style
end MarkupJsx
