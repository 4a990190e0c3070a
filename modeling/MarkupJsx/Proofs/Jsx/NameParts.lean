import Mathlib.Data.List.Basic
import MarkupJsx.Jsx.Name

/-!
# The parts of a name

A name that is read and written again is the same name, so nothing of it is lost and no two written
names are read as one (`ElementName.ofString_injective`, `AttributeName.ofString_injective`).  What
became of it can be told from its dots and colons alone:

* the parts of the name of an element are what stands between its dots
  (`ElementName.parts_ofString`), and it is a chain of members exactly if there is a dot;
* without a dot it is a name in a namespace exactly if there is a colon, and then the namespace ends
  at the first one (`ElementName.ofString_eq_namespaced_iff`);
* the name of an attribute is split at its first colon, whether there are dots or not
  (`AttributeName.ofString_eq_namespaced_iff`).
-/

namespace MarkupJsx
namespace Jsx

/-! ## Splitting -/

variable {separator : Char} {text : List Char}

theorem splitParts_eq_splitOn (separator : Char) (text : List Char) :
    splitParts separator text = text.splitOn separator := by
  induction text with
  | nil => rfl
  | cons c rest ih =>
    rw [splitParts, List.splitOn_cons_eq_if_modifyHead, ← ih]
    obtain ⟨part, parts, hparts⟩ := List.exists_cons_of_ne_nil (splitParts_ne_nil separator rest)
    simp only [hparts, List.modifyHead_cons, beq_iff_eq]

/-- No part of a text has the separator in it. -/
theorem not_mem_of_mem_splitOn {part : List Char} (h : part ∈ text.splitOn separator) :
    separator ∉ part := by
  induction text generalizing part with
  | nil =>
    rw [List.splitOn_nil, List.mem_singleton] at h
    simp [h]
  | cons c rest ih =>
    obtain ⟨first, parts, hparts⟩ := List.exists_cons_of_ne_nil (List.splitOn_ne_nil separator rest)
    rw [List.splitOn_cons_eq_if_modifyHead, hparts] at h
    rw [hparts] at ih
    split at h
    · rcases List.mem_cons.1 h with rfl | hmem
      · exact List.not_mem_nil
      · exact ih hmem
    · rename_i hc
      rcases List.mem_cons.1 h with rfl | hmem
      · have hne : separator ≠ c := fun heq => hc (beq_iff_eq.2 heq.symm)
        exact List.not_mem_cons_of_ne_of_not_mem hne (ih List.mem_cons_self)
      · exact ih (List.mem_cons_of_mem first hmem)

/-- A text with the separator in it has two parts at least. -/
theorem exists_splitOn_of_mem (h : separator ∈ text) :
    ∃ first next rest, text.splitOn separator = first :: next :: rest := by
  obtain ⟨left, right, rfl, hleft⟩ := List.eq_append_cons_of_mem h
  obtain ⟨next, rest, hsplit⟩ := List.exists_cons_of_ne_nil (List.splitOn_ne_nil separator right)
  exact ⟨left, next, rest, by
    rw [List.splitOn_append_cons_self_of_not_mem hleft, hsplit]⟩

theorem splitFirst?_append_cons {left : List Char} (h : separator ∉ left) (right : List Char) :
    splitFirst? separator (left ++ separator :: right) = some (left, right) := by
  induction left with
  | nil => rw [List.nil_append, splitFirst?, if_pos rfl]
  | cons c left ih =>
    obtain ⟨hc, hleft⟩ := not_or.1 (mt List.mem_cons.2 h)
    rw [List.cons_append, splitFirst?, if_neg (Ne.symm hc), ih hleft, Option.map_some]

theorem splitFirst?_of_not_mem (h : separator ∉ text) : splitFirst? separator text = none := by
  induction text with
  | nil => rfl
  | cons c rest ih =>
    obtain ⟨hc, hrest⟩ := not_or.1 (mt List.mem_cons.2 h)
    rw [splitFirst?, if_neg (Ne.symm hc), ih hrest, Option.map_none]

/-- The first separator is the one with none in front of it. -/
theorem splitFirst?_eq_some_iff {left right : List Char} :
    splitFirst? separator text = some (left, right) ↔
      text = left ++ separator :: right ∧ separator ∉ left := by
  constructor
  · intro h
    have hmem : separator ∈ text := by
      by_contra hnot
      rw [splitFirst?_of_not_mem hnot] at h
      exact Option.some_ne_none _ h.symm
    obtain ⟨front, back, rfl, hfront⟩ := List.eq_append_cons_of_mem hmem
    rw [splitFirst?_append_cons hfront] at h
    obtain ⟨rfl, rfl⟩ := Prod.mk.inj (Option.some.inj h)
    exact ⟨rfl, hfront⟩
  · rintro ⟨rfl, hleft⟩
    exact splitFirst?_append_cons hleft right

/-! ## Names of attributes -/

namespace AttributeName

/-- **The name of an attribute is written as it was read.** -/
@[simp] theorem toString_ofString (raw : String) : (ofString raw).toString = raw := by
  rw [ofString]
  split
  · rename_i space name hsplit
    exact append_of_splitFirst? hsplit
  · rfl

theorem ofString_injective : Function.Injective ofString :=
  Function.LeftInverse.injective toString_ofString

/-- **The name of an attribute is split at its first colon.** -/
theorem ofString_eq_namespaced_iff {raw space name : String} :
    ofString raw = namespaced space name ↔
      raw = space ++ ":" ++ name ∧ ':' ∉ space.toList := by
  have hraw : raw = space ++ ":" ++ name ↔ raw.toList = space.toList ++ ':' :: name.toList := by
    rw [← String.toList_inj]
    simp
  rw [hraw, ← splitFirst?_eq_some_iff, ofString]
  split
  · rename_i left right hsplit
    rw [hsplit, Option.some_inj, Prod.mk.injEq, namespaced.injEq, ← String.toList_inj,
      ← String.toList_inj, String.toList_ofList, String.toList_ofList]
  · rename_i hsplit
    simp [hsplit]

theorem exists_namespaced_iff (raw : String) :
    (∃ space name, ofString raw = namespaced space name) ↔ ':' ∈ raw.toList := by
  constructor
  · rintro ⟨space, name, h⟩
    obtain ⟨rfl, -⟩ := ofString_eq_namespaced_iff.1 h
    simp
  · intro h
    obtain ⟨left, right, hraw, hleft⟩ := List.eq_append_cons_of_mem h
    refine ⟨String.ofList left, String.ofList right, ofString_eq_namespaced_iff.2 ⟨?_, ?_⟩⟩
    · apply String.toList_injective
      simp [hraw]
    · rwa [String.toList_ofList]

/-- The name of an element that is written the same way. -/
def toElementName : AttributeName → ElementName
  | identifier name => .identifier name
  | namespaced space name => .namespaced space name

end AttributeName

/-! ## Names of elements -/

/-- The identifiers of a member object, from left to right. -/
def MemberObject.parts : MemberObject → List String
  | identifier name => [name]
  | member object property => object.parts ++ [property]

namespace ElementName

/-- The identifiers of a chain of members, from left to right.  Any other name is a part by
itself. -/
def parts : ElementName → List String
  | identifier name => [name]
  | member object property => object.parts ++ [property]
  | namespaced space name => [space ++ ":" ++ name]

theorem parts_toElementName (name : AttributeName) :
    name.toElementName.parts = [name.toString] := by
  cases name <;> rfl

theorem ofString_injective : Function.Injective ofString :=
  Function.LeftInverse.injective toString_ofString

theorem parts_chain (object : MemberObject) (property : String) (rest : List String) :
    (chain object property rest).parts = object.parts ++ property :: rest := by
  induction rest generalizing object property with
  | nil => rfl
  | cons next rest ih =>
    rw [chain, ih, MemberObject.parts, List.append_assoc, List.singleton_append]

theorem exists_chain_eq_member (object : MemberObject) (property : String) (rest : List String) :
    ∃ object' property', chain object property rest = member object' property' := by
  induction rest generalizing object property with
  | nil => exact ⟨object, property, rfl⟩
  | cons next rest ih => exact ih (.member object property) next

variable {raw : String}

/-- With a dot in it, the name of an element is a chain of what stands between its dots. -/
theorem ofString_of_mem (h : '.' ∈ raw.toList) :
    ∃ object property, ofString raw = member object property ∧
      (object.parts ++ [property]).map String.toList = raw.toList.splitOn '.' := by
  obtain ⟨first, next, rest, hsplit⟩ := exists_splitOn_of_mem h
  have hchain : ofString raw =
      chain (.identifier (String.ofList first)) (String.ofList next) (rest.map String.ofList) := by
    rw [ofString, splitParts_eq_splitOn, hsplit]
    rfl
  obtain ⟨object, property, hmember⟩ := exists_chain_eq_member
    (.identifier (String.ofList first)) (String.ofList next) (rest.map String.ofList)
  refine ⟨object, property, hchain.trans hmember, ?_⟩
  have hparts : object.parts ++ [property] =
      String.ofList first :: String.ofList next :: rest.map String.ofList :=
    (congrArg parts hmember).symm.trans (parts_chain _ _ _)
  rw [hparts, hsplit]
  simp [Function.comp_def]

/-- Without a dot in it, the name of an element is read as that of an attribute is. -/
theorem ofString_of_not_mem (h : '.' ∉ raw.toList) :
    ofString raw = (AttributeName.ofString raw).toElementName := by
  rw [ofString, splitParts_eq_splitOn, List.splitOn_eq_singleton h, AttributeName.ofString]
  cases splitFirst? ':' raw.toList with
  | none => rfl
  | some sides => rfl

theorem exists_member_iff (raw : String) :
    (∃ object property, ofString raw = member object property) ↔ '.' ∈ raw.toList := by
  constructor
  · rintro ⟨object, property, h⟩
    by_contra hdot
    rw [ofString_of_not_mem hdot] at h
    cases hname : AttributeName.ofString raw with
    | identifier name => rw [hname] at h; cases h
    | namespaced space name => rw [hname] at h; cases h
  · intro h
    obtain ⟨object, property, hmember, -⟩ := ofString_of_mem h
    exact ⟨object, property, hmember⟩

/-- **The parts of the name of an element are what stands between its dots.** -/
theorem parts_ofString (raw : String) :
    (ofString raw).parts.map String.toList = raw.toList.splitOn '.' := by
  by_cases h : '.' ∈ raw.toList
  · obtain ⟨object, property, hmember, hparts⟩ := ofString_of_mem h
    rw [hmember]
    exact hparts
  · have hwhole : (ofString raw).parts = [raw] := by
      rw [ofString_of_not_mem h, parts_toElementName, AttributeName.toString_ofString]
    rw [hwhole, List.splitOn_eq_singleton h, List.map_singleton]

/-- **Without dots, the name of an element is split at its first colon.** -/
theorem ofString_eq_namespaced_iff {space name : String} :
    ofString raw = namespaced space name ↔
      '.' ∉ raw.toList ∧ raw = space ++ ":" ++ name ∧ ':' ∉ space.toList := by
  by_cases h : '.' ∈ raw.toList
  · obtain ⟨object, property, hmember⟩ := (exists_member_iff raw).2 h
    simp [hmember, h]
  · rw [← AttributeName.ofString_eq_namespaced_iff, ofString_of_not_mem h]
    cases AttributeName.ofString raw <;> simp [h, AttributeName.toElementName]

theorem exists_namespaced_iff (raw : String) :
    (∃ space name, ofString raw = namespaced space name) ↔
      ':' ∈ raw.toList ∧ '.' ∉ raw.toList := by
  simp only [ofString_eq_namespaced_iff, exists_and_left,
    ← AttributeName.ofString_eq_namespaced_iff, AttributeName.exists_namespaced_iff, and_comm]

end ElementName

/-- **Names lose nothing.**  The name of an element is written as it was read, so that no two
written names are read as one.  It is a chain of members exactly if it has a dot, and the
identifiers of the chain are what stands between the dots, one after the other; and it is a name in
a namespace exactly if it has a colon and no dot, and there is no colon in the namespace.  The same
holds for the name of an attribute, but there a dot means nothing. -/
theorem names_written_as_read :
    Function.Injective ElementName.ofString ∧ Function.Injective AttributeName.ofString ∧
    ∀ raw : String,
      ((ElementName.ofString raw).toString = raw ∧
        ((∃ object property, ElementName.ofString raw = .member object property) ↔
          '.' ∈ raw.toList) ∧
        (∀ object property, ElementName.ofString raw = .member object property →
          (object.parts ++ [property]).map String.toList = raw.toList.splitOn '.' ∧
          ∀ part ∈ object.parts ++ [property], '.' ∉ part.toList) ∧
        ((∃ space name, ElementName.ofString raw = .namespaced space name) ↔
          ':' ∈ raw.toList ∧ '.' ∉ raw.toList) ∧
        ∀ space name, ElementName.ofString raw = .namespaced space name → ':' ∉ space.toList) ∧
      ((AttributeName.ofString raw).toString = raw ∧
        ((∃ space name, AttributeName.ofString raw = .namespaced space name) ↔
          ':' ∈ raw.toList) ∧
        ∀ space name, AttributeName.ofString raw = .namespaced space name →
          ':' ∉ space.toList) := by
  refine ⟨ElementName.ofString_injective, AttributeName.ofString_injective, fun raw =>
    ⟨⟨ElementName.toString_ofString raw, ElementName.exists_member_iff raw, ?_,
      ElementName.exists_namespaced_iff raw, fun space name h =>
        (ElementName.ofString_eq_namespaced_iff.1 h).2.2⟩,
      AttributeName.toString_ofString raw, AttributeName.exists_namespaced_iff raw,
      fun space name h => (AttributeName.ofString_eq_namespaced_iff.1 h).2⟩⟩
  intro object property h
  have hparts : (object.parts ++ [property]).map String.toList = raw.toList.splitOn '.' := by
    have hall := ElementName.parts_ofString raw
    rwa [h] at hall
  refine ⟨hparts, fun part hpart => ?_⟩
  have hpiece : part.toList ∈ raw.toList.splitOn '.' := hparts ▸ List.mem_map_of_mem hpart
  exact not_mem_of_mem_splitOn hpiece

/-- Dots at both ends and side by side, and colons, which mean nothing in the name of an element
with dots. -/
theorem names_written_as_read_separators :
    ElementName.ofString ".a:b..c" =
        .member (.member (.member (.identifier "") "a:b") "") "c" ∧
      ".a:b..c".toList.splitOn '.' = ["", "a:b", "", "c"].map String.toList ∧
      (∀ part ∈ ["", "a:b", "", "c"], '.' ∉ part.toList) ∧
      AttributeName.ofString ".a:b..c" = .namespaced ".a" "b..c" ∧ ':' ∉ ".a".toList := by
  obtain ⟨-, -, hnames⟩ := names_written_as_read
  obtain ⟨⟨-, -, hmember, -⟩, -, -, hnamespaced⟩ := hnames ".a:b..c"
  have helement : ElementName.ofString ".a:b..c" =
      .member (.member (.member (.identifier "") "a:b") "") "c" := by decide
  have hattribute : AttributeName.ofString ".a:b..c" = .namespaced ".a" "b..c" := by decide
  obtain ⟨hsplit, hdotless⟩ := hmember _ _ helement
  exact ⟨helement, hsplit.symm, hdotless, hattribute, hnamespaced _ _ hattribute⟩

end Jsx
end MarkupJsx
