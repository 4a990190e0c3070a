import Mathlib.Data.List.Nodup
import Mathlib.Data.List.Pairwise
import MarkupJsx.Text.Case
import MarkupJsx.Vocabulary.Lookup

/-!
# The rows of the vocabularies

A lookup answers with the first row that is listed under a name.  That the order of the rows does
not matter is a property of the tables: **no two rows of a vocabulary are listed under one name**
(`eq_of_listed`), so that a row is found under either of its names, in any case (`row?_of_listed`).
No row but one is listed under a name that starts with `data` (`row?_of_data`).

The tables are long, and comparing all names with all others takes too much work.  So a name is
turned into a number, from which capitals and small letters cannot be told (`code`), and the numbers
are sorted into classes by their remainders (`nodup_of_classes`).  The bytes of a name are at hand,
unlike its characters, and for the names in the tables, which are ASCII, they come to the same
(`caselessBytes_eq`).
-/

namespace MarkupJsx
namespace Vocabulary

/-! ## Names up to case -/

/-- Folding agrees with the small forms of ASCII letters wherever no `k` comes out. -/
theorem foldChar_eq_iff {letter : Char} (hk : letter ≠ 'k') (hkelvin : letter ≠ '\u212a')
    (c : Char) : foldChar c = letter ↔ c.toLower = letter := by
  rw [foldChar]
  by_cases hc : c = '\u212a'
  · have hsmall : Char.toLower '\u212a' = '\u212a' := by decide
    rw [if_pos hc, hc, hsmall]
    exact ⟨fun h => absurd h.symm hk, fun h => absurd h.symm hkelvin⟩
  · rw [if_neg hc]

theorem map_foldChar_eq_iff {letters : List Char}
    (hk : 'k' ∉ letters) (hkelvin : '\u212a' ∉ letters) (text : List Char) :
    text.map foldChar = letters ↔ text.map Char.toLower = letters := by
  induction text generalizing letters with
  | nil => exact Iff.rfl
  | cons c rest ih =>
    cases letters with
    | nil => exact ⟨fun h => (nomatch h), fun h => (nomatch h)⟩
    | cons letter others =>
      rw [List.mem_cons, not_or] at hk hkelvin
      rw [List.map_cons, List.map_cons, List.cons.injEq, List.cons.injEq, ih hk.2 hkelvin.2,
        foldChar_eq_iff (Ne.symm hk.1) (Ne.symm hkelvin.1)]

/-- Names without a `k` are folded to the same if they have the same letters. -/
theorem fold_eq_fold_iff {other : String} (hk : 'k' ∉ other.toList.map Char.toLower)
    (hkelvin : '\u212a' ∉ other.toList.map Char.toLower) (name : String) :
    fold name = fold other ↔ Text.sameLetters name other := by
  have hother : fold other = other.toList.map Char.toLower :=
    (map_foldChar_eq_iff hk hkelvin _).2 rfl
  rw [hother, fold, map_foldChar_eq_iff hk hkelvin, Text.sameLetters, decide_eq_true_iff]

/-! ## Bytes and characters -/

/-- The bytes of a name, all with the bit in which small letters differ from capitals. -/
def caselessBytes (name : String) : List Nat :=
  name.toByteArray.data.toList.map fun byte => byte.toNat ||| 32

/-- Whether there are ASCII characters only in a name. -/
def isAscii (name : String) : Bool :=
  (caselessBytes name).all (· < 128)

/-- The characters of a name in the same form. -/
def caselessCodes (letters : List Char) : List Nat :=
  letters.map fun c => c.toNat ||| 32

theorem caselessBytes_eq_flatMap (name : String) :
    caselessBytes name = name.toList.flatMap fun c =>
      (String.utf8EncodeChar c).map fun byte => byte.toNat ||| 32 := by
  have hbytes : name.toByteArray.data.toList = name.toList.flatMap String.utf8EncodeChar := by
    conv_lhs => rw [← String.ofList_toList (s := name), String.toByteArray_ofList]
    rw [List.utf8Encode, List.toList_data_toByteArray]
  rw [caselessBytes, hbytes, List.map_flatMap]

/-- Folding an ASCII character changes the case of a letter only. -/
theorem toNat_foldChar_or {c : Char} (h : c.toNat < 128) :
    (foldChar c).toNat ||| 32 = c.toNat ||| 32 := by
  have hall : ∀ n < 128, (foldChar (Char.ofNat n)).toNat ||| 32 = (Char.ofNat n).toNat ||| 32 := by
    decide +kernel
  have hc := hall c.toNat h
  rwa [Char.ofNat_toNat] at hc

/-- All bytes of a character beyond ASCII are larger than those of ASCII. -/
theorem toNat_lt_of_utf8EncodeChar {c : Char}
    (h : ∀ byte ∈ String.utf8EncodeChar c, byte.toNat ||| 32 < 128) : c.toNat < 128 := by
  by_contra hc
  obtain ⟨byte, hbyte, hlarge⟩ : ∃ byte ∈ String.utf8EncodeChar c, 128 ≤ byte.toNat := by
    have hlast : ∀ n, 128 ≤ (UInt8.ofNat (n % 64 + 128)).toNat := by
      intro n
      rw [UInt8.toNat_ofNat']
      omega
    have hv : ¬c.val.toNat ≤ 127 := fun hv => hc (Nat.lt_succ_of_le hv)
    rw [String.utf8EncodeChar]
    simp only [hv, if_false]
    split_ifs
    all_goals exact ⟨_, List.mem_of_getLast? rfl, hlast _⟩
  exact absurd (h byte hbyte) (Nat.not_lt.2 (Nat.le_trans hlarge Nat.left_le_or))

/-- **The bytes of an ASCII name are its folded characters,** up to case. -/
theorem caselessBytes_eq {name : String} (h : isAscii name) :
    caselessBytes name = caselessCodes (fold name) := by
  rw [isAscii, caselessBytes_eq_flatMap, List.all_eq_true] at h
  rw [caselessBytes_eq_flatMap, caselessCodes, fold, List.map_map, List.map_eq_flatMap]
  refine List.flatMap_congr fun c hc => ?_
  have hascii : c.toNat < 128 := by
    refine toNat_lt_of_utf8EncodeChar fun byte hbyte => ?_
    exact of_decide_eq_true (h _ (List.mem_flatMap.2 ⟨c, hc, List.mem_map.2 ⟨byte, hbyte, rfl⟩⟩))
  have hsize : c.utf8Size = 1 := Char.utf8Size_eq_one_iff.2 (Nat.le_of_lt_succ hascii)
  have hbyte : c.val.toUInt8.toNat = c.toNat := by
    rw [UInt32.toNat_toUInt8]
    exact Nat.mod_eq_of_lt (Nat.lt_trans hascii (by decide))
  rw [String.utf8EncodeChar_eq_singleton hsize, List.map_singleton, hbyte, Function.comp_apply,
    toNat_foldChar_or hascii]

/-! ## The tables -/

/-- The rows of a vocabulary. -/
def rows : Namespace → List PropertyInfo
  | .html => sharedProperties ++ htmlProperties
  | .svg => sharedProperties ++ svgProperties

/-- The two names of a property. -/
def PropertyInfo.names (info : PropertyInfo) : List String :=
  [info.propertyName, info.attributeName]

/-- A name as a number to the base of its bytes. -/
def code (name : String) : Nat :=
  (caselessBytes name).foldl (fun high byte => 256 * high + byte) 0

/-- The numbers of the names of a row, which can be the same but for their case. -/
def codes (info : PropertyInfo) : List Nat :=
  if code info.propertyName = code info.attributeName then [code info.propertyName]
  else [code info.propertyName, code info.attributeName]

/-- Whether a name starts with `data`, up to case. -/
def startsLikeData (name : String) : Bool :=
  (caselessCodes ['d', 'a', 't', 'a']).isPrefixOf (caselessBytes name)

/-- The row of the property whose name starts with `data`. -/
def dataRow : Namespace → PropertyInfo
  | .html => ⟨"data", "data", some .html, []⟩
  | .svg => ⟨"dataType", "datatype", some .svg, []⟩

/-- What a run over a table shows: all names are ASCII, their numbers are different as far as their
remainders are the same, and one row only has a name that starts with `data`. -/
theorem rows_tested (space : Namespace) :
    ((rows space).all fun info => info.names.all isAscii) ∧
    (∀ k < 13, (((rows space).flatMap codes).filter fun code => code % 13 == k).Nodup) ∧
    ((rows space).filter fun info => info.names.any startsLikeData) = [dataRow space] := by
  cases space <;> decide +kernel

/-- Numbers are all different if those with the same remainder are. -/
theorem nodup_of_classes {numbers : List Nat} {m : Nat} (hm : 0 < m)
    (h : ∀ k < m, (numbers.filter fun number => number % m == k).Nodup) : numbers.Nodup := by
  rw [List.nodup_iff_count_le_one]
  intro number
  have hclass := List.nodup_iff_count_le_one.1 (h (number % m) (Nat.mod_lt _ hm)) number
  have hcount : (numbers.filter fun other => other % m == number % m).count number =
      numbers.count number := List.count_filter (beq_self_eq_true _)
  rwa [hcount] at hclass

theorem caselessBytes_eq_of_mem {space : Namespace} {info : PropertyInfo} (hrow : info ∈ rows space)
    {name : String} (hname : name ∈ info.names) :
    caselessBytes name = caselessCodes (fold name) := by
  have hnames := List.all_eq_true.1 (rows_tested space).1 info hrow
  exact caselessBytes_eq (List.all_eq_true.1 hnames name hname)

theorem mem_codes {info : PropertyInfo} {name : String} (hname : name ∈ info.names) :
    code name ∈ codes info := by
  rw [codes]
  split
  · rename_i hsame
    rcases List.mem_pair.1 hname with rfl | rfl
    · exact List.mem_singleton_self _
    · exact List.mem_singleton.2 hsame.symm
  · exact List.mem_map_of_mem hname

/-- **No two rows are listed under one name.** -/
theorem eq_of_listed {space : Namespace} {info other : PropertyInfo} (hinfo : info ∈ rows space)
    (hother : other ∈ rows space) {name otherName : String} (hname : name ∈ info.names)
    (hotherName : otherName ∈ other.names) (hfold : fold name = fold otherName) : info = other := by
  have hcode : code name = code otherName := by
    rw [code, code, caselessBytes_eq_of_mem hinfo hname, hfold,
      caselessBytes_eq_of_mem hother hotherName]
  have hnodup := nodup_of_classes (by decide) (rows_tested space).2.1
  have hdisjoint : (rows space).Pairwise (Function.onFun List.Disjoint codes) :=
    (List.nodup_flatMap.1 hnodup).2
  have hsymm : Std.Symm (Function.onFun List.Disjoint codes) :=
    ⟨fun _ _ h _ hright hleft => h hleft hright⟩
  by_contra hne
  refine hdisjoint.forall hinfo hother hne (mem_codes hname) ?_
  rw [hcode]
  exact mem_codes hotherName

/-- What is found under a key is listed under it. -/
theorem mem_of_lookup {α β : Type} [BEq α] [LawfulBEq α] {key : α} {value : β}
    {entries : List (α × β)} (h : entries.lookup key = some value) : (key, value) ∈ entries := by
  obtain ⟨before, after, rfl, -⟩ := List.lookup_eq_some_iff.1 h
  exact List.mem_append_right _ List.mem_cons_self

theorem mem_index_iff {space : Namespace} {key : List Char} {info : PropertyInfo} :
    (key, info) ∈ index space ↔
      info ∈ rows space ∧ (key = fold info.propertyName ∨ key = fold info.attributeName) := by
  have hindex : index space = indexOf (rows space) := by cases space <;> rfl
  rw [hindex, indexOf, List.mem_flatMap]
  constructor
  · rintro ⟨row, hrow, hentry⟩
    rcases List.mem_cons.1 hentry with hentry | hentry
    · obtain ⟨rfl, rfl⟩ := Prod.mk.inj hentry
      exact ⟨hrow, Or.inl rfl⟩
    · obtain ⟨rfl, rfl⟩ := Prod.mk.inj (List.mem_singleton.1 hentry)
      exact ⟨hrow, Or.inr rfl⟩
  · rintro ⟨hrow, rfl | rfl⟩
    · exact ⟨info, hrow, List.mem_cons_self⟩
    · exact ⟨info, hrow, List.mem_cons_of_mem _ (List.mem_singleton_self _)⟩

/-- The row that is found under a name has that name, up to case. -/
theorem exists_listed_of_row? {space : Namespace} {name : String} {info : PropertyInfo}
    (h : row? space name = some info) :
    info ∈ rows space ∧ ∃ listed ∈ info.names, fold name = fold listed := by
  obtain ⟨hrow, hkey⟩ := mem_index_iff.1 (mem_of_lookup h)
  refine ⟨hrow, ?_⟩
  rcases hkey with hkey | hkey
  · exact ⟨info.propertyName, List.mem_cons_self, hkey⟩
  · exact ⟨info.attributeName, List.mem_cons_of_mem _ List.mem_cons_self, hkey⟩

/-- **A row is found under either of its names,** in any case. -/
theorem row?_of_listed {space : Namespace} {info : PropertyInfo} (hrow : info ∈ rows space)
    {name listed : String} (hlisted : listed ∈ info.names) (hname : fold name = fold listed) :
    row? space name = some info := by
  have hentry : (fold name, info) ∈ index space := by
    rw [mem_index_iff, hname]
    exact ⟨hrow, (List.mem_pair.1 hlisted).imp (congrArg fold) (congrArg fold)⟩
  cases hlookup : row? space name with
  | none => exact absurd rfl (bne_iff_ne.1 (List.lookup_eq_none_iff.1 hlookup _ hentry))
  | some other =>
    obtain ⟨hother, otherName, hotherName, hsame⟩ := exists_listed_of_row? hlookup
    rw [eq_of_listed hother hrow hotherName hlisted (hsame.symm.trans hname)]

/-! ## Names that start with `data` -/

/-- **Only one row is listed under a name that starts with `data`.** -/
theorem eq_dataRow {space : Namespace} {info : PropertyInfo} (hrow : info ∈ rows space)
    {name : String} (hname : name ∈ info.names) {rest : List Char}
    (hdata : fold name = ['d', 'a', 't', 'a'] ++ rest) : info = dataRow space := by
  have hstarts : startsLikeData name := by
    rw [startsLikeData, List.isPrefixOf_iff_prefix, caselessBytes_eq_of_mem hrow hname, hdata]
    exact ⟨caselessCodes rest, List.map_append.symm⟩
  have hmem : info ∈ (rows space).filter fun info => info.names.any startsLikeData :=
    List.mem_filter.2 ⟨hrow, List.any_eq_true.2 ⟨name, hname, hstarts⟩⟩
  rw [(rows_tested space).2.2] at hmem
  exact List.mem_singleton.1 hmem

theorem dataRow_mem_rows (space : Namespace) : dataRow space ∈ rows space := by
  have hmem : dataRow space ∈ [dataRow space] := List.mem_singleton_self _
  rw [← (rows_tested space).2.2] at hmem
  exact (List.mem_filter.1 hmem).1

/-- The names of this row are the same up to case. -/
theorem fold_of_mem_dataRow {space : Namespace} {name : String}
    (hname : name ∈ (dataRow space).names) :
    fold name = fold (dataRow space).attributeName := by
  have hall : ∀ name ∈ (dataRow space).names, fold name = fold (dataRow space).attributeName := by
    cases space <;> decide
  exact hall name hname

/-- **No other name that starts with `data` is listed.** -/
theorem row?_of_data {space : Namespace} {name : String} {rest : List Char}
    (hdata : fold name = ['d', 'a', 't', 'a'] ++ rest) :
    row? space name =
      if fold name = fold (dataRow space).attributeName then some (dataRow space) else none := by
  split
  · rename_i hname
    exact row?_of_listed (dataRow_mem_rows space) (List.mem_cons_of_mem _ List.mem_cons_self) hname
  · rename_i hname
    cases hlookup : row? space name with
    | none => rfl
    | some info =>
      obtain ⟨hrow, listed, hlisted, hsame⟩ := exists_listed_of_row? hlookup
      obtain rfl := eq_dataRow hrow hlisted (hsame.symm.trans hdata)
      exact absurd (hsame.trans (fold_of_mem_dataRow hlisted)) hname

end Vocabulary
end MarkupJsx
