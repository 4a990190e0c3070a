/-!
# Names of elements and attributes

A written name has structure.  Dots make it a chain of members, `a.b.c`, which nests to the left;
a colon, where there is no dot, makes it a name in a namespace, `a:b`; anything else is one
identifier.  A name of an attribute has no members, so dots mean nothing in it.

No character is judged here: the parts of a name may be empty, and may be no identifiers at all.
-/

namespace MarkupJsx
namespace Jsx

/-- What a member is taken from: an identifier, or a member of something else. -/
inductive MemberObject where
  | identifier (name : String)
  | member (object : MemberObject) (property : String)
  deriving DecidableEq, Inhabited

/-- The name of an element. -/
inductive ElementName where
  | identifier (name : String)
  | member (object : MemberObject) (property : String)
  | namespaced (space name : String)
  deriving DecidableEq, Inhabited

/-- The name of an attribute. -/
inductive AttributeName where
  | identifier (name : String)
  | namespaced (space name : String)
  deriving DecidableEq, Inhabited

/-- The parts of a text between separators: always one more than there are separators. -/
def splitParts (separator : Char) : List Char → List (List Char)
  | [] => [[]]
  | c :: rest =>
    if c = separator then [] :: splitParts separator rest
    else
      match splitParts separator rest with
      | [] => [[c]]
      | part :: parts => (c :: part) :: parts

/-- The two sides of the first separator of a text, if it has one. -/
def splitFirst? (separator : Char) : List Char → Option (List Char × List Char)
  | [] => none
  | c :: rest =>
    if c = separator then some ([], rest)
    else (splitFirst? separator rest).map fun sides => (c :: sides.1, sides.2)

/-- The chain of members with given parts, taken from left to right. -/
def ElementName.chain (object : MemberObject) (property : String) : List String → ElementName
  | [] => .member object property
  | next :: rest => chain (.member object property) next rest

/-- The name of an element, from its written form. -/
def ElementName.ofString (raw : String) : ElementName :=
  match (splitParts '.' raw.toList).map String.ofList with
  | object :: property :: rest => chain (.identifier object) property rest
  | _ =>
    match splitFirst? ':' raw.toList with
    | some (space, name) => .namespaced (String.ofList space) (String.ofList name)
    | none => .identifier raw

/-- The name of an attribute, from its written form. -/
def AttributeName.ofString (raw : String) : AttributeName :=
  match splitFirst? ':' raw.toList with
  | some (space, name) => .namespaced (String.ofList space) (String.ofList name)
  | none => .identifier raw

/-- A member object as it is written. -/
def MemberObject.toString : MemberObject → String
  | identifier name => name
  | member object property => object.toString ++ "." ++ property

/-- The name of an element as it is written. -/
def ElementName.toString : ElementName → String
  | identifier name => name
  | member object property => object.toString ++ "." ++ property
  | namespaced space name => space ++ ":" ++ name

/-- The name of an attribute as it is written. -/
def AttributeName.toString : AttributeName → String
  | identifier name => name
  | namespaced space name => space ++ ":" ++ name

/-- A text has parts. -/
theorem splitParts_ne_nil (separator : Char) (text : List Char) :
    splitParts separator text ≠ [] := by
  cases text with
  | nil => simp [splitParts]
  | cons c rest =>
    unfold splitParts
    split
    · simp
    · split <;> simp

/-- The parts of a text, with the separator between them, are the text. -/
theorem intercalate_splitParts (separator : Char) (text : List Char) :
    [separator].intercalate (splitParts separator text) = text := by
  induction text with
  | nil => rfl
  | cons c rest ih =>
    obtain ⟨part, parts, hparts⟩ := List.exists_cons_of_ne_nil (splitParts_ne_nil separator rest)
    rw [splitParts, hparts]
    rw [hparts] at ih
    by_cases h : c = separator
    · rw [if_pos h, List.intercalate_cons_cons, ih, h]
      rfl
    · rw [if_neg h]
      show [separator].intercalate ((c :: part) :: parts) = c :: rest
      rw [List.intercalate_cons_cons_left, ih]

/-- The two sides of the first separator, with the separator between them, are the text. -/
theorem eq_append_of_splitFirst? {separator : Char} {text left right : List Char}
    (h : splitFirst? separator text = some (left, right)) :
    text = left ++ separator :: right := by
  induction text generalizing left with
  | nil => simp [splitFirst?] at h
  | cons c rest ih =>
    rw [splitFirst?] at h
    split at h
    · rename_i hc
      obtain ⟨rfl, rfl⟩ := Prod.mk.inj (Option.some.inj h)
      rw [hc, List.nil_append]
    · obtain ⟨sides, hsides, hpair⟩ := Option.map_eq_some_iff.1 h
      obtain ⟨rfl, rfl⟩ := Prod.mk.inj hpair
      rw [ih hsides, List.cons_append]

/-- A chain of members is written with dots between its parts. -/
theorem ElementName.toString_chain (object : MemberObject) (property : String)
    (rest : List String) :
    (chain object property rest).toString =
      ".".intercalate (object.toString :: property :: rest) := by
  induction rest generalizing object property with
  | nil => simp [chain, ElementName.toString]
  | cons next rest ih =>
    rw [chain, ih, MemberObject.toString]
    simp [String.append_assoc]

/-- A name without members is written as it was read. -/
theorem append_of_splitFirst? {raw : String} {space name : List Char}
    (h : splitFirst? ':' raw.toList = some (space, name)) :
    String.ofList space ++ ":" ++ String.ofList name = raw := by
  apply String.toList_injective
  rw [eq_append_of_splitFirst? h]
  simp

/-- **The name of an element is written as it was read.** -/
@[simp] theorem ElementName.toString_ofString (raw : String) :
    (ElementName.ofString raw).toString = raw := by
  have hparts : ".".intercalate ((splitParts '.' raw.toList).map String.ofList) = raw := by
    apply String.toList_injective
    rw [String.toList_intercalate]
    simpa [Function.comp_def] using intercalate_splitParts '.' raw.toList
  rw [ElementName.ofString]
  split
  · rename_i object property rest heq
    rw [ElementName.toString_chain, ← hparts, heq]
    rfl
  · split
    · rename_i space name hsplit
      exact append_of_splitFirst? hsplit
    · rfl

end Jsx
end MarkupJsx
