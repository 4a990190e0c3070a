import Mathlib.Data.List.Basic
import MarkupJsx.Tree.Decode

/-!
# A malformed child spoils nothing else

The fields of a node are read all or nothing: a single field of the wrong shape makes the whole node
malformed.  The children are the one exception.  Each item of the array is read as a node of its own
and reading a node never fails, so the other fields alone decide whether a node is malformed
(`parentOf?`), and what stands in the array decides nothing but the children.

So a change inside a tree of JSON values changes the tree of nodes in the same place and nowhere
else.  A place is named by the indices of the children on the way to it (`List Nat`).

* `Json.Reaches`: a value that is reached by a way through nodes that are well-formed.
* `Json.replaceAt`, `Node.replaceAt`: another value, another node, at the end of a way.
* `Node.descendant?_replaceAt_of_not_prefix`, `Node.map_own_descendant?_replaceAt`: what such a
  change leaves as it was: all nodes beside the way, and the nodes on the way but for their
  children.

The main statement is `ofJson_children_local`: **what is wrong with a child stays with it.**
-/

namespace MarkupJsx

/-! ## Fields read past the children -/

namespace Json

variable {α : Type} {key other : String} (h : key ≠ other) (fields : Entries Json) (value : Json)
include h

theorem required_insert_of_ne (decode : Json → Option α) :
    required (Entries.insert other value fields) key decode = required fields key decode :=
  required_congr (Entries.get?_insert_of_ne h value fields) decode

theorem defaulted_insert_of_ne (default : α) (decode : Json → Option α) :
    defaulted (Entries.insert other value fields) key default decode =
      defaulted fields key default decode :=
  defaulted_congr (Entries.get?_insert_of_ne h value fields) default decode

theorem optional_insert_of_ne (decode : Json → Option α) :
    optional (Entries.insert other value fields) key decode = optional fields key decode :=
  optional_congr (Entries.get?_insert_of_ne h value fields) decode

end Json

theorem Source.ofFields?_insert_children (fields : Entries Json) (value : Json) :
    Source.ofFields? (Entries.insert "children" value fields) = Source.ofFields? fields := by
  rw [Source.ofFields?, Source.ofFields?, Json.optional_insert_of_ne (by decide),
    Json.optional_insert_of_ne (by decide)]

namespace Node

/-- The kinds of node that have children. -/
def parentKinds : List String :=
  ["root", "element", "mdxJsxFlowElement", "mdxJsxTextElement"]

/-- Whether a node is malformed. -/
def isMalformed : Node → Bool
  | malformed _ => true
  | _ => false

/-- Reads a node of a kind that has children from its fields and its children. -/
def parentOf? (kind : String) (fields : Entries Json) (children : List Node) : Option Node :=
  match kind with
  | "root" => rootOf? fields children
  | "element" => elementOf? fields children
  | "mdxJsxFlowElement" => componentOf? .flow fields children
  | "mdxJsxTextElement" => componentOf? .text fields children
  | _ => none

/-- The array of children is not among the fields that are read here. -/
theorem parentOf?_insert_children (kind : String) (fields : Entries Json) (value : Json)
    (children : List Node) :
    parentOf? kind (Entries.insert "children" value fields) children =
      parentOf? kind fields children := by
  have hcomponent : ∀ placement,
      componentOf? placement (Entries.insert "children" value fields) children =
        componentOf? placement fields children := by
    intro placement
    rw [componentOf?, componentOf?, Source.ofFields?_insert_children,
      Json.optional_insert_of_ne (by decide), Json.defaulted_insert_of_ne (by decide)]
  unfold parentOf?
  split
  · rw [rootOf?, rootOf?, Source.ofFields?_insert_children]
  · rw [elementOf?, elementOf?, Source.ofFields?_insert_children,
      Json.required_insert_of_ne (by decide), Json.defaulted_insert_of_ne (by decide)]
  · exact hcomponent .flow
  · exact hcomponent .text
  · rfl

/-- **Whether a node is read does not depend on its children,** and these are all that depends on
them. -/
theorem parentOf?_eq (kind : String) (fields : Entries Json) (children : List Node) :
    parentOf? kind fields children = (parentOf? kind fields []).map (withChildren children) := by
  have hcomponent : ∀ placement, componentOf? placement fields children =
      (componentOf? placement fields []).map (withChildren children) := by
    intro placement
    rw [componentOf?, componentOf?]
    cases Json.optional fields "name" Json.string? with
    | none => rfl
    | some name =>
      cases Json.defaulted fields "attributes" [] (Json.listOf? ComponentAttribute.ofJson?) with
      | none => rfl
      | some attributes => cases Source.ofFields? fields <;> rfl
  unfold parentOf?
  split
  · rw [rootOf?, rootOf?]
    cases Source.ofFields? fields <;> rfl
  · rw [elementOf?, elementOf?]
    cases Json.required fields "tagName" Json.string? with
    | none => rfl
    | some tagName =>
      cases Json.defaulted fields "properties" [] (Json.entriesOf? PropertyValue.ofJson?) with
      | none => rfl
      | some properties => cases Source.ofFields? fields <;> rfl
  · exact hcomponent .flow
  · exact hcomponent .text
  · rfl

/-- A node that is read has the children that it is read with. -/
theorem children_of_parentOf? {kind : String} {fields : Entries Json} {children : List Node}
    {node : Node} (h : parentOf? kind fields children = some node) :
    node.children = children ∧ node.isMalformed = false := by
  have hcomponent : ∀ {placement}, componentOf? placement fields children = some node →
      node.children = children ∧ node.isMalformed = false := by
    intro placement h
    obtain ⟨name, -, h⟩ := Option.bind_eq_some_iff.1 h
    obtain ⟨attributes, -, h⟩ := Option.bind_eq_some_iff.1 h
    obtain ⟨source, -, h⟩ := Option.bind_eq_some_iff.1 h
    rw [← Option.some.inj h]
    exact ⟨rfl, rfl⟩
  unfold parentOf? at h
  split at h
  · obtain ⟨source, -, h⟩ := Option.bind_eq_some_iff.1 h
    rw [← Option.some.inj h]
    exact ⟨rfl, rfl⟩
  · obtain ⟨tagName, -, h⟩ := Option.bind_eq_some_iff.1 h
    obtain ⟨properties, -, h⟩ := Option.bind_eq_some_iff.1 h
    obtain ⟨source, -, h⟩ := Option.bind_eq_some_iff.1 h
    rw [← Option.some.inj h]
    exact ⟨rfl, rfl⟩
  · exact hcomponent h
  · exact hcomponent h
  · exact nomatch h

/-! ## Nodes with an array of children -/

section Parents

variable {fields : Entries Json} {kind : String} (hkind : kind ∈ parentKinds)
  (htype : Entries.get? "type" fields = some (.string kind))
include hkind htype

theorem ofJson_of_parentKind :
    ofJson (.object fields) =
      ((childrenOf? fields).bind (parentOf? kind fields)).getD (malformed (.object fields)) := by
  rw [ofJson, htype]
  simp only [parentKinds, List.mem_cons, List.not_mem_nil, or_false] at hkind
  rcases hkind with rfl | rfl | rfl | rfl <;> rfl

/-- A node is read apart from its array of children, and these are read one by one. -/
theorem ofJson_insert_children (items : List Json) :
    ofJson (.object (Entries.insert "children" (.array items) fields)) =
      ((parentOf? kind fields []).map (withChildren (items.map ofJson))).getD
        (malformed (.object (Entries.insert "children" (.array items) fields))) := by
  have hsame : Entries.get? "type" (Entries.insert "children" (.array items) fields) =
      some (.string kind) := by
    rw [Entries.get?_insert_of_ne (by decide), htype]
  have hchildren : childrenOf? (Entries.insert "children" (.array items) fields) =
      some (items.map ofJson) := by
    rw [childrenOf?_eq, Json.defaulted, Entries.get?_insert_self]
    rfl
  rw [ofJson_of_parentKind hkind hsame, hchildren, Option.bind_some, parentOf?_insert_children,
    parentOf?_eq]

end Parents

/-! ## Nodes inside a node -/

/-- What a node has of its own: everything but its children. -/
def own (node : Node) : Node :=
  node.withChildren []

/-- The node at the end of a way, which names the index of a child at each step. -/
def descendant? : List Nat → Node → Option Node
  | [], node => some node
  | index :: way, node => node.children[index]?.bind (descendant? way)

/-- A node with another one at the end of a way. -/
def replaceAt (other : Node) : List Nat → Node → Node
  | [], _ => other
  | index :: way, node => node.withChildren (node.children.modify index (replaceAt other way))

variable (other : Node)

@[simp] theorem children_replaceAt_cons (index : Nat) (way : List Nat) (node : Node) :
    (replaceAt other (index :: way) node).children =
      node.children.modify index (replaceAt other way) := by
  cases node <;> simp [replaceAt, withChildren, children]

@[simp] theorem own_replaceAt_cons (index : Nat) (way : List Nat) (node : Node) :
    (replaceAt other (index :: way) node).own = node.own :=
  withChildren_withChildren node _ []

/-- At the end of the way there is the other node. -/
theorem descendant?_replaceAt_self {way : List Nat} {node found : Node}
    (h : descendant? way node = some found) :
    descendant? way (replaceAt other way node) = some other := by
  induction way generalizing node with
  | nil => rfl
  | cons index way ih =>
    obtain ⟨child, hchild, hinside⟩ := Option.bind_eq_some_iff.1 h
    rw [descendant?, children_replaceAt_cons, List.getElem?_modify_eq, hchild]
    exact ih hinside

/-- Beside the way all nodes are as they were. -/
theorem descendant?_replaceAt_of_not_prefix {way beside : List Nat} (hway : ¬way <+: beside)
    (hbeside : ¬beside <+: way) (node : Node) :
    descendant? beside (replaceAt other way node) = descendant? beside node := by
  induction way generalizing beside node with
  | nil => exact absurd List.nil_prefix hway
  | cons index way ih =>
    cases beside with
    | nil => exact absurd List.nil_prefix hbeside
    | cons turn beside =>
      rw [descendant?, descendant?, children_replaceAt_cons]
      by_cases hturn : index = turn
      · have hinside : ∀ child,
            descendant? beside (replaceAt other way child) = descendant? beside child :=
          ih (fun h => hway (List.cons_prefix_cons.2 ⟨hturn, h⟩))
            fun h => hbeside (List.cons_prefix_cons.2 ⟨hturn.symm, h⟩)
        rw [← hturn, List.getElem?_modify_eq]
        cases node.children[index]? with
        | none => rfl
        | some child => exact hinside child
      · rw [List.getElem?_modify_ne _ _ hturn]

/-- On the way the nodes keep what they have of their own. -/
theorem map_own_descendant?_replaceAt {way above : List Nat} (habove : above <+: way)
    (hne : above ≠ way) (node : Node) :
    (descendant? above (replaceAt other way node)).map own =
      (descendant? above node).map own := by
  induction above generalizing way node with
  | nil =>
    cases way with
    | nil => exact absurd rfl hne
    | cons index way => exact congrArg some (own_replaceAt_cons other index way node)
  | cons turn above ih =>
    cases way with
    | nil => exact absurd habove (by simp)
    | cons index way =>
      obtain ⟨rfl, hinside⟩ := List.cons_prefix_cons.1 habove
      rw [descendant?, descendant?, children_replaceAt_cons, List.getElem?_modify_eq]
      cases node.children[turn]? with
      | none => rfl
      | some child => exact ih hinside (fun h => hne (congrArg (turn :: ·) h)) child

end Node

/-! ## Values inside a value -/

namespace Json

/-- An object with an array of children. -/
def withItems (fields : Entries Json) (items : List Json) : Json :=
  .object (Entries.insert "children" (.array items) fields)

/-- A value with another one at the end of a way through arrays of children. -/
def replaceAt (other : Json) : List Nat → Json → Json
  | [], _ => other
  | index :: way, .object fields =>
    match Entries.get? "children" fields with
    | some (.array items) => withItems fields (items.modify index (replaceAt other way))
    | _ => .object fields
  | _ :: _, value => value

/-- A value is reached by a way through arrays of children if each node on the way to it is of a
kind that has children, and is well-formed. -/
inductive Reaches : Json → List Nat → Json → Prop
  | here (value : Json) : Reaches value [] value
  | inside {fields : Entries Json} {kind : String} {items : List Json} {index : Nat}
      {child value : Json} {way : List Nat} (hkind : kind ∈ Node.parentKinds)
      (htype : Entries.get? "type" fields = some (.string kind))
      (hformed : (Node.ofJson (.object fields)).isMalformed = false)
      (hitems : Entries.get? "children" fields = some (.array items))
      (hchild : items[index]? = some child) (hinside : Reaches child way value) :
      Reaches (.object fields) (index :: way) value

end Json

namespace Node

/-- A change of one item is a change of what is read of that item. -/
theorem map_modify_of_getElem? {α β : Type} {read : α → β} {change : α → α} {changed : β → β}
    {items : List α} {index : Nat} {item : α} (hitem : items[index]? = some item)
    (h : read (change item) = changed (read item)) :
    (items.modify index change).map read = (items.map read).modify index changed := by
  induction items generalizing index with
  | nil => exact nomatch hitem
  | cons first rest ih =>
    cases index with
    | zero =>
      rw [← Option.some.inj hitem] at h
      exact congrArg (· :: rest.map read) h
    | succ index => exact congrArg (read first :: ·) (ih hitem)

/-- **The other fields decide.**  With any array of children the node is malformed, or with every
array it is the same but for the children, which are what the items are read as. -/
theorem malformed_or_parent {fields : Entries Json} {kind : String} (hkind : kind ∈ parentKinds)
    (htype : Entries.get? "type" fields = some (.string kind)) :
    (∀ items, ofJson (Json.withItems fields items) = malformed (Json.withItems fields items)) ∨
      ∃ parent : Node, ∀ items : List Json,
        ofJson (Json.withItems fields items) = parent.withChildren (items.map ofJson) ∧
          (parent.withChildren (items.map ofJson)).children = items.map ofJson ∧
          (parent.withChildren (items.map ofJson)).isMalformed = false := by
  have hread := fun items => ofJson_insert_children hkind htype items
  cases hparent : parentOf? kind fields [] with
  | none =>
    left
    intro items
    rw [Json.withItems, hread, hparent]
    rfl
  | some parent =>
    right
    refine ⟨parent, fun items => ?_⟩
    have hwith := parentOf?_eq kind fields (items.map ofJson)
    rw [hparent] at hwith
    refine ⟨?_, children_of_parentOf? hwith⟩
    rw [Json.withItems, hread, hparent]
    rfl

/-- A node that is well-formed has been read with the nodes of its array of children. -/
theorem children_of_formed {fields : Entries Json} {kind : String} {items : List Json}
    (hkind : kind ∈ parentKinds) (htype : Entries.get? "type" fields = some (.string kind))
    (hformed : (ofJson (.object fields)).isMalformed = false)
    (hitems : Entries.get? "children" fields = some (.array items)) :
    (ofJson (.object fields)).children = items.map ofJson ∧
      ∀ others, ofJson (Json.withItems fields others) =
        (ofJson (.object fields)).withChildren (others.map ofJson) := by
  have hsame : Json.withItems fields items = .object fields :=
    congrArg Json.object (Entries.insert_of_get? hitems)
  rw [← hsame] at hformed ⊢
  rcases malformed_or_parent hkind htype with hmalformed | ⟨parent, hparent⟩
  · rw [hmalformed] at hformed
    exact nomatch hformed
  · obtain ⟨hread, hchildren, -⟩ := hparent items
    rw [hread]
    refine ⟨hchildren, fun others => ?_⟩
    rw [(hparent others).1, withChildren_withChildren]

/-- A value that is reached is read as the node that is reached. -/
theorem descendant?_ofJson {json value : Json} {way : List Nat} (h : Json.Reaches json way value) :
    descendant? way (ofJson json) = some (ofJson value) := by
  induction h with
  | here value => rfl
  | inside hkind htype hformed hitems hchild _ ih =>
    obtain ⟨hchildren, -⟩ := children_of_formed hkind htype hformed hitems
    rw [descendant?, hchildren, List.getElem?_map, hchild]
    exact ih

/-- **A change in a value is a change of the node in the same place.** -/
theorem ofJson_replaceAt {json value : Json} {way : List Nat} (h : Json.Reaches json way value)
    (other : Json) :
    ofJson (Json.replaceAt other way json) = replaceAt (ofJson other) way (ofJson json) := by
  induction h with
  | here value => rfl
  | @inside fields kind items index child value way hkind htype hformed hitems hchild hinside ih =>
    obtain ⟨hchildren, hothers⟩ := children_of_formed hkind htype hformed hitems
    have hchanged : Json.replaceAt other (index :: way) (.object fields) =
        Json.withItems fields (items.modify index (Json.replaceAt other way)) := by
      rw [Json.replaceAt, hitems]
    rw [hchanged, hothers, replaceAt, hchildren, map_modify_of_getElem? hchild ih]

/-- **A malformed child spoils nothing else.**  Take the fields of a node of a kind that has
children, whatever else they are.  Whether the node is malformed is the same with any array of
children as with an empty one; if it is not, then its children are what the items are read as, one
by one, and all else about it is the same; if it is, then it keeps the whole value.  So if, in any
value, another value is put in a place that is reached through well-formed nodes, then the node that
is read in this place is the one that is read of the other value, the nodes beside the way to it are
as they were, and the nodes on the way have new children and nothing else that is new. -/
theorem ofJson_children_local :
    (∀ (fields : Entries Json) (kind : String) (items : List Json), kind ∈ parentKinds →
      Entries.get? "type" fields = some (.string kind) →
      ((ofJson (Json.withItems fields items)).isMalformed ↔
        (ofJson (Json.withItems fields [])).isMalformed) ∧
      ((ofJson (Json.withItems fields [])).isMalformed = false →
        ofJson (Json.withItems fields items) =
            (ofJson (Json.withItems fields [])).withChildren (items.map ofJson) ∧
          (ofJson (Json.withItems fields items)).children = items.map ofJson) ∧
      ((ofJson (Json.withItems fields [])).isMalformed →
        ∀ items, ofJson (Json.withItems fields items) =
          malformed (Json.withItems fields items))) ∧
    ∀ (json value : Json) (way : List Nat), Json.Reaches json way value →
      descendant? way (ofJson json) = some (ofJson value) ∧
      ∀ other : Json,
        let changed := ofJson (Json.replaceAt other way json)
        changed = replaceAt (ofJson other) way (ofJson json) ∧
        descendant? way changed = some (ofJson other) ∧
        (∀ beside, ¬way <+: beside → ¬beside <+: way →
          descendant? beside changed = descendant? beside (ofJson json)) ∧
        ∀ above, above <+: way → above ≠ way →
          (descendant? above changed).map own = (descendant? above (ofJson json)).map own := by
  constructor
  · intro fields kind items hkind htype
    rcases malformed_or_parent hkind htype with hmalformed | ⟨parent, hparent⟩
    · refine ⟨?_, fun hformed => ?_, fun _ => hmalformed⟩
      · rw [hmalformed, hmalformed]
        rfl
      · rw [hmalformed] at hformed
        exact nomatch hformed
    · obtain ⟨hread, hchildren, hformed⟩ := hparent items
      obtain ⟨hempty, -, hemptyFormed⟩ := hparent []
      refine ⟨?_, fun _ => ⟨?_, ?_⟩, fun hmalformed => ?_⟩
      · rw [hread, hempty, hformed, hemptyFormed]
      · rw [hread, hempty, withChildren_withChildren]
      · rw [hread, hchildren]
      · rw [hempty, hemptyFormed] at hmalformed
        exact nomatch hmalformed
  · intro json value way hreaches
    have hfound := descendant?_ofJson hreaches
    refine ⟨hfound, fun other => ?_⟩
    intro changed
    have hchanged : changed = replaceAt (ofJson other) way (ofJson json) :=
      ofJson_replaceAt hreaches other
    refine ⟨hchanged, ?_, fun beside hway hbeside => ?_, fun above habove hne => ?_⟩
    · rw [hchanged]
      exact descendant?_replaceAt_self (ofJson other) hfound
    · rw [hchanged]
      exact descendant?_replaceAt_of_not_prefix (ofJson other) hway hbeside (ofJson json)
    · rw [hchanged]
      exact map_own_descendant?_replaceAt (ofJson other) habove hne (ofJson json)

/-- A root with an element, which has a given child and a text, and with a comment. -/
def documentAround (child : Json) : Json :=
  .object [("type", .string "root"), ("children", .array [
    .object [("children", .array [child, .object [("type", .string "text")]]),
      ("type", .string "element"), ("tagName", .string "p")],
    .object [("type", .string "comment")]])]

theorem ofJson_children_local_document :
    let formed : Entries Json := [("type", .string "element"), ("tagName", .string "p")]
    let broken : Entries Json := [("type", .string "element"), ("tagName", .null)]
    let document := ofJson (documentAround .null)
    let changed := ofJson (documentAround (.array []))
    ofJson (Json.withItems formed [.null, .array []]) =
        .element {} "p" [] [malformed .null, malformed (.array [])] ∧
      ofJson (Json.withItems broken [.null]) = malformed (Json.withItems broken [.null]) ∧
      Json.Reaches (documentAround .null) [0, 0] .null ∧
      descendant? [0, 0] changed = some (malformed (.array [])) ∧
      descendant? [0, 1] changed = descendant? [0, 1] document ∧
      descendant? [1] changed = descendant? [1] document ∧
      (descendant? [0] changed).map own = (descendant? [0] document).map own := by
  intro formed broken document changed
  obtain ⟨hitems, hplaces⟩ := ofJson_children_local
  have hkind : "element" ∈ parentKinds := by decide
  have hformed := (hitems formed "element" [.null, .array []] hkind rfl).2.1 rfl
  have hbroken := (hitems broken "element" [.null] hkind rfl).2.2 rfl
  have hreaches : Json.Reaches (documentAround .null) [0, 0] .null :=
    .inside (by decide : "root" ∈ parentKinds) rfl rfl rfl rfl
      (.inside hkind rfl rfl rfl rfl (.here .null))
  obtain ⟨-, hother, hbeside, habove⟩ := (hplaces _ _ _ hreaches).2 (.array [])
  exact ⟨hformed.1, hbroken [.null], hreaches, hother, hbeside [0, 1] (by decide) (by decide),
    hbeside [1] (by decide) (by decide), habove [0] (by decide) (by decide)⟩

end Node
end MarkupJsx
