import MarkupJsx.Proofs.Tree.Locality
import MarkupJsx.Tree.Origin

/-!
# Attached data is kept whole

Whatever carries data is read in the same way: its own fields from their keys, and the data from
`data`.  The data is an object, and reading it cannot fail, since a script that cannot be read
counts as absent.  So an object of data spoils nothing, and nothing else is read from it: a node
with data is the node without it, with the data put there (`ReadsData`).  This is said once of the
readers that readers are made of, and then holds of every kind of node (`readsData_readAs`), of the
attributes of components and of the values of these.

What is passed on is the data without its script.  `KeepsWhole` says so of the object that was read:
all fields but `estree`, in their order, and nothing at all if there is no other.  The main
statement is `ofJson_keeps_data`.
-/

namespace MarkupJsx

/-- The data with given fields. -/
def Attachment.ofFields (fields : Entries Json) : Attachment :=
  { script := scriptOf fields, fields := Entries.erase "estree" fields }

/-- What carries data, with other data. -/
def Source.withData (attachment : Attachment) (source : Source) : Source :=
  { source with data := some attachment }

/-- Whether the data that is passed on is a given object without its script, and no data if there is
nothing else in it. -/
def Source.KeepsWhole (data : Entries Json) (source : Source) : Prop :=
  let others := data.filter fun field => field.1 ≠ "estree"
  (others = [] → source.origin.data = none) ∧ (others ≠ [] → source.origin.data = some others)

theorem Source.keepsWhole_withData (data : Entries Json) (source : Source) :
    (source.withData (.ofFields data)).KeepsWhole data := by
  have hdata : (source.withData (.ofFields data)).origin.data =
      if (data.filter fun field => field.1 ≠ "estree").isEmpty then none
      else some (data.filter fun field => field.1 ≠ "estree") := rfl
  constructor
  · intro hnone
    rw [hdata, hnone]
    rfl
  · intro hsome
    rw [hdata, if_neg (mt List.isEmpty_iff.1 hsome)]

/-! ## Readers -/

section Readers

variable {α β : Type}

/-- Whether a reader does not look at the data. -/
def PassesData (read : Entries Json → Option β) : Prop :=
  ∀ fields, read (Entries.erase "data" fields) = read fields

/-- Whether a reader gets the data of an object from its field, puts it into what it reads, and gets
nothing else from there; and something holds of all that it reads. -/
structure ReadsData (put : Attachment → α → α) (P : α → Prop)
    (read : Entries Json → Option α) : Prop where
  whole : ∀ {fields data : Entries Json}, Entries.get? "data" fields = some (.object data) →
    read fields = (read (Entries.erase "data" fields)).map (put (.ofFields data))
  holds : ∀ {fields : Entries Json} {value : α}, read fields = some value → P value

theorem passesData_required {key : String} (h : key ≠ "data") (decode : Json → Option β) :
    PassesData fun fields => Json.required fields key decode :=
  fun fields => Json.required_congr (Entries.get?_erase_of_ne h fields) decode

theorem passesData_defaulted {key : String} (h : key ≠ "data") (default : β)
    (decode : Json → Option β) :
    PassesData fun fields => Json.defaulted fields key default decode :=
  fun fields => Json.defaulted_congr (Entries.get?_erase_of_ne h fields) default decode

theorem passesData_optional {key : String} (h : key ≠ "data") (decode : Json → Option β) :
    PassesData fun fields => Json.optional fields key decode :=
  fun fields => Json.optional_congr (Entries.get?_erase_of_ne h fields) decode

theorem passesData_childrenOf? : PassesData Node.childrenOf? := by
  intro fields
  rw [Node.childrenOf?_eq, Node.childrenOf?_eq]
  exact passesData_defaulted (by decide) [] _ fields

/-- **An object of data is read, whatever is in it,** and the position is read as it is without. -/
theorem Source.ofFields?_of_data {fields data : Entries Json}
    (h : Entries.get? "data" fields = some (.object data)) :
    Source.ofFields? fields =
      (Source.ofFields? (Entries.erase "data" fields)).map (Source.withData (.ofFields data)) := by
  have hposition : Json.optional (Entries.erase "data" fields) "position" Position.ofJson? =
      Json.optional fields "position" Position.ofJson? :=
    passesData_optional (by decide) Position.ofJson? fields
  have hthere : Json.optional fields "data" Attachment.ofJson? =
      some (some (.ofFields data)) := by
    rw [Json.optional, Json.defaulted, h]
    rfl
  have hgone : Json.optional (Entries.erase "data" fields) "data" Attachment.ofJson? =
      some none := by
    rw [Json.optional, Json.defaulted, Entries.get?_erase_self]
  rw [Source.ofFields?, Source.ofFields?, hthere, hgone, hposition]
  cases Json.optional fields "position" Position.ofJson? <;> rfl

namespace ReadsData

variable {put : Attachment → α → α} {P : α → Prop}

/-- A reader that makes something of what carries data. -/
theorem of_source {make : Source → α}
    (hput : ∀ attachment source, put attachment (make source) = make (source.withData attachment))
    (hP : ∀ source, P (make source)) :
    ReadsData put P fun fields => (Source.ofFields? fields).bind fun source =>
      some (make source) where
  whole := by
    intro fields data h
    rw [Source.ofFields?_of_data h]
    cases Source.ofFields? (Entries.erase "data" fields) with
    | none => rfl
    | some source => exact congrArg some (hput _ source).symm
  holds := by
    intro fields value h
    obtain ⟨source, -, hmake⟩ := Option.bind_eq_some_iff.1 h
    rw [← Option.some.inj hmake]
    exact hP source

/-- A reader that reads something else before. -/
theorem after {first : Entries Json → Option β} {next : β → Entries Json → Option α}
    (hfirst : PassesData first) (hnext : ∀ value, ReadsData put P (next value)) :
    ReadsData put P fun fields => (first fields).bind fun value => next value fields where
  whole := by
    intro fields data h
    show (first fields).bind _ = ((first (Entries.erase "data" fields)).bind _).map _
    rw [hfirst fields]
    cases first fields with
    | none => rfl
    | some value => exact (hnext value).whole h
  holds := by
    intro fields value h
    obtain ⟨found, -, hvalue⟩ := Option.bind_eq_some_iff.1 h
    exact (hnext found).holds hvalue

variable {read : Entries Json → Option α} {fields data : Entries Json}

/-- An object of data spoils nothing. -/
theorem isNone_eq (h : ReadsData put P read)
    (hdata : Entries.get? "data" fields = some (.object data)) :
    (read fields).isNone = (read (Entries.erase "data" fields)).isNone := by
  rw [h.whole hdata, Option.isNone_map]

/-- What is read with data is what is read without, with the data put there. -/
theorem exists_of_read (h : ReadsData put P read)
    (hdata : Entries.get? "data" fields = some (.object data)) {value : α}
    (hvalue : read fields = some value) : ∃ bare, P bare ∧ put (.ofFields data) bare = value := by
  rw [h.whole hdata] at hvalue
  obtain ⟨bare, hbare, hput⟩ := Option.map_eq_some_iff.1 hvalue
  exact ⟨bare, h.holds hbare, hput⟩

end ReadsData

end Readers

/-! ## Nodes -/

namespace Node

/-- A node with other data.  A malformed node carries none. -/
def withData (attachment : Attachment) : Node → Node
  | root source children => root (source.withData attachment) children
  | element source tagName properties children =>
    element (source.withData attachment) tagName properties children
  | text source value => text (source.withData attachment) value
  | comment source value => comment (source.withData attachment) value
  | doctype source => doctype (source.withData attachment)
  | esm source => esm (source.withData attachment)
  | expression placement source => expression placement (source.withData attachment)
  | component placement source name attributes children =>
    component placement (source.withData attachment) name attributes children
  | unknown source kind fields => unknown (source.withData attachment) kind fields
  | malformed value => malformed value

@[simp] theorem kind?_withData (attachment : Attachment) (node : Node) :
    (node.withData attachment).kind? = node.kind? := by
  cases node with
  | expression placement source => cases placement <;> rfl
  | component placement source name attributes children => cases placement <;> rfl
  | _ => rfl

theorem isMalformed_of_kind? {node : Node} {kind : String} (h : node.kind? = some kind) :
    node.isMalformed = false := by
  cases node <;> first | rfl | cases h

theorem source_withData {node : Node} (h : node.kind?.isSome) (attachment : Attachment) :
    (node.withData attachment).source = node.source.withData attachment := by
  cases node <;> first | rfl | cases h

/-- Reads a node of a kind from its fields. -/
def readAs (kind : String) (fields : Entries Json) : Option Node :=
  match kind with
  | "root" => (childrenOf? fields).bind (rootOf? fields)
  | "element" => (childrenOf? fields).bind (elementOf? fields)
  | "text" => textOf? fields
  | "comment" => commentOf? fields
  | "doctype" => (Source.ofFields? fields).map doctype
  | "mdxjsEsm" => scriptedOf? esm fields
  | "mdxFlowExpression" => scriptedOf? (expression .flow) fields
  | "mdxTextExpression" => scriptedOf? (expression .text) fields
  | "mdxJsxFlowElement" => (childrenOf? fields).bind (componentOf? .flow fields)
  | "mdxJsxTextElement" => (childrenOf? fields).bind (componentOf? .text fields)
  | kind => unknownOf? kind fields

theorem ofJson_eq_readAs {fields : Entries Json} {kind : String}
    (h : Entries.get? "type" fields = some (.string kind)) :
    ofJson (.object fields) = (readAs kind fields).getD (malformed (.object fields)) := by
  rw [ofJson, h]
  rfl

theorem readsData_rootOf? (children : List Node) :
    ReadsData withData (fun node => node.kind? = some "root")
      fun fields => rootOf? fields children :=
  .of_source (fun _ _ => rfl) fun _ => rfl

theorem readsData_elementOf? (children : List Node) :
    ReadsData withData (fun node => node.kind? = some "element")
      fun fields => elementOf? fields children :=
  .after (passesData_required (by decide) _) fun _ =>
    .after (passesData_defaulted (by decide) _ _) fun _ =>
      .of_source (fun _ _ => rfl) fun _ => rfl

theorem readsData_componentOf? {placement : Placement} {kind : String}
    (hkind : ∀ source name attributes children,
      (component placement source name attributes children).kind? = some kind)
    (children : List Node) :
    ReadsData withData (fun node => node.kind? = some kind)
      fun fields => componentOf? placement fields children :=
  .after (passesData_optional (by decide) _) fun _ =>
    .after (passesData_defaulted (by decide) _ _) fun _ =>
      .of_source (fun _ _ => rfl) fun source => hkind source _ _ children

theorem readsData_textOf? : ReadsData withData (fun node => node.kind? = some "text") textOf? :=
  .after (passesData_optional (by decide) _) fun _ => .of_source (fun _ _ => rfl) fun _ => rfl

theorem readsData_commentOf? :
    ReadsData withData (fun node => node.kind? = some "comment") commentOf? :=
  .after (passesData_defaulted (by decide) _ _) fun _ => .of_source (fun _ _ => rfl) fun _ => rfl

theorem readsData_doctype :
    ReadsData withData (fun node => node.kind? = some "doctype")
      fun fields => (Source.ofFields? fields).map doctype := by
  simp only [Option.map_eq_bind]
  exact .of_source (fun _ _ => rfl) fun _ => rfl

theorem readsData_scriptedOf? {make : Source → Node} {kind : String}
    (hput : ∀ attachment source,
      (make source).withData attachment = make (source.withData attachment))
    (hkind : ∀ source, (make source).kind? = some kind) :
    ReadsData withData (fun node => node.kind? = some kind) (scriptedOf? make) :=
  .after (passesData_defaulted (by decide) _ _) fun _ => .of_source hput hkind

/-- The fields that are kept are the same with and without data. -/
theorem readsData_unknownOf? (kind : String) :
    ReadsData withData (fun node => node.kind? = some kind) (unknownOf? kind) where
  whole := by
    intro fields data h
    rw [unknownOf?, unknownOf?, Source.ofFields?_of_data h, Entries.erase_erase_self]
    cases Source.ofFields? (Entries.erase "data" fields) <;> rfl
  holds := by
    intro fields node h
    obtain ⟨source, -, hnode⟩ := Option.bind_eq_some_iff.1 h
    rw [← Option.some.inj hnode]
    rfl

/-- **Every kind of node is read in this way.** -/
theorem readsData_readAs (kind : String) :
    ReadsData withData (fun node => node.kind? = some kind) (readAs kind) := by
  unfold readAs
  split
  · exact .after passesData_childrenOf? readsData_rootOf?
  · exact .after passesData_childrenOf? readsData_elementOf?
  · exact readsData_textOf?
  · exact readsData_commentOf?
  · exact readsData_doctype
  · exact readsData_scriptedOf? (fun _ _ => rfl) fun _ => rfl
  · exact readsData_scriptedOf? (fun _ _ => rfl) fun _ => rfl
  · exact readsData_scriptedOf? (fun _ _ => rfl) fun _ => rfl
  · exact .after passesData_childrenOf? (readsData_componentOf? fun _ _ _ _ => rfl)
  · exact .after passesData_childrenOf? (readsData_componentOf? fun _ _ _ _ => rfl)
  · exact readsData_unknownOf? _

section Typed

variable {fields data : Entries Json} {kind : String}
  (htype : Entries.get? "type" fields = some (.string kind))
include htype

/-- A node is malformed exactly if it cannot be read as a node of its kind. -/
theorem isMalformed_ofJson :
    (ofJson (.object fields)).isMalformed = (readAs kind fields).isNone := by
  rw [ofJson_eq_readAs htype]
  cases hread : readAs kind fields with
  | none => rfl
  | some node => exact isMalformed_of_kind? ((readsData_readAs kind).holds hread)

theorem exists_readAs (hformed : (ofJson (.object fields)).isMalformed = false) :
    ∃ node, readAs kind fields = some node ∧ ofJson (.object fields) = node := by
  rw [isMalformed_ofJson htype] at hformed
  obtain ⟨node, hnode⟩ := Option.isSome_iff_exists.1 (Option.isNone_eq_false_iff.1 hformed)
  exact ⟨node, hnode, by rw [ofJson_eq_readAs htype, hnode, Option.getD_some]⟩

variable (hdata : Entries.get? "data" fields = some (.object data))
include hdata

/-- **An object of data makes no node malformed.** -/
theorem isMalformed_ofJson_of_data :
    (ofJson (.object fields)).isMalformed =
      (ofJson (.object (Entries.erase "data" fields))).isMalformed := by
  have hbare : Entries.get? "type" (Entries.erase "data" fields) = some (.string kind) := by
    rw [Entries.get?_erase_of_ne (by decide), htype]
  rw [isMalformed_ofJson htype, isMalformed_ofJson hbare,
    (readsData_readAs kind).isNone_eq hdata]

/-- **A node that is not malformed without its data** is of its kind with them, and keeps them. -/
theorem keepsWhole_ofJson
    (hformed : (ofJson (.object (Entries.erase "data" fields))).isMalformed = false) :
    (ofJson (.object fields)).kind? = some kind ∧
      (ofJson (.object fields)).source.KeepsWhole data := by
  rw [← isMalformed_ofJson_of_data htype hdata] at hformed
  obtain ⟨node, hread, hnode⟩ := exists_readAs htype hformed
  obtain ⟨bare, hkind, rfl⟩ := (readsData_readAs kind).exists_of_read hdata hread
  rw [hnode, kind?_withData, source_withData (by rw [hkind]; rfl)]
  exact ⟨hkind, Source.keepsWhole_withData data bare.source⟩

end Typed

/-- The kinds of node that have a rule of their own. -/
def knownKinds : List String :=
  ["root", "element", "text", "comment", "doctype", "mdxjsEsm", "mdxFlowExpression",
    "mdxTextExpression", "mdxJsxFlowElement", "mdxJsxTextElement"]

theorem readAs_of_not_mem_knownKinds {kind : String} (h : kind ∉ knownKinds)
    (fields : Entries Json) : readAs kind fields = unknownOf? kind fields := by
  unfold readAs
  split <;> first | rfl | exact absurd (by decide) h

/-- A node of another kind keeps the fields that not every node may carry. -/
theorem ofJson_of_not_mem_knownKinds {fields : Entries Json} {kind : String}
    (htype : Entries.get? "type" fields = some (.string kind)) (hkind : kind ∉ knownKinds)
    (hformed : (ofJson (.object fields)).isMalformed = false) :
    ∃ source, ofJson (.object fields) = unknown source kind
      (fields.filter fun field => field.1 ∉ ["type", "position", "data"]) := by
  obtain ⟨node, hread, hnode⟩ := exists_readAs htype hformed
  rw [readAs_of_not_mem_knownKinds hkind] at hread
  obtain ⟨source, -, hmade⟩ := Option.bind_eq_some_iff.1 hread
  have hothers : Entries.erase "type" (Entries.erase "position" (Entries.erase "data" fields)) =
      fields.filter fun field => field.1 ∉ ["type", "position", "data"] := by
    rw [Entries.erase, Entries.erase, Entries.erase, List.filter_filter, List.filter_filter]
    refine List.filter_congr fun field _ => ?_
    simp [Bool.and_assoc]
  exact ⟨source, by rw [hnode, ← Option.some.inj hmade, hothers]⟩

end Node

/-! ## Attributes of components -/

/-- What an attribute carries. -/
def ComponentAttribute.source : ComponentAttribute → Source
  | named source _ _ | spread source => source

/-- An attribute with other data. -/
def ComponentAttribute.withData (attachment : Attachment) :
    ComponentAttribute → ComponentAttribute
  | named source name value => named (source.withData attachment) name value
  | spread source => spread (source.withData attachment)

@[simp] theorem ComponentAttribute.source_withData (attachment : Attachment)
    (item : ComponentAttribute) :
    (item.withData attachment).source = item.source.withData attachment := by
  cases item <;> rfl

/-- The value of an attribute with other data.  A simple value carries none. -/
def ComponentValue.withData (attachment : Attachment) : ComponentValue → ComponentValue
  | expression source => expression (source.withData attachment)
  | literal value => literal value

theorem ComponentAttribute.readsData_namedOf? :
    ReadsData withData (fun _ => True) namedOf? :=
  .after (passesData_required (by decide) _) fun _ =>
    .after (passesData_optional (by decide) _) fun _ =>
      .of_source (fun _ _ => rfl) fun _ => trivial

theorem ComponentAttribute.readsData_spreadOf? :
    ReadsData withData (fun _ => True) spreadOf? :=
  .after (passesData_defaulted (by decide) _ _) fun _ =>
    .of_source (fun _ _ => rfl) fun _ => trivial

/-- **An attribute that is an object is read in this way.** -/
theorem ComponentAttribute.readsData_ofJson? :
    ReadsData withData (fun _ => True) fun fields => ofJson? (.object fields) where
  whole := by
    intro fields data h
    show ofJson? _ = (ofJson? _).map _
    rw [ofJson?, ofJson?, Entries.get?_erase_of_ne (by decide)]
    split
    · exact readsData_namedOf?.whole h
    · exact readsData_spreadOf?.whole h
    · rfl
  holds := fun _ => trivial

/-- **The value of an attribute that is an object is an expression,** and is read in this way. -/
theorem ComponentValue.readsData_ofJson? :
    ReadsData withData (fun value => ∃ source, value = expression source)
      fun fields => ofJson? (.object fields) := by
  have hexpression : ReadsData withData (fun value => ∃ source, value = expression source)
      fun fields => expressionOf? (.object fields) :=
    .after (passesData_defaulted (by decide) _ _) fun _ =>
      .of_source (fun _ _ => rfl) fun source => ⟨source, rfl⟩
  have hobject : (fun fields => ofJson? (.object fields)) =
      fun fields => expressionOf? (.object fields) := by
    funext fields
    rw [ofJson?]
    cases expressionOf? (.object fields) <;> rfl
  rw [hobject]
  exact hexpression

/-! ## The whole -/

/-- **Attached data is kept whole.**  Take a node of any kind with an object as its data.  The node
is malformed exactly if it is so without them.  Otherwise it is a node of its kind, and what it
passes on are all fields of the object but `estree`, whatever that is, in their order, and no data
if there are no others.  A node of a kind without a rule offers all its own fields to an override,
in their order, but its kind, its position and its data.  The attributes of components and their
values keep their data in the same way. -/
theorem ofJson_keeps_data :
    (∀ (fields data : Entries Json) (kind : String),
      Entries.get? "type" fields = some (.string kind) →
      Entries.get? "data" fields = some (.object data) →
      (Node.ofJson (.object fields)).isMalformed =
          (Node.ofJson (.object (Entries.erase "data" fields))).isMalformed ∧
        ((Node.ofJson (.object (Entries.erase "data" fields))).isMalformed = false →
          (Node.ofJson (.object fields)).kind? = some kind ∧
            (Node.ofJson (.object fields)).source.KeepsWhole data)) ∧
    (∀ (fields : Entries Json) (kind : String),
      Entries.get? "type" fields = some (.string kind) → kind ∉ Node.knownKinds →
      (Node.ofJson (.object fields)).isMalformed = false →
      ∃ source, Node.ofJson (.object fields) = .unknown source kind
        (fields.filter fun field => field.1 ∉ ["type", "position", "data"])) ∧
    (∀ fields data : Entries Json, Entries.get? "data" fields = some (.object data) →
      (ComponentAttribute.ofJson? (.object fields)).isNone =
          (ComponentAttribute.ofJson? (.object (Entries.erase "data" fields))).isNone ∧
        ∀ item, ComponentAttribute.ofJson? (.object fields) = some item →
          item.source.KeepsWhole data) ∧
    ∀ fields data : Entries Json, Entries.get? "data" fields = some (.object data) →
      (ComponentValue.ofJson? (.object fields)).isNone =
          (ComponentValue.ofJson? (.object (Entries.erase "data" fields))).isNone ∧
        ∀ value, ComponentValue.ofJson? (.object fields) = some value →
          ∃ source, value = .expression source ∧ source.KeepsWhole data := by
  refine ⟨fun fields data kind htype hdata => ⟨Node.isMalformed_ofJson_of_data htype hdata,
      Node.keepsWhole_ofJson htype hdata⟩,
    fun fields kind htype hkind => Node.ofJson_of_not_mem_knownKinds htype hkind,
    fun fields data hdata => ⟨ComponentAttribute.readsData_ofJson?.isNone_eq hdata, ?_⟩,
    fun fields data hdata => ⟨ComponentValue.readsData_ofJson?.isNone_eq hdata, ?_⟩⟩
  · intro item hitem
    obtain ⟨bare, -, rfl⟩ := ComponentAttribute.readsData_ofJson?.exists_of_read hdata hitem
    rw [ComponentAttribute.source_withData]
    exact Source.keepsWhole_withData data bare.source
  · intro value hvalue
    obtain ⟨bare, ⟨source, rfl⟩, rfl⟩ :=
      ComponentValue.readsData_ofJson?.exists_of_read hdata hvalue
    exact ⟨source.withData (.ofFields data), rfl, Source.keepsWhole_withData data source⟩

/-- Data without its script, which cannot be read, of a heading, of an attribute and of its value;
and a note that has nothing but a script for its data. -/
theorem ofJson_keeps_data_notes :
    let data : Entries Json := [("rank", .bool true), ("estree", .string "x"), ("line", .null)]
    let others : Entries Json := [("rank", .bool true), ("line", .null)]
    let heading : Entries Json :=
      [("type", .string "element"), ("data", .object data), ("tagName", .string "h1")]
    let note : Entries Json := [("level", .ofNat 2), ("type", .string "note"),
      ("data", .object [("estree", .null)]), ("line", .null), ("position", .null)]
    let value : Entries Json := [("data", .object data)]
    let item : Entries Json := [("type", .string "mdxJsxAttribute"), ("name", .string "title"),
      ("value", .object value), ("data", .object data)]
    (Node.ofJson (.object heading)).kind? = some "element" ∧
      (Node.ofJson (.object heading)).source.origin.data = some others ∧
      (Node.ofJson (.object note)).source.origin.data = none ∧
      (∃ source, Node.ofJson (.object note) =
        .unknown source "note" [("level", .ofNat 2), ("line", .null)]) ∧
      (∃ found, ComponentAttribute.ofJson? (.object item) = some found ∧
        found.source.origin.data = some others) ∧
      ∃ source, ComponentValue.ofJson? (.object value) = some (.expression source) ∧
        source.origin.data = some others := by
  intro data others heading note value item
  obtain ⟨hnodes, hunknown, hitems, hvalues⟩ := ofJson_keeps_data
  have hsome : data.filter (fun field => field.1 ≠ "estree") ≠ [] := List.cons_ne_nil _ _
  obtain ⟨hkind, -, hheading⟩ := (hnodes heading data "element" rfl rfl).2 rfl
  obtain ⟨-, hnote, -⟩ := (hnodes note [("estree", .null)] "note" rfl rfl).2 rfl
  obtain ⟨found, hfound⟩ : ∃ found, ComponentAttribute.ofJson? (.object item) = some found :=
    ⟨_, rfl⟩
  obtain ⟨-, hitem⟩ := (hitems item data rfl).2 found hfound
  obtain ⟨read, hread⟩ : ∃ read, ComponentValue.ofJson? (.object value) = some read := ⟨_, rfl⟩
  obtain ⟨source, rfl, -, hvalue⟩ := (hvalues value data rfl).2 read hread
  exact ⟨hkind, hheading hsome, hnote rfl, hunknown note "note" rfl (by decide) rfl,
    ⟨found, hfound, hitem hsome⟩, source, hread, hvalue hsome⟩

end MarkupJsx
