import Mathlib.Data.List.Basic
import MarkupJsx.Tree.Decode
import MarkupJsx.Tree.Origin

/-!
# Trees without their scripts

A script is attached to a node, to an attribute of a component or to the value of such an attribute.
It stands under `estree` in the data of whatever it is attached to, and since a script that cannot
be read counts as absent, any value at all may stand there.

`Json.withoutScripts` takes that key from all places of a JSON tree where it means a script, so that
two trees differ in nothing but scripts if they are the same without them.  `Node.withoutScripts`
takes the scripts from a tree of nodes.  The main statement is `Node.ofJson_withoutScripts`:
**reading a tree without its scripts gives the nodes of the tree without their scripts.**  So the
scripts have no say in what a tree is read as.
-/

namespace MarkupJsx

/-! ## Fields that are changed key by key -/

namespace Entries

variable {α : Type}

/-- Fields with each value changed as its key says. -/
def mapByKey (f : String → α → α) (entries : Entries α) : Entries α :=
  entries.map fun entry => (entry.1, f entry.1 entry.2)

/-- A value that is read from changed fields is a changed value. -/
theorem get?_mapByKey (f : String → α → α) (key : String) (entries : Entries α) :
    get? key (mapByKey f entries) = (get? key entries).map (f key) := by
  induction entries with
  | nil => rfl
  | cons head rest ih =>
    obtain ⟨k, value⟩ := head
    show get? key ((k, f k value) :: mapByKey f rest) = _
    rw [get?_cons, get?_cons, ih]
    split
    · rename_i hkey
      rw [hkey, Option.map_some]
    · rfl

/-- It is no matter whether a key is taken away before or after the others are changed. -/
theorem erase_mapByKey (f : String → α → α) (key : String) (entries : Entries α) :
    erase key (mapByKey f entries) = mapByKey f (erase key entries) := by
  rw [erase, erase, mapByKey, mapByKey, List.filter_map]
  rfl

/-- Fields that have been changed are not changed again, if no value is. -/
theorem mapByKey_mapByKey {f : String → α → α} (h : ∀ key value, f key (f key value) = f key value)
    (entries : Entries α) : mapByKey f (mapByKey f entries) = mapByKey f entries := by
  rw [mapByKey, mapByKey, List.map_map]
  refine List.map_congr_left fun entry _ => ?_
  exact Prod.ext rfl (h entry.1 entry.2)

end Entries

namespace Json

variable {α : Type} {f : String → Json → Json} {key : String}

/-- A field that is not changed is read as it was. -/
theorem required_mapByKey (hkey : f key = id) (fields : Entries Json) (decode : Json → Option α) :
    required (Entries.mapByKey f fields) key decode = required fields key decode := by
  rw [required, required, Entries.get?_mapByKey, hkey, Option.map_id, id]

/-- A field is read as the changed one if changing it changes what is read. -/
theorem defaulted_mapByKey {g : α → α} {default : α} {decode : Json → Option α}
    (hdefault : g default = default)
    (hdecode : ∀ value, decode (f key value) = (decode value).map g) (fields : Entries Json) :
    defaulted (Entries.mapByKey f fields) key default decode =
      (defaulted fields key default decode).map g := by
  rw [defaulted, defaulted, Entries.get?_mapByKey]
  cases Entries.get? key fields with
  | none => exact congrArg some hdefault.symm
  | some value => exact hdecode value

theorem defaulted_mapByKey_of_id (hkey : f key = id) (fields : Entries Json) (default : α)
    (decode : Json → Option α) :
    defaulted (Entries.mapByKey f fields) key default decode =
      defaulted fields key default decode := by
  rw [defaulted, defaulted, Entries.get?_mapByKey, hkey, Option.map_id, id]

theorem optional_mapByKey_of_id (hkey : f key = id) (fields : Entries Json)
    (decode : Json → Option α) :
    optional (Entries.mapByKey f fields) key decode = optional fields key decode :=
  defaulted_mapByKey_of_id hkey fields none _

variable (f) in
/-- The items of an array that stand for fields, changed as the names of those fields say. -/
def mapItemsByKey : List String → List Json → List Json
  | name :: names, item :: items => f name item :: mapItemsByKey names items
  | _, items => items

theorem mapItemsByKey_mapItemsByKey (h : ∀ key value, f key (f key value) = f key value)
    (names : List String) (items : List Json) :
    mapItemsByKey f names (mapItemsByKey f names items) = mapItemsByKey f names items := by
  induction items generalizing names with
  | nil => cases names <;> rfl
  | cons item items ih =>
    cases names with
    | nil => rfl
    | cons name names => rw [mapItemsByKey, mapItemsByKey, h, ih]

variable (f) in
theorem fieldsOfItems?_mapItemsByKey (names : List String) (items : List Json) :
    fieldsOfItems? names (mapItemsByKey f names items) =
      (fieldsOfItems? names items).map (Entries.mapByKey f) := by
  induction items generalizing names with
  | nil => cases names <;> rfl
  | cons item items ih =>
    cases names with
    | nil => rfl
    | cons name names =>
      rw [mapItemsByKey, fieldsOfItems?, fieldsOfItems?, ih, Option.map_map, Option.map_map]
      rfl

/-- Reading each item after changing it changes what is read, if it does so for each of them. -/
theorem mapM_map_of_comm {decode : Json → Option α} {g : α → α} {change : Json → Json}
    (h : ∀ item, decode (change item) = (decode item).map g) (items : List Json) :
    (items.map change).mapM decode = (items.mapM decode).map (List.map g) := by
  induction items with
  | nil => rfl
  | cons item rest ih =>
    rw [List.map_cons, List.mapM_cons, List.mapM_cons, h, ih]
    cases decode item with
    | none => rfl
    | some first => cases rest.mapM decode <;> rfl

/-! ## Values without scripts -/

/-- Data without its script. -/
def dataWithoutScript : Json → Json
  | .object fields => .object (Entries.erase "estree" fields)
  | value => value

/-- What becomes of the fields of something with data. -/
def fieldWithoutScript (key : String) (value : Json) : Json :=
  if key = "data" then value.dataWithoutScript else value

/-- The value of an attribute without its script, written as an object or as an array. -/
def valueWithoutScript : Json → Json
  | .object fields => .object (Entries.mapByKey fieldWithoutScript fields)
  | .array items => .array (mapItemsByKey fieldWithoutScript ["value", "position", "data"] items)
  | value => value

/-- What becomes of the fields of an attribute. -/
def attributeFieldWithoutScript (key : String) (value : Json) : Json :=
  if key = "data" then value.dataWithoutScript
  else if key = "value" then value.valueWithoutScript
  else value

/-- The fields of an attribute that is written as an array, behind its type. -/
def attributeFieldNames : Json → List String
  | .string "mdxJsxAttribute" => ["name", "value", "position", "data"]
  | .string "mdxJsxExpressionAttribute" => ["value", "position", "data"]
  | _ => []

/-- An attribute of a component without its script and that of its value, written as an object or
as an array. -/
def attributeWithoutScripts : Json → Json
  | .object fields => .object (Entries.mapByKey attributeFieldWithoutScript fields)
  | .array (type :: items) =>
    .array (type :: mapItemsByKey attributeFieldWithoutScript (attributeFieldNames type) items)
  | value => value

/-- Attributes without scripts. -/
def attributesWithoutScripts : Json → Json
  | .array items => .array (items.map attributeWithoutScripts)
  | value => value

mutual

/-- A tree without the scripts of its nodes, of their attributes and of the values of these. -/
def withoutScripts : Json → Json
  | .object fields => .object (fieldsWithoutScripts fields)
  | value => value
termination_by structural value => value

/-- The fields of a node without scripts. -/
def fieldsWithoutScripts : List (String × Json) → List (String × Json)
  | [] => []
  | (key, value) :: rest =>
    (key,
      if key = "data" then value.dataWithoutScript
      else if key = "children" then childrenWithoutScripts value
      else if key = "attributes" then value.attributesWithoutScripts
      else value) :: fieldsWithoutScripts rest
termination_by structural fields => fields

/-- The children of a node without scripts. -/
def childrenWithoutScripts : Json → Json
  | .array items => .array (itemsWithoutScripts items)
  | value => value
termination_by structural value => value

/-- Trees one after the other without scripts. -/
def itemsWithoutScripts : List Json → List Json
  | [] => []
  | item :: rest => item.withoutScripts :: itemsWithoutScripts rest
termination_by structural items => items

end

/-- What becomes of the fields of a node. -/
def nodeFieldWithoutScripts (key : String) (value : Json) : Json :=
  if key = "data" then value.dataWithoutScript
  else if key = "children" then value.childrenWithoutScripts
  else if key = "attributes" then value.attributesWithoutScripts
  else value

theorem fieldsWithoutScripts_eq (fields : Entries Json) :
    fieldsWithoutScripts fields = Entries.mapByKey nodeFieldWithoutScripts fields := by
  induction fields with
  | nil => rfl
  | cons head rest ih =>
    obtain ⟨key, value⟩ := head
    rw [fieldsWithoutScripts, ih]
    rfl

/-! ### Nothing is left to take -/

theorem dataWithoutScript_dataWithoutScript (value : Json) :
    value.dataWithoutScript.dataWithoutScript = value.dataWithoutScript := by
  cases value with
  | object fields => exact congrArg object (Entries.erase_erase_self "estree" fields)
  | _ => rfl

theorem fieldWithoutScript_fieldWithoutScript (key : String) (value : Json) :
    fieldWithoutScript key (fieldWithoutScript key value) = fieldWithoutScript key value := by
  rw [fieldWithoutScript, fieldWithoutScript]
  split
  · exact dataWithoutScript_dataWithoutScript value
  · rfl

theorem valueWithoutScript_valueWithoutScript (value : Json) :
    value.valueWithoutScript.valueWithoutScript = value.valueWithoutScript := by
  cases value with
  | object fields =>
    exact congrArg object (Entries.mapByKey_mapByKey fieldWithoutScript_fieldWithoutScript fields)
  | array items =>
    exact congrArg array
      (mapItemsByKey_mapItemsByKey fieldWithoutScript_fieldWithoutScript _ items)
  | _ => rfl

theorem attributeFieldWithoutScript_attributeFieldWithoutScript (key : String) (value : Json) :
    attributeFieldWithoutScript key (attributeFieldWithoutScript key value) =
      attributeFieldWithoutScript key value := by
  rw [attributeFieldWithoutScript, attributeFieldWithoutScript]
  split
  · exact dataWithoutScript_dataWithoutScript value
  · split
    · exact valueWithoutScript_valueWithoutScript value
    · rfl

theorem attributeWithoutScripts_attributeWithoutScripts (value : Json) :
    value.attributeWithoutScripts.attributeWithoutScripts = value.attributeWithoutScripts := by
  have hfield := attributeFieldWithoutScript_attributeFieldWithoutScript
  match value with
  | .object fields => exact congrArg object (Entries.mapByKey_mapByKey hfield fields)
  | .array (type :: items) =>
    exact congrArg (fun items => array (type :: items))
      (mapItemsByKey_mapItemsByKey hfield (attributeFieldNames type) items)
  | .array [] | .null | .bool _ | .number _ | .string _ => rfl

theorem attributesWithoutScripts_attributesWithoutScripts (value : Json) :
    value.attributesWithoutScripts.attributesWithoutScripts = value.attributesWithoutScripts := by
  cases value with
  | array items =>
    show array ((items.map _).map _) = array (items.map _)
    rw [List.map_map]
    exact congrArg array <| List.map_congr_left fun item _ =>
      attributeWithoutScripts_attributeWithoutScripts item
  | _ => rfl

mutual

/-- **Scripts that have been taken away** are not there to be taken away again. -/
theorem withoutScripts_withoutScripts (value : Json) :
    value.withoutScripts.withoutScripts = value.withoutScripts := by
  match value with
  | .object fields => exact congrArg object (fieldsWithoutScripts_fieldsWithoutScripts fields)
  | .null | .bool _ | .number _ | .string _ | .array _ => rfl
termination_by structural value

theorem fieldsWithoutScripts_fieldsWithoutScripts (fields : List (String × Json)) :
    fieldsWithoutScripts (fieldsWithoutScripts fields) = fieldsWithoutScripts fields := by
  match fields with
  | [] => rfl
  | (key, value) :: rest =>
    rw [fieldsWithoutScripts, fieldsWithoutScripts, fieldsWithoutScripts_fieldsWithoutScripts rest]
    refine congrArg (fun value => (key, value) :: fieldsWithoutScripts rest) ?_
    split
    · exact dataWithoutScript_dataWithoutScript value
    · split
      · exact childrenWithoutScripts_childrenWithoutScripts value
      · split
        · exact attributesWithoutScripts_attributesWithoutScripts value
        · rfl
termination_by structural fields

theorem childrenWithoutScripts_childrenWithoutScripts (value : Json) :
    value.childrenWithoutScripts.childrenWithoutScripts = value.childrenWithoutScripts := by
  match value with
  | .array items => exact congrArg array (itemsWithoutScripts_itemsWithoutScripts items)
  | .null | .bool _ | .number _ | .string _ | .object _ => rfl
termination_by structural value

theorem itemsWithoutScripts_itemsWithoutScripts (items : List Json) :
    itemsWithoutScripts (itemsWithoutScripts items) = itemsWithoutScripts items := by
  match items with
  | [] => rfl
  | item :: rest =>
    rw [itemsWithoutScripts, itemsWithoutScripts, withoutScripts_withoutScripts item,
      itemsWithoutScripts_itemsWithoutScripts rest]
termination_by structural items

end

end Json

/-! ## Nodes without scripts -/

/-- Data without its script. -/
def Attachment.withoutScript (data : Attachment) : Attachment :=
  { data with script := none }

/-- What a node may carry, without a script. -/
def Source.withoutScript (source : Source) : Source :=
  { source with data := source.data.map Attachment.withoutScript }

/-- Scripts are not passed on. -/
@[simp] theorem Source.origin_withoutScript (source : Source) :
    source.withoutScript.origin = source.origin := by
  obtain ⟨position, data⟩ := source
  cases data <;> rfl

@[simp] theorem Source.spanOrigin_withoutScript (source : Source) :
    source.withoutScript.spanOrigin = source.spanOrigin := rfl

@[simp] theorem Source.script_withoutScript (source : Source) :
    source.withoutScript.script = none := by
  rw [script, withoutScript]
  cases source.data <;> rfl

/-- The value of an attribute without its script. -/
def ComponentValue.withoutScript : ComponentValue → ComponentValue
  | .expression source => .expression source.withoutScript
  | .literal value => .literal value

/-- An attribute without its script and that of its value. -/
def ComponentAttribute.withoutScripts : ComponentAttribute → ComponentAttribute
  | .named source name value =>
    .named source.withoutScript name (value.map ComponentValue.withoutScript)
  | .spread source => .spread source.withoutScript

namespace Node

mutual

/-- A node without the scripts in it. -/
def withoutScripts : Node → Node
  | .root source children => .root source.withoutScript (allWithoutScripts children)
  | .element source tagName properties children =>
    .element source.withoutScript tagName properties (allWithoutScripts children)
  | .text source value => .text source.withoutScript value
  | .comment source value => .comment source.withoutScript value
  | .doctype source => .doctype source.withoutScript
  | .esm source => .esm source.withoutScript
  | .expression placement source => .expression placement source.withoutScript
  | .component placement source name attributes children =>
    .component placement source.withoutScript name
      (attributes.map ComponentAttribute.withoutScripts) (allWithoutScripts children)
  | .unknown source kind fields =>
    .unknown source.withoutScript kind (Json.fieldsWithoutScripts fields)
  | .malformed value => .malformed value.withoutScripts
termination_by structural node => node

/-- Nodes one after the other without the scripts in them. -/
def allWithoutScripts : List Node → List Node
  | [] => []
  | node :: rest => node.withoutScripts :: allWithoutScripts rest
termination_by structural nodes => nodes

end

@[simp] theorem allWithoutScripts_eq_map (nodes : List Node) :
    allWithoutScripts nodes = nodes.map withoutScripts := by
  induction nodes with
  | nil => rfl
  | cons node rest ih => rw [allWithoutScripts, ih, List.map_cons]

@[simp] theorem children_withoutScripts (node : Node) :
    node.withoutScripts.children = node.children.map withoutScripts := by
  cases node <;> simp [withoutScripts, children]

@[simp] theorem isTableStructure_withoutScripts (node : Node) :
    node.withoutScripts.isTableStructure = node.isTableStructure := by
  cases node <;> rfl

@[simp] theorem isLineBreak_withoutScripts (node : Node) :
    node.withoutScripts.isLineBreak = node.isLineBreak := by
  cases node with
  | text source value => cases value <;> rfl
  | _ => rfl

end Node

/-! ## Reading without scripts -/

/-- Data is read without its script as data that has none. -/
theorem Attachment.ofJson?_dataWithoutScript (value : Json) :
    ofJson? value.dataWithoutScript = (ofJson? value).map withoutScript := by
  cases value with
  | object fields =>
    show some (Attachment.mk (scriptOf (Entries.erase "estree" fields))
      (Entries.erase "estree" (Entries.erase "estree" fields))) = some (Attachment.mk none _)
    rw [scriptOf, Entries.get?_erase_self, Option.bind_none, Entries.erase_erase_self]
  | _ => rfl

theorem Attachment.nullable_dataWithoutScript (value : Json) :
    Json.nullable ofJson? value.dataWithoutScript =
      (Json.nullable ofJson? value).map (Option.map withoutScript) := by
  have h := ofJson?_dataWithoutScript value
  cases value with
  | object fields =>
    show (ofJson? (Json.object fields).dataWithoutScript).map some = _
    rw [h]
    rfl
  | _ => rfl

/-- **Scripts leave everything else that a node carries alone.** -/
theorem Source.ofFields?_mapByKey {f : String → Json → Json} (hposition : f "position" = id)
    (hdata : f "data" = Json.dataWithoutScript) (fields : Entries Json) :
    ofFields? (Entries.mapByKey f fields) = (ofFields? fields).map withoutScript := by
  have hattachment : Json.optional (Entries.mapByKey f fields) "data" Attachment.ofJson? =
      (Json.optional fields "data" Attachment.ofJson?).map
        (Option.map Attachment.withoutScript) :=
    Json.defaulted_mapByKey rfl (fun value => hdata ▸ Attachment.nullable_dataWithoutScript value)
      fields
  have hplace := Json.optional_mapByKey_of_id hposition fields Position.ofJson?
  rw [ofFields?, ofFields?, hattachment, hplace]
  cases Json.optional fields "position" Position.ofJson? with
  | none => rfl
  | some position => cases Json.optional fields "data" Attachment.ofJson? <;> rfl

/-- The value of an attribute is read without its script from an object or an array that has
none. -/
theorem ComponentValue.expressionOf?_valueWithoutScript (value : Json) :
    expressionOf? value.valueWithoutScript = (expressionOf? value).map withoutScript := by
  have hfields : ∀ fields : Entries Json,
      (do
        let _ ← Json.defaulted (Entries.mapByKey Json.fieldWithoutScript fields) "value" ""
          Json.string?
        let source ← Source.ofFields? (Entries.mapByKey Json.fieldWithoutScript fields)
        some (expression source)) =
      (do
        let _ ← Json.defaulted fields "value" "" Json.string?
        let source ← Source.ofFields? fields
        some (expression source)).map withoutScript := by
    intro fields
    rw [Json.defaulted_mapByKey_of_id rfl, Source.ofFields?_mapByKey rfl rfl]
    cases Json.defaulted fields "value" "" Json.string? with
    | none => rfl
    | some text => cases Source.ofFields? fields <;> rfl
  cases value with
  | object fields => exact hfields fields
  | array items =>
    rw [expressionOf?, expressionOf?, Json.valueWithoutScript, Json.record?, Json.record?,
      Json.fieldsOfItems?_mapItemsByKey]
    cases Json.fieldsOfItems? ["value", "position", "data"] items with
    | none => rfl
    | some fields => exact hfields fields
  | _ => rfl

theorem ComponentValue.ofJson?_valueWithoutScript (value : Json) :
    ofJson? value.valueWithoutScript = (ofJson? value).map withoutScript := by
  rw [ofJson?, ofJson?, expressionOf?_valueWithoutScript]
  cases expressionOf? value with
  | some read => rfl
  | none => cases value <;> rfl

theorem ComponentValue.nullable_valueWithoutScript (value : Json) :
    Json.nullable ofJson? value.valueWithoutScript =
      (Json.nullable ofJson? value).map (Option.map withoutScript) := by
  have h := ofJson?_valueWithoutScript value
  cases value with
  | object fields =>
    show (ofJson? (Json.object fields).valueWithoutScript).map some =
      ((ofJson? (Json.object fields)).map some).map _
    rw [h, Option.map_map, Option.map_map]
    rfl
  | array items =>
    show (ofJson? (Json.array items).valueWithoutScript).map some =
      ((ofJson? (Json.array items)).map some).map _
    rw [h, Option.map_map, Option.map_map]
    rfl
  | _ => rfl

namespace ComponentAttribute

theorem namedOf?_mapByKey (fields : Entries Json) :
    namedOf? (Entries.mapByKey Json.attributeFieldWithoutScript fields) =
      (namedOf? fields).map withoutScripts := by
  have hvalue : Json.optional (Entries.mapByKey Json.attributeFieldWithoutScript fields) "value"
      ComponentValue.ofJson? =
        (Json.optional fields "value" ComponentValue.ofJson?).map
          (Option.map ComponentValue.withoutScript) :=
    Json.defaulted_mapByKey rfl ComponentValue.nullable_valueWithoutScript fields
  rw [namedOf?, namedOf?, Json.required_mapByKey rfl, hvalue, Source.ofFields?_mapByKey rfl rfl]
  cases Json.required fields "name" Json.string? with
  | none => rfl
  | some name =>
    cases Json.optional fields "value" ComponentValue.ofJson? with
    | none => rfl
    | some value => cases Source.ofFields? fields <;> rfl

/-- The text of a spread has to be a text, and no text has a script. -/
theorem spreadOf?_mapByKey (fields : Entries Json) :
    spreadOf? (Entries.mapByKey Json.attributeFieldWithoutScript fields) =
      (spreadOf? fields).map withoutScripts := by
  have htext : Json.defaulted (Entries.mapByKey Json.attributeFieldWithoutScript fields) "value" ""
      Json.string? = (Json.defaulted fields "value" "" Json.string?).map id :=
    Json.defaulted_mapByKey rfl (fun value => by cases value <;> rfl) fields
  rw [spreadOf?, spreadOf?, htext, Option.map_id, id, Source.ofFields?_mapByKey rfl rfl]
  cases Json.defaulted fields "value" "" Json.string? with
  | none => rfl
  | some text => cases Source.ofFields? fields <;> rfl

/-- **An attribute** is read without its scripts from an object or an array that has none. -/
theorem ofJson?_attributeWithoutScripts (value : Json) :
    ofJson? value.attributeWithoutScripts = (ofJson? value).map withoutScripts := by
  match value with
  | .object fields =>
    have htype : Json.attributeFieldWithoutScript "type" = id := rfl
    rw [Json.attributeWithoutScripts, ofJson?, ofJson?, Entries.get?_mapByKey, htype,
      Option.map_id, id]
    split
    · exact namedOf?_mapByKey fields
    · exact spreadOf?_mapByKey fields
    · rfl
  | .array (type :: items) =>
    rw [Json.attributeWithoutScripts]
    unfold Json.attributeFieldNames
    split
    · rw [ofJson?, ofJson?, Json.fieldsOfItems?_mapItemsByKey]
      cases Json.fieldsOfItems? ["name", "value", "position", "data"] items with
      | none => rfl
      | some fields => exact namedOf?_mapByKey fields
    · rw [ofJson?, ofJson?, Json.fieldsOfItems?_mapItemsByKey]
      cases Json.fieldsOfItems? ["value", "position", "data"] items with
      | none => rfl
      | some fields => exact spreadOf?_mapByKey fields
    · rename_i hnamed hspread
      have hother : ∀ items, ofJson? (.array (type :: items)) = none := by
        intro items
        unfold ofJson?
        split
        · rename_i heq
          exact nomatch heq
        · rename_i heq
          exact (hnamed (List.cons.inj (Json.array.inj heq)).1).elim
        · rename_i heq
          exact (hspread (List.cons.inj (Json.array.inj heq)).1).elim
        · rfl
      rw [hother, hother]
      rfl
  | .array [] | .null | .bool _ | .number _ | .string _ => rfl

theorem listOf?_attributesWithoutScripts (value : Json) :
    Json.listOf? ofJson? value.attributesWithoutScripts =
      (Json.listOf? ofJson? value).map (List.map withoutScripts) := by
  cases value with
  | array items => exact Json.mapM_map_of_comm ofJson?_attributeWithoutScripts items
  | _ => rfl

end ComponentAttribute

namespace Node

/-! ### The kinds of nodes -/

variable (fields : Entries Json) (children : List Node)

theorem source_fieldsWithoutScripts :
    Source.ofFields? (Json.fieldsWithoutScripts fields) =
      (Source.ofFields? fields).map Source.withoutScript := by
  rw [Json.fieldsWithoutScripts_eq]
  exact Source.ofFields?_mapByKey rfl rfl fields

theorem textOf?_fieldsWithoutScripts :
    textOf? (Json.fieldsWithoutScripts fields) = (textOf? fields).map withoutScripts := by
  rw [textOf?, textOf?, source_fieldsWithoutScripts, Json.fieldsWithoutScripts_eq,
    Json.optional_mapByKey_of_id rfl]
  cases Json.optional fields "value" Json.string? with
  | none => rfl
  | some value => cases Source.ofFields? fields <;> rfl

theorem commentOf?_fieldsWithoutScripts :
    commentOf? (Json.fieldsWithoutScripts fields) = (commentOf? fields).map withoutScripts := by
  rw [commentOf?, commentOf?, source_fieldsWithoutScripts, Json.fieldsWithoutScripts_eq,
    Json.defaulted_mapByKey_of_id rfl]
  cases Json.defaulted fields "value" "" Json.string? with
  | none => rfl
  | some value => cases Source.ofFields? fields <;> rfl

theorem scriptedOf?_fieldsWithoutScripts {make : Source → Node}
    (hmake : ∀ source, (make source).withoutScripts = make source.withoutScript) :
    scriptedOf? make (Json.fieldsWithoutScripts fields) =
      (scriptedOf? make fields).map withoutScripts := by
  rw [scriptedOf?, scriptedOf?, source_fieldsWithoutScripts, Json.fieldsWithoutScripts_eq,
    Json.defaulted_mapByKey_of_id rfl]
  cases Json.defaulted fields "value" "" Json.string? with
  | none => rfl
  | some value =>
    cases Source.ofFields? fields with
    | none => rfl
    | some source => exact congrArg some (hmake source).symm

theorem doctype_fieldsWithoutScripts :
    (Source.ofFields? (Json.fieldsWithoutScripts fields)).map doctype =
      ((Source.ofFields? fields).map doctype).map withoutScripts := by
  rw [source_fieldsWithoutScripts]
  cases Source.ofFields? fields <;> rfl

theorem rootOf?_fieldsWithoutScripts :
    rootOf? (Json.fieldsWithoutScripts fields) (children.map withoutScripts) =
      (rootOf? fields children).map withoutScripts := by
  rw [rootOf?, rootOf?, source_fieldsWithoutScripts, ← allWithoutScripts_eq_map]
  cases Source.ofFields? fields <;> rfl

theorem elementOf?_fieldsWithoutScripts :
    elementOf? (Json.fieldsWithoutScripts fields) (children.map withoutScripts) =
      (elementOf? fields children).map withoutScripts := by
  rw [elementOf?, elementOf?, source_fieldsWithoutScripts, Json.fieldsWithoutScripts_eq,
    Json.required_mapByKey rfl, Json.defaulted_mapByKey_of_id rfl, ← allWithoutScripts_eq_map]
  cases Json.required fields "tagName" Json.string? with
  | none => rfl
  | some tagName =>
    cases Json.defaulted fields "properties" [] (Json.entriesOf? PropertyValue.ofJson?) with
    | none => rfl
    | some properties => cases Source.ofFields? fields <;> rfl

theorem componentOf?_fieldsWithoutScripts (placement : Placement) :
    componentOf? placement (Json.fieldsWithoutScripts fields) (children.map withoutScripts) =
      (componentOf? placement fields children).map withoutScripts := by
  have hattributes : Json.defaulted (Entries.mapByKey Json.nodeFieldWithoutScripts fields)
      "attributes" [] (Json.listOf? ComponentAttribute.ofJson?) =
        (Json.defaulted fields "attributes" [] (Json.listOf? ComponentAttribute.ofJson?)).map
          (List.map ComponentAttribute.withoutScripts) :=
    Json.defaulted_mapByKey rfl ComponentAttribute.listOf?_attributesWithoutScripts fields
  rw [componentOf?, componentOf?, source_fieldsWithoutScripts, Json.fieldsWithoutScripts_eq,
    Json.optional_mapByKey_of_id rfl, hattributes, ← allWithoutScripts_eq_map]
  cases Json.optional fields "name" Json.string? with
  | none => rfl
  | some name =>
    cases Json.defaulted fields "attributes" [] (Json.listOf? ComponentAttribute.ofJson?) with
    | none => rfl
    | some attributes => cases Source.ofFields? fields <;> rfl

/-- A node of a kind that is not known keeps its fields, and these without what would be scripts in
a node that is known. -/
theorem unknownOf?_fieldsWithoutScripts (kind : String) :
    unknownOf? kind (Json.fieldsWithoutScripts fields) =
      (unknownOf? kind fields).map withoutScripts := by
  rw [unknownOf?, unknownOf?, source_fieldsWithoutScripts]
  cases Source.ofFields? fields with
  | none => rfl
  | some source =>
    refine congrArg some (congrArg (unknown source.withoutScript kind) ?_)
    rw [Json.fieldsWithoutScripts_eq, Json.fieldsWithoutScripts_eq, Entries.erase_mapByKey,
      Entries.erase_mapByKey, Entries.erase_mapByKey]

/-! ### Whole trees -/

mutual

/-- **Reading a tree without its scripts gives the nodes of the tree without their scripts.** -/
theorem ofJson_withoutScripts (value : Json) :
    ofJson value.withoutScripts = (ofJson value).withoutScripts := by
  match value with
  | .object fields =>
    have hchildren := childrenOf?_fieldsWithoutScripts fields
    have htype : Entries.get? "type" (Json.fieldsWithoutScripts fields) =
        Entries.get? "type" fields := by
      rw [Json.fieldsWithoutScripts_eq, Entries.get?_mapByKey]
      exact congrFun Option.map_id _
    have hread : ∀ {read changed : Option Node}, changed = read.map withoutScripts →
        changed.getD (malformed (.object (Json.fieldsWithoutScripts fields))) =
          (read.getD (malformed (.object fields))).withoutScripts := by
      rintro (_ | node) changed rfl <;> rfl
    have hparent : ∀ {read changed : List Node → Option Node},
        (∀ children, changed (children.map withoutScripts) =
          (read children).map withoutScripts) →
        (childrenOf? (Json.fieldsWithoutScripts fields)).bind changed =
          ((childrenOf? fields).bind read).map withoutScripts := by
      intro read changed hchanged
      rw [hchildren]
      cases childrenOf? fields with
      | none => rfl
      | some children => exact hchanged children
    rw [Json.withoutScripts, ofJson, ofJson, htype]
    split
    · refine hread ?_
      split
      · exact hparent (rootOf?_fieldsWithoutScripts fields)
      · exact hparent (elementOf?_fieldsWithoutScripts fields)
      · exact textOf?_fieldsWithoutScripts fields
      · exact commentOf?_fieldsWithoutScripts fields
      · exact doctype_fieldsWithoutScripts fields
      · exact scriptedOf?_fieldsWithoutScripts fields fun _ => rfl
      · exact scriptedOf?_fieldsWithoutScripts fields fun _ => rfl
      · exact scriptedOf?_fieldsWithoutScripts fields fun _ => rfl
      · exact hparent fun children => componentOf?_fieldsWithoutScripts fields children .flow
      · exact hparent fun children => componentOf?_fieldsWithoutScripts fields children .text
      · exact unknownOf?_fieldsWithoutScripts fields _
    · rfl
  | .null | .bool _ | .number _ | .string _ | .array _ => rfl
termination_by structural value

/-- Children are read without scripts from children that have none. -/
theorem childrenOf?_fieldsWithoutScripts (fields : List (String × Json)) :
    childrenOf? (Json.fieldsWithoutScripts fields) =
      (childrenOf? fields).map (List.map withoutScripts) := by
  match fields with
  | [] => rfl
  | (key, value) :: rest =>
    rw [Json.fieldsWithoutScripts, childrenOf?, childrenOf?]
    split
    · rename_i hkey
      rw [if_neg (by rw [← hkey]; decide), if_pos hkey.symm]
      exact itemsOf?_childrenWithoutScripts value
    · exact childrenOf?_fieldsWithoutScripts rest
termination_by structural fields

theorem itemsOf?_childrenWithoutScripts (value : Json) :
    itemsOf? value.childrenWithoutScripts = (itemsOf? value).map (List.map withoutScripts) := by
  match value with
  | .array items => exact congrArg some (ofItems_itemsWithoutScripts items)
  | .null | .bool _ | .number _ | .string _ | .object _ => rfl
termination_by structural value

theorem ofItems_itemsWithoutScripts (items : List Json) :
    ofItems (Json.itemsWithoutScripts items) = (ofItems items).map withoutScripts := by
  match items with
  | [] => rfl
  | item :: rest =>
    rw [Json.itemsWithoutScripts, ofItems, ofItems, ofJson_withoutScripts item,
      ofItems_itemsWithoutScripts rest, List.map_cons]
termination_by structural items

end

end Node
end MarkupJsx
