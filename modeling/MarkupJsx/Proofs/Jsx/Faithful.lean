import Mathlib.Data.List.Basic
import MarkupJsx.Jsx.Encode
import MarkupJsx.Proofs.Script.ReadBack

/-!
# The JSON of a program is faithful

Nearly every node of the output is written in the same way: a type, its own fields, and the fields
of its origin behind them (`nodeJson`).  No node says of which of the types of the output it is a
value but by its type, and fields without a value may be missing.  The theory below says that
nothing is lost and nothing is mixed up by this.

* `nodeJson_inj`: what a node is written from can be told from its JSON, as soon as the number of
  its own fields is known.
* `Program.foreigns` lists the foreign values in a program, in the order in which they are written.
* `Json.WrittenAround` says of a JSON value that it is written around some foreign values, and that
  no object outside of them, and of the data of nodes, has a key twice.

The main statement is `toJson_faithful`: **programs without foreign values are the same if their
JSON is, and the JSON of any program is written around its foreign values.**
-/

namespace MarkupJsx

/-! ## Keys -/

mutual

/-- A JSON value that is written around foreign values.  These are listed in their order, and
nothing is said about them, nor about the data of a node; no other object in the value has a key
twice. -/
inductive Json.WrittenAround : Json → List Json → Prop
  | foreign (value : Json) : WrittenAround value [value]
  | null : WrittenAround .null []
  | bool (value : Bool) : WrittenAround (.bool value) []
  | number (value : Json.Number) : WrittenAround (.number value) []
  | string (value : String) : WrittenAround (.string value) []
  | array {items foreigns : List Json} (h : ItemsAround items foreigns) :
      WrittenAround (.array items) foreigns
  | object {fields : Entries Json} {foreigns : List Json} (distinct : (Entries.keys fields).Nodup)
      (h : FieldsAround fields foreigns) : WrittenAround (.object fields) foreigns

/-- Items that are written around foreign values. -/
inductive Json.ItemsAround : List Json → List Json → Prop
  | nil : ItemsAround [] []
  | cons {first : Json} {rest foreigns others : List Json} (h : WrittenAround first foreigns)
      (hrest : ItemsAround rest others) : ItemsAround (first :: rest) (foreigns ++ others)

/-- Fields that are written around foreign values, with data among them. -/
inductive Json.FieldsAround : Entries Json → List Json → Prop
  | nil : FieldsAround [] []
  | cons {value : Json} {rest : Entries Json} {foreigns others : List Json} (key : String)
      (h : WrittenAround value foreigns) (hrest : FieldsAround rest others) :
      FieldsAround ((key, value) :: rest) (foreigns ++ others)
  | data {rest : Entries Json} {foreigns : List Json} (attached : Entries Json)
      (hrest : FieldsAround rest foreigns) :
      FieldsAround (("data", .object attached) :: rest) foreigns

end

namespace Json

theorem FieldsAround.append {fields others : Entries Json} {foreigns more : List Json}
    (h : FieldsAround fields foreigns) (hothers : FieldsAround others more) :
    FieldsAround (fields ++ others) (foreigns ++ more) := by
  match h with
  | .nil => exact hothers
  | .cons key hvalue hrest =>
    rw [List.append_assoc]
    exact .cons key hvalue (hrest.append hothers)
  | .data attached hrest => exact .data attached (hrest.append hothers)

/-- A field without foreign values in it. -/
theorem FieldsAround.plain {value : Json} {rest : Entries Json} {foreigns : List Json}
    (key : String) (h : value.WrittenAround []) (hrest : FieldsAround rest foreigns) :
    FieldsAround ((key, value) :: rest) foreigns :=
  .cons key h hrest

/-- A field that alone has foreign values in it. -/
theorem FieldsAround.alone {value : Json} {rest : Entries Json} {foreigns : List Json}
    (key : String) (h : value.WrittenAround foreigns) (hrest : FieldsAround rest []) :
    FieldsAround ((key, value) :: rest) foreigns := by
  rw [← List.append_nil foreigns]
  exact .cons key h hrest

theorem fieldsAround_fieldOf {α : Type} {encode : α → Json}
    (h : ∀ value, (encode value).WrittenAround []) (key : String) (value : Option α) :
    FieldsAround (fieldOf key encode value) [] := by
  cases value with
  | none => exact .nil
  | some value => exact .plain key (h value) .nil

theorem writtenAround_ofNat (value : Nat) : (ofNat value).WrittenAround [] :=
  .number _

end Json

theorem LineColumn.writtenAround (place : LineColumn) : place.toJson.WrittenAround [] :=
  .object (by simp) (.plain _ (.number _) (.plain _ (.number _) .nil))

theorem Location.writtenAround (location : Location) : location.toJson.WrittenAround [] :=
  .object (by simp)
    (.plain _ location.start.writtenAround (.plain _ location.stop.writtenAround .nil))

theorem Span.writtenAround_range (range : Nat × Nat) :
    (Span.rangeToJson range).WrittenAround [] :=
  .array (.cons (.number _) (.cons (.number _) .nil))

/-- The fields of an origin have nothing foreign in them but the data. -/
theorem Origin.fieldsAround (origin : Origin) : Json.FieldsAround origin.toFields [] := by
  have hspan : Json.FieldsAround origin.span.toFields [] :=
    (((Json.fieldsAround_fieldOf Json.writtenAround_ofNat "start" _).append
      (Json.fieldsAround_fieldOf Json.writtenAround_ofNat "end" _)).append
        (Json.fieldsAround_fieldOf Location.writtenAround "loc" _)).append
          (Json.fieldsAround_fieldOf Span.writtenAround_range "range" _)
  refine hspan.append ?_
  cases origin.data with
  | none => exact .nil
  | some data => exact .data data .nil

/-- Fields of a node with the fields of an origin behind them. -/
theorem Origin.writtenAround {fields : Entries Json} {foreigns : List Json}
    (distinct : (Entries.keys fields ++ keys).Nodup) (h : Json.FieldsAround fields foreigns)
    (origin : Origin) : (Json.object (fields ++ origin.toFields)).WrittenAround foreigns := by
  have hfields := h.append origin.fieldsAround
  rw [List.append_nil] at hfields
  refine .object ?_ hfields
  rw [Entries.keys_append]
  exact ((List.Sublist.refl _).append origin.keys_toFields_sublist).nodup distinct

theorem Comment.writtenAround (comment : Comment) : comment.toJson.WrittenAround [] := by
  have hkeys :
      (Entries.keys comment.ownFields).Sublist ["type", "value", "leading", "trailing"] := by
    simp only [ownFields, Entries.keys_append]
    exact ((List.Sublist.refl ["type", "value"]).append (Json.keys_fieldOf_sublist _ _ _)).append
      (Json.keys_fieldOf_sublist _ _ _)
  refine comment.origin.writtenAround ((hkeys.append_right Origin.keys).nodup (by decide)) ?_
  exact ((Json.FieldsAround.plain _ (.string _) (.plain _ (.string _) .nil)).append
    (Json.fieldsAround_fieldOf .bool _ _)).append (Json.fieldsAround_fieldOf .bool _ _)

namespace Jsx

/-! ## Foreign values -/

mutual

/-- The foreign values in an element or fragment, in the order in which they are written. -/
def Markup.foreigns : Markup → List Json
  | .element attributes _ _ _ children _ =>
    attributesForeigns attributes ++ childrenForeigns children
  | .fragment attributes _ children _ =>
    attributesForeigns attributes ++ childrenForeigns children
termination_by structural value => value

/-- The foreign values in a child. -/
def Child.foreigns : Child → List Json
  | .markup value => value.foreigns
  | .container value => value.foreigns
  | .foreign value => [value]
termination_by structural value => value

/-- The foreign values in a container. -/
def Container.foreigns : Container → List Json
  | .empty _ _ _ => []
  | .expression value _ => value.foreigns
termination_by structural value => value

/-- The foreign values in an expression. -/
def Expression.foreigns : Expression → List Json
  | .markup value => value.foreigns
  | .literal _ => []
  | .object properties => propertiesForeigns properties
  | .foreign value => [value]
termination_by structural value => value

/-- The foreign values in a property. -/
def Property.foreigns : Property → List Json
  | .mk _ _ _ _ value => value.foreigns
termination_by structural value => value

/-- The foreign values in an attribute. -/
def Attribute.foreigns : Attribute → List Json
  | .bare _ _ => []
  | .named _ value _ => value.foreigns
  | .spread argument _ => argument.foreigns
termination_by structural value => value

/-- The foreign values in the value of an attribute. -/
def AttributeValue.foreigns : AttributeValue → List Json
  | .literal _ => []
  | .container value => value.foreigns
termination_by structural value => value

/-- The foreign values in children. -/
def childrenForeigns : List Child → List Json
  | [] => []
  | child :: rest => child.foreigns ++ childrenForeigns rest
termination_by structural children => children

/-- The foreign values in attributes. -/
def attributesForeigns : List Attribute → List Json
  | [] => []
  | first :: rest => first.foreigns ++ attributesForeigns rest
termination_by structural attributes => attributes

/-- The foreign values in properties. -/
def propertiesForeigns : List Property → List Json
  | [] => []
  | property :: rest => property.foreigns ++ propertiesForeigns rest
termination_by structural properties => properties

end

/-- The foreign values in a statement. -/
def Statement.foreigns : Statement → List Json
  | .expression value _ => value.foreigns
  | .foreign value => [value]

/-- The foreign values in a program, in the order in which they are written. -/
def Program.foreigns (program : Program) : List Json :=
  program.body.flatMap Statement.foreigns

/-! ## No key twice -/

open Json (ItemsAround FieldsAround)

/-- A node is written around what its own fields are written around, if none of these has a key that
its type or its origin may have. -/
theorem writtenAround_nodeJson {type : String} {fields : Entries Json} {foreigns : List Json}
    {origin : Origin} (h : FieldsAround fields foreigns)
    (distinct : ("type" :: Entries.keys fields ++ Origin.keys).Nodup) :
    (nodeJson type fields origin).WrittenAround foreigns :=
  @Origin.writtenAround (("type", .string type) :: fields) foreigns distinct
    (.plain "type" (.string type) h) origin

theorem writtenAround_identifierJson (name : String) : (identifierJson name).WrittenAround [] :=
  writtenAround_nodeJson (.plain _ (.string name) .nil) (by simp [Origin.keys])

theorem writtenAround_memberJson {object property : Json} (hobject : object.WrittenAround [])
    (hproperty : property.WrittenAround []) : (memberJson object property).WrittenAround [] :=
  writtenAround_nodeJson (.plain _ hobject (.plain _ hproperty .nil)) (by simp [Origin.keys])

theorem writtenAround_namespacedJson (space name : String) :
    (namespacedJson space name).WrittenAround [] :=
  writtenAround_nodeJson (.plain _ (writtenAround_identifierJson space)
    (.plain _ (writtenAround_identifierJson name) .nil)) (by simp [Origin.keys])

theorem MemberObject.writtenAround (object : MemberObject) : object.toJson.WrittenAround [] := by
  induction object with
  | identifier name => exact writtenAround_identifierJson name
  | member object property ih =>
    exact writtenAround_memberJson ih (writtenAround_identifierJson property)

theorem ElementName.writtenAround (name : ElementName) : name.toJson.WrittenAround [] := by
  cases name with
  | identifier name => exact writtenAround_identifierJson name
  | member object property =>
    exact writtenAround_memberJson object.writtenAround (writtenAround_identifierJson property)
  | namespaced space name => exact writtenAround_namespacedJson space name

theorem AttributeName.writtenAround (name : AttributeName) : name.toJson.WrittenAround [] := by
  cases name with
  | identifier name => exact writtenAround_identifierJson name
  | namespaced space name => exact writtenAround_namespacedJson space name

theorem Literal.writtenAround (literal : Literal) : literal.toJson.WrittenAround [] := by
  refine writtenAround_nodeJson (.plain _ ?_ .nil) (by simp [Origin.keys])
  cases literal.value with
  | string value => exact .string value
  | bool value => exact .bool value

theorem PropertyKey.writtenAround (key : PropertyKey) : key.toJson.WrittenAround [] := by
  cases key with
  | identifier name =>
    exact writtenAround_nodeJson (.plain _ (.string name) .nil) (by simp [Origin.keys])
  | literal value => exact value.writtenAround

theorem writtenAround_closingJson (closing : Option ElementName) :
    (closingJson closing).WrittenAround [] := by
  cases closing with
  | none => exact .null
  | some name =>
    exact writtenAround_nodeJson (.plain _ name.writtenAround .nil) (by simp [Origin.keys])

theorem itemsAround_comments (comments : List Comment) :
    ItemsAround (comments.map Comment.toJson) [] := by
  induction comments with
  | nil => exact .nil
  | cons comment rest ih => exact .cons comment.writtenAround ih

theorem writtenAround_emptyExpression (comments : List Comment) (inner : Origin) :
    (nodeJson "JSXEmptyExpression" (commentsField comments) inner).WrittenAround [] := by
  cases comments with
  | nil => exact writtenAround_nodeJson .nil (by simp [Origin.keys, commentsField])
  | cons comment rest =>
    exact writtenAround_nodeJson (.plain _ (.array (itemsAround_comments (comment :: rest))) .nil)
      (by simp [Origin.keys, commentsField])

mutual

theorem Markup.writtenAround (value : Markup) : value.toJson.WrittenAround value.foreigns := by
  match value with
  | .element attributes name selfClosing closing children origin =>
    have hopening : (nodeJson "JSXOpeningElement"
        [("attributes", .array (attributesJson attributes)), ("name", name.toJson),
          ("selfClosing", .bool selfClosing)] {}).WrittenAround (attributesForeigns attributes) :=
      writtenAround_nodeJson (.alone _ (.array (itemsAround_attributes attributes))
        (.plain _ name.writtenAround (.plain _ (.bool _) .nil))) (by simp [Origin.keys])
    exact writtenAround_nodeJson (.cons _ hopening (.plain _ (writtenAround_closingJson closing)
      (.alone _ (.array (itemsAround_children children)) .nil))) (by simp [Origin.keys])
  | .fragment attributes selfClosing children origin =>
    have hopening : (nodeJson "JSXOpeningFragment"
        [("attributes", .array (attributesJson attributes)),
          ("selfClosing", .bool selfClosing)] {}).WrittenAround (attributesForeigns attributes) :=
      writtenAround_nodeJson (.alone _ (.array (itemsAround_attributes attributes))
        (.plain _ (.bool _) .nil)) (by simp [Origin.keys])
    have hclosing : (nodeJson "JSXClosingFragment" [] {}).WrittenAround [] :=
      writtenAround_nodeJson .nil (by simp [Origin.keys])
    exact writtenAround_nodeJson (.cons _ hopening (.plain _ hclosing
      (.alone _ (.array (itemsAround_children children)) .nil))) (by simp [Origin.keys])
termination_by structural value

theorem Child.writtenAround (child : Child) : child.toJson.WrittenAround child.foreigns := by
  match child with
  | .markup value => exact value.writtenAround
  | .container value => exact value.writtenAround
  | .foreign value => exact .foreign value
termination_by structural child

theorem Container.writtenAround (container : Container) :
    container.toJson.WrittenAround container.foreigns := by
  match container with
  | .empty comments inner origin =>
    exact writtenAround_nodeJson (.plain _ (writtenAround_emptyExpression comments inner) .nil)
      (by simp [Origin.keys])
  | .expression value origin =>
    exact writtenAround_nodeJson (.alone _ value.writtenAround .nil) (by simp [Origin.keys])
termination_by structural container

theorem Expression.writtenAround (expression : Expression) :
    expression.toJson.WrittenAround expression.foreigns := by
  match expression with
  | .markup value => exact value.writtenAround
  | .literal value => exact value.writtenAround
  | .object properties =>
    exact writtenAround_nodeJson (.alone _ (.array (itemsAround_properties properties)) .nil)
      (by simp [Origin.keys])
  | .foreign value => exact .foreign value
termination_by structural expression

theorem Property.writtenAround (property : Property) :
    property.toJson.WrittenAround property.foreigns := by
  match property with
  | .mk method shorthand computed key value =>
    exact writtenAround_nodeJson (.plain _ (.bool _) (.plain _ (.bool _) (.plain _ (.bool _)
      (.plain _ key.writtenAround (.alone _ value.writtenAround (.plain _ (.string _) .nil))))))
      (by simp [Origin.keys])
termination_by structural property

theorem Attribute.writtenAround (item : Attribute) : item.toJson.WrittenAround item.foreigns := by
  match item with
  | .bare name origin =>
    exact writtenAround_nodeJson (.plain _ name.writtenAround (.plain _ .null .nil))
      (by simp [Origin.keys])
  | .named name value origin =>
    exact writtenAround_nodeJson (.plain _ name.writtenAround (.alone _ value.writtenAround .nil))
      (by simp [Origin.keys])
  | .spread argument origin =>
    exact writtenAround_nodeJson (.alone _ argument.writtenAround .nil) (by simp [Origin.keys])
termination_by structural item

theorem AttributeValue.writtenAround (value : AttributeValue) :
    value.toJson.WrittenAround value.foreigns := by
  match value with
  | .literal value => exact value.writtenAround
  | .container value => exact value.writtenAround
termination_by structural value

theorem itemsAround_children (children : List Child) :
    ItemsAround (childrenJson children) (childrenForeigns children) := by
  match children with
  | [] => exact .nil
  | child :: rest => exact .cons child.writtenAround (itemsAround_children rest)
termination_by structural children

theorem itemsAround_attributes (attributes : List Attribute) :
    ItemsAround (attributesJson attributes) (attributesForeigns attributes) := by
  match attributes with
  | [] => exact .nil
  | first :: rest => exact .cons first.writtenAround (itemsAround_attributes rest)
termination_by structural attributes

theorem itemsAround_properties (properties : List Property) :
    ItemsAround (propertiesJson properties) (propertiesForeigns properties) := by
  match properties with
  | [] => exact .nil
  | property :: rest => exact .cons property.writtenAround (itemsAround_properties rest)
termination_by structural properties

end

theorem Statement.writtenAround (statement : Statement) :
    statement.toJson.WrittenAround statement.foreigns := by
  cases statement with
  | expression value origin =>
    exact writtenAround_nodeJson (.alone _ value.writtenAround .nil) (by simp [Origin.keys])
  | foreign value => exact .foreign value

theorem itemsAround_statements (statements : List Statement) :
    ItemsAround (statements.map Statement.toJson) (statements.flatMap Statement.foreigns) := by
  induction statements with
  | nil => exact .nil
  | cons statement rest ih => exact .cons statement.writtenAround ih

theorem Program.writtenAround (program : Program) :
    program.toJson.WrittenAround program.foreigns :=
  writtenAround_nodeJson (.alone _ (.array (itemsAround_statements program.body))
    (.plain _ (.string _) (.plain _ (.array (itemsAround_comments program.comments)) .nil)))
    (by simp [Origin.keys])

/-! ## The same JSON -/

/-- The type of a node can be told from its JSON. -/
theorem type_eq_of_nodeJson_eq {type type' : String} {fields fields' : Entries Json}
    {origin origin' : Origin} (h : nodeJson type fields origin = nodeJson type' fields' origin') :
    type = type' :=
  Json.string.inj (Prod.mk.inj (List.cons.inj (Json.object.inj h)).1).2

/-- **What a node is written from can be told from its JSON,** if the number of its own fields is
known. -/
theorem eq_of_nodeJson_eq {type type' : String} {fields fields' : Entries Json}
    {origin origin' : Origin} (h : nodeJson type fields origin = nodeJson type' fields' origin')
    (hlength : fields.length = fields'.length) : fields = fields' ∧ origin = origin' := by
  obtain ⟨hfields, horigin⟩ := List.append_inj (List.cons.inj (Json.object.inj h)).2 hlength
  exact ⟨hfields, Origin.toFields_injective horigin⟩

theorem identifierJson_injective : Function.Injective identifierJson := by
  intro name name' h
  simpa using (eq_of_nodeJson_eq h rfl).1

theorem memberJson_inj {object object' property property' : Json}
    (h : memberJson object property = memberJson object' property') :
    object = object' ∧ property = property' := by
  simpa using (eq_of_nodeJson_eq h rfl).1

theorem namespacedJson_inj {space space' name name' : String}
    (h : namespacedJson space name = namespacedJson space' name') :
    space = space' ∧ name = name' := by
  simpa [identifierJson_injective.eq_iff] using (eq_of_nodeJson_eq h rfl).1

theorem MemberObject.toJson_injective : Function.Injective MemberObject.toJson := by
  intro object
  induction object with
  | identifier name =>
    intro object' h
    cases object' with
    | identifier name' => rw [identifierJson_injective h]
    | member => exact absurd (type_eq_of_nodeJson_eq h) (by decide)
  | member object property ih =>
    intro object' h
    cases object' with
    | identifier => exact absurd (type_eq_of_nodeJson_eq h) (by decide)
    | member object' property' =>
      obtain ⟨hobject, hproperty⟩ := memberJson_inj h
      rw [ih hobject, identifierJson_injective hproperty]

theorem ElementName.toJson_injective : Function.Injective ElementName.toJson := by
  intro name name' h
  cases name with
  | identifier name =>
    cases name' with
    | identifier => rw [identifierJson_injective h]
    | member => exact absurd (type_eq_of_nodeJson_eq h) (by decide)
    | namespaced => exact absurd (type_eq_of_nodeJson_eq h) (by decide)
  | member object property =>
    cases name' with
    | identifier => exact absurd (type_eq_of_nodeJson_eq h) (by decide)
    | member =>
      obtain ⟨hobject, hproperty⟩ := memberJson_inj h
      rw [MemberObject.toJson_injective hobject, identifierJson_injective hproperty]
    | namespaced => exact absurd (type_eq_of_nodeJson_eq h) (by decide)
  | namespaced space name =>
    cases name' with
    | identifier => exact absurd (type_eq_of_nodeJson_eq h) (by decide)
    | member => exact absurd (type_eq_of_nodeJson_eq h) (by decide)
    | namespaced =>
      obtain ⟨rfl, rfl⟩ := namespacedJson_inj h
      rfl

theorem AttributeName.toJson_injective : Function.Injective AttributeName.toJson := by
  intro name name' h
  cases name with
  | identifier name =>
    cases name' with
    | identifier => rw [identifierJson_injective h]
    | namespaced => exact absurd (type_eq_of_nodeJson_eq h) (by decide)
  | namespaced space name =>
    cases name' with
    | identifier => exact absurd (type_eq_of_nodeJson_eq h) (by decide)
    | namespaced =>
      obtain ⟨rfl, rfl⟩ := namespacedJson_inj h
      rfl

theorem Literal.toJson_injective : Function.Injective Literal.toJson := by
  rintro ⟨value, origin⟩ ⟨value', origin'⟩ h
  obtain ⟨hfields, rfl⟩ := eq_of_nodeJson_eq h rfl
  cases value <;> cases value' <;> simp_all

theorem PropertyKey.toJson_injective : Function.Injective PropertyKey.toJson := by
  intro key key' h
  cases key with
  | identifier name =>
    cases key' with
    | identifier name' => simpa using (eq_of_nodeJson_eq h rfl).1
    | literal => exact absurd (type_eq_of_nodeJson_eq h) (by decide)
  | literal value =>
    cases key' with
    | identifier => exact absurd (type_eq_of_nodeJson_eq h) (by decide)
    | literal value' => rw [Literal.toJson_injective h]

theorem closingJson_injective : Function.Injective closingJson := by
  intro closing closing' h
  cases closing with
  | none =>
    cases closing' with
    | none => rfl
    | some => exact nomatch h
  | some name =>
    cases closing' with
    | none => exact nomatch h
    | some name' =>
      simpa [ElementName.toJson_injective.eq_iff] using (eq_of_nodeJson_eq h rfl).1

/-- An empty container has one field more if it has comments, but no origin has a field of that
name. -/
theorem eq_of_emptyExpression_eq {comments comments' : List Comment} {inner inner' : Origin}
    (h : nodeJson "JSXEmptyExpression" (commentsField comments) inner =
      nodeJson "JSXEmptyExpression" (commentsField comments') inner') :
    comments = comments' ∧ inner = inner' := by
  have hget : ∀ (comments : List Comment) (inner : Origin),
      (nodeJson "JSXEmptyExpression" (commentsField comments) inner).field? "comments" =
        if comments = [] then none else some (.array (comments.map Comment.toJson)) := by
    intro comments inner
    have hnone : Entries.get? "comments" inner.toFields = none :=
      Origin.get?_toFields_of_not_mem (by decide) inner
    cases comments <;> simp [nodeJson, commentsField, Entries.get?_cons, hnone]
  have hcomments : comments = comments' := by
    have heq := congrArg (Json.field? "comments") h
    rw [hget, hget] at heq
    cases comments with
    | nil =>
      cases comments' with
      | nil => rfl
      | cons => simp at heq
    | cons comment rest =>
      cases comments' with
      | nil => simp at heq
      | cons comment' rest' =>
        simp only [reduceCtorEq, if_false, Option.some.injEq, Json.array.injEq] at heq
        exact List.map_injective_iff.2 Comment.toJson_injective heq
  subst hcomments
  exact ⟨rfl, (eq_of_nodeJson_eq h rfl).2⟩

/-! The type of a node also tells which of the types of the output it is a value of. -/

theorem Markup.toJson_ne_of_kind? {value : Markup} {other : Json} {kind : String}
    (h : other.kind? = some kind) (helement : "JSXElement" ≠ kind)
    (hfragment : "JSXFragment" ≠ kind) : value.toJson ≠ other := by
  rintro rfl
  rcases value.kind?_toJson with hkind | hkind
  · exact helement (Option.some.inj (hkind.symm.trans h))
  · exact hfragment (Option.some.inj (hkind.symm.trans h))

/-- No expression is written as an empty one. -/
theorem Expression.toJson_ne_emptyExpression {expression : Expression}
    (hown : expression.foreigns = []) {fields : Entries Json} {origin : Origin} :
    expression.toJson ≠ nodeJson "JSXEmptyExpression" fields origin := by
  cases expression with
  | markup value => exact Markup.toJson_ne_of_kind? rfl (by decide) (by decide)
  | literal value => exact fun h => absurd (type_eq_of_nodeJson_eq h) (by decide)
  | object properties => exact fun h => absurd (type_eq_of_nodeJson_eq h) (by decide)
  | foreign value => exact nomatch hown

theorem AttributeValue.toJson_ne_null (value : AttributeValue) : value.toJson ≠ .null := by
  cases value with
  | literal value => exact fun h => nomatch h
  | container value => cases value <;> exact fun h => nomatch h

theorem Container.toJson_ne_literal (container : Container) (literal : Literal) :
    container.toJson ≠ literal.toJson := by
  intro h
  have hkind := congrArg Json.kind? h
  rw [container.kind?_toJson] at hkind
  exact absurd (Option.some.inj hkind) (by decide)

mutual

theorem Markup.eq_of_toJson_eq (value value' : Markup) (hown : value.foreigns = [])
    (hown' : value'.foreigns = []) (h : value.toJson = value'.toJson) : value = value' := by
  match value, value' with
  | .element attributes name selfClosing closing children origin,
      .element attributes' name' selfClosing' closing' children' origin' =>
    obtain ⟨hattributes, hchildren⟩ := List.append_eq_nil_iff.1 hown
    obtain ⟨hattributes', hchildren'⟩ := List.append_eq_nil_iff.1 hown'
    obtain ⟨hfields, rfl⟩ := eq_of_nodeJson_eq h rfl
    simp only [List.cons.injEq, Prod.mk.injEq, true_and, and_true, Json.array.injEq] at hfields
    obtain ⟨hopening, hclosing, hinside⟩ := hfields
    obtain ⟨hfields, -⟩ := eq_of_nodeJson_eq hopening rfl
    simp only [List.cons.injEq, Prod.mk.injEq, true_and, and_true, Json.array.injEq,
      Json.bool.injEq] at hfields
    obtain ⟨hitems, hname, rfl⟩ := hfields
    rw [eq_of_attributesJson_eq attributes attributes' hattributes hattributes' hitems,
      ElementName.toJson_injective hname, closingJson_injective hclosing,
      eq_of_childrenJson_eq children children' hchildren hchildren' hinside]
  | .fragment attributes selfClosing children origin,
      .fragment attributes' selfClosing' children' origin' =>
    obtain ⟨hattributes, hchildren⟩ := List.append_eq_nil_iff.1 hown
    obtain ⟨hattributes', hchildren'⟩ := List.append_eq_nil_iff.1 hown'
    obtain ⟨hfields, rfl⟩ := eq_of_nodeJson_eq h rfl
    simp only [List.cons.injEq, Prod.mk.injEq, true_and, and_true, Json.array.injEq] at hfields
    obtain ⟨hopening, hinside⟩ := hfields
    obtain ⟨hfields, -⟩ := eq_of_nodeJson_eq hopening rfl
    simp only [List.cons.injEq, Prod.mk.injEq, true_and, and_true, Json.array.injEq,
      Json.bool.injEq] at hfields
    obtain ⟨hitems, rfl⟩ := hfields
    rw [eq_of_attributesJson_eq attributes attributes' hattributes hattributes' hitems,
      eq_of_childrenJson_eq children children' hchildren hchildren' hinside]
  | .element .., .fragment .. => exact absurd (type_eq_of_nodeJson_eq h) (by decide)
  | .fragment .., .element .. => exact absurd (type_eq_of_nodeJson_eq h) (by decide)
termination_by structural value

theorem Child.eq_of_toJson_eq (child child' : Child) (hown : child.foreigns = [])
    (hown' : child'.foreigns = []) (h : child.toJson = child'.toJson) : child = child' := by
  match child, child' with
  | .markup value, .markup value' => rw [value.eq_of_toJson_eq value' hown hown' h]
  | .container value, .container value' => rw [value.eq_of_toJson_eq value' hown hown' h]
  | .markup _, .container value' =>
    exact absurd h (Markup.toJson_ne_of_kind? value'.kind?_toJson (by decide) (by decide))
  | .container value, .markup _ =>
    exact absurd h.symm (Markup.toJson_ne_of_kind? value.kind?_toJson (by decide) (by decide))
  | .foreign _, _ => exact nomatch hown
  | _, .foreign _ => exact nomatch hown'
termination_by structural child

theorem Container.eq_of_toJson_eq (container container' : Container)
    (hown : container.foreigns = []) (hown' : container'.foreigns = [])
    (h : container.toJson = container'.toJson) : container = container' := by
  match container, container' with
  | .empty comments inner origin, .empty comments' inner' origin' =>
    obtain ⟨hfields, rfl⟩ := eq_of_nodeJson_eq h rfl
    simp only [List.cons.injEq, Prod.mk.injEq, true_and, and_true] at hfields
    obtain ⟨rfl, rfl⟩ := eq_of_emptyExpression_eq hfields
    rfl
  | .expression value origin, .expression value' origin' =>
    obtain ⟨hfields, rfl⟩ := eq_of_nodeJson_eq h rfl
    simp only [List.cons.injEq, Prod.mk.injEq, true_and, and_true] at hfields
    rw [value.eq_of_toJson_eq value' hown hown' hfields]
  | .empty .., .expression .. =>
    have hfields := (eq_of_nodeJson_eq h rfl).1
    simp only [List.cons.injEq, Prod.mk.injEq, true_and, and_true] at hfields
    exact absurd hfields.symm (Expression.toJson_ne_emptyExpression hown')
  | .expression .., .empty .. =>
    have hfields := (eq_of_nodeJson_eq h rfl).1
    simp only [List.cons.injEq, Prod.mk.injEq, true_and, and_true] at hfields
    exact absurd hfields (Expression.toJson_ne_emptyExpression hown)
termination_by structural container

theorem Expression.eq_of_toJson_eq (expression expression' : Expression)
    (hown : expression.foreigns = []) (hown' : expression'.foreigns = [])
    (h : expression.toJson = expression'.toJson) : expression = expression' := by
  match expression, expression' with
  | .markup value, .markup value' => rw [value.eq_of_toJson_eq value' hown hown' h]
  | .literal value, .literal value' => rw [Literal.toJson_injective h]
  | .object properties, .object properties' =>
    have hfields := (eq_of_nodeJson_eq h rfl).1
    simp only [List.cons.injEq, Prod.mk.injEq, true_and, and_true, Json.array.injEq] at hfields
    rw [eq_of_propertiesJson_eq properties properties' hown hown' hfields]
  | .markup _, .literal _ =>
    exact absurd h (Markup.toJson_ne_of_kind? rfl (by decide) (by decide))
  | .markup _, .object _ =>
    exact absurd h (Markup.toJson_ne_of_kind? rfl (by decide) (by decide))
  | .literal _, .markup _ =>
    exact absurd h.symm (Markup.toJson_ne_of_kind? rfl (by decide) (by decide))
  | .object _, .markup _ =>
    exact absurd h.symm (Markup.toJson_ne_of_kind? rfl (by decide) (by decide))
  | .literal _, .object _ => exact absurd (type_eq_of_nodeJson_eq h) (by decide)
  | .object _, .literal _ => exact absurd (type_eq_of_nodeJson_eq h) (by decide)
  | .foreign _, _ => exact nomatch hown
  | _, .foreign _ => exact nomatch hown'
termination_by structural expression

theorem Property.eq_of_toJson_eq (property property' : Property) (hown : property.foreigns = [])
    (hown' : property'.foreigns = []) (h : property.toJson = property'.toJson) :
    property = property' := by
  match property, property' with
  | .mk method shorthand computed key value, .mk method' shorthand' computed' key' value' =>
    have hfields := (eq_of_nodeJson_eq h rfl).1
    simp only [List.cons.injEq, Prod.mk.injEq, true_and, and_true, Json.bool.injEq] at hfields
    obtain ⟨rfl, rfl, rfl, hkey, hvalue⟩ := hfields
    rw [PropertyKey.toJson_injective hkey, value.eq_of_toJson_eq value' hown hown' hvalue]
termination_by structural property

theorem Attribute.eq_of_toJson_eq (item item' : Attribute) (hown : item.foreigns = [])
    (hown' : item'.foreigns = []) (h : item.toJson = item'.toJson) : item = item' := by
  match item, item' with
  | .bare name origin, .bare name' origin' =>
    obtain ⟨hfields, rfl⟩ := eq_of_nodeJson_eq h rfl
    simp only [List.cons.injEq, Prod.mk.injEq, true_and, and_true] at hfields
    rw [AttributeName.toJson_injective hfields]
  | .named name value origin, .named name' value' origin' =>
    obtain ⟨hfields, rfl⟩ := eq_of_nodeJson_eq h rfl
    simp only [List.cons.injEq, Prod.mk.injEq, true_and, and_true] at hfields
    obtain ⟨hname, hvalue⟩ := hfields
    rw [AttributeName.toJson_injective hname, value.eq_of_toJson_eq value' hown hown' hvalue]
  | .spread argument origin, .spread argument' origin' =>
    obtain ⟨hfields, rfl⟩ := eq_of_nodeJson_eq h rfl
    simp only [List.cons.injEq, Prod.mk.injEq, true_and, and_true] at hfields
    rw [argument.eq_of_toJson_eq argument' hown hown' hfields]
  | .bare .., .named _ value' _ =>
    have hfields := (eq_of_nodeJson_eq h rfl).1
    simp only [List.cons.injEq, Prod.mk.injEq, true_and, and_true] at hfields
    exact absurd hfields.2.symm value'.toJson_ne_null
  | .named _ value _, .bare .. =>
    have hfields := (eq_of_nodeJson_eq h rfl).1
    simp only [List.cons.injEq, Prod.mk.injEq, true_and, and_true] at hfields
    exact absurd hfields.2 value.toJson_ne_null
  | .bare .., .spread .. => exact absurd (type_eq_of_nodeJson_eq h) (by decide)
  | .named .., .spread .. => exact absurd (type_eq_of_nodeJson_eq h) (by decide)
  | .spread .., .bare .. => exact absurd (type_eq_of_nodeJson_eq h) (by decide)
  | .spread .., .named .. => exact absurd (type_eq_of_nodeJson_eq h) (by decide)
termination_by structural item

theorem AttributeValue.eq_of_toJson_eq (value value' : AttributeValue)
    (hown : value.foreigns = []) (hown' : value'.foreigns = [])
    (h : value.toJson = value'.toJson) : value = value' := by
  match value, value' with
  | .literal value, .literal value' => rw [Literal.toJson_injective h]
  | .container value, .container value' => rw [value.eq_of_toJson_eq value' hown hown' h]
  | .literal literal, .container value' => exact absurd h.symm (value'.toJson_ne_literal literal)
  | .container value, .literal literal => exact absurd h (value.toJson_ne_literal literal)
termination_by structural value

theorem eq_of_childrenJson_eq (children children' : List Child)
    (hown : childrenForeigns children = []) (hown' : childrenForeigns children' = [])
    (h : childrenJson children = childrenJson children') : children = children' := by
  match children, children' with
  | [], [] => rfl
  | child :: rest, child' :: rest' =>
    obtain ⟨hfirst, hrest⟩ := List.append_eq_nil_iff.1 hown
    obtain ⟨hfirst', hrest'⟩ := List.append_eq_nil_iff.1 hown'
    obtain ⟨hjson, hothers⟩ := List.cons.inj h
    rw [child.eq_of_toJson_eq child' hfirst hfirst' hjson,
      eq_of_childrenJson_eq rest rest' hrest hrest' hothers]
  | [], _ :: _ => exact nomatch h
  | _ :: _, [] => exact nomatch h
termination_by structural children

theorem eq_of_attributesJson_eq (attributes attributes' : List Attribute)
    (hown : attributesForeigns attributes = []) (hown' : attributesForeigns attributes' = [])
    (h : attributesJson attributes = attributesJson attributes') : attributes = attributes' := by
  match attributes, attributes' with
  | [], [] => rfl
  | first :: rest, first' :: rest' =>
    obtain ⟨hfirst, hrest⟩ := List.append_eq_nil_iff.1 hown
    obtain ⟨hfirst', hrest'⟩ := List.append_eq_nil_iff.1 hown'
    obtain ⟨hjson, hothers⟩ := List.cons.inj h
    rw [first.eq_of_toJson_eq first' hfirst hfirst' hjson,
      eq_of_attributesJson_eq rest rest' hrest hrest' hothers]
  | [], _ :: _ => exact nomatch h
  | _ :: _, [] => exact nomatch h
termination_by structural attributes

theorem eq_of_propertiesJson_eq (properties properties' : List Property)
    (hown : propertiesForeigns properties = []) (hown' : propertiesForeigns properties' = [])
    (h : propertiesJson properties = propertiesJson properties') : properties = properties' := by
  match properties, properties' with
  | [], [] => rfl
  | property :: rest, property' :: rest' =>
    obtain ⟨hfirst, hrest⟩ := List.append_eq_nil_iff.1 hown
    obtain ⟨hfirst', hrest'⟩ := List.append_eq_nil_iff.1 hown'
    obtain ⟨hjson, hothers⟩ := List.cons.inj h
    rw [property.eq_of_toJson_eq property' hfirst hfirst' hjson,
      eq_of_propertiesJson_eq rest rest' hrest hrest' hothers]
  | [], _ :: _ => exact nomatch h
  | _ :: _, [] => exact nomatch h
termination_by structural properties

end

theorem Statement.eq_of_toJson_eq {statement statement' : Statement}
    (hown : statement.foreigns = []) (hown' : statement'.foreigns = [])
    (h : statement.toJson = statement'.toJson) : statement = statement' := by
  cases statement with
  | expression value origin =>
    cases statement' with
    | expression value' origin' =>
      obtain ⟨hfields, rfl⟩ := eq_of_nodeJson_eq h rfl
      simp only [List.cons.injEq, Prod.mk.injEq, true_and, and_true] at hfields
      rw [value.eq_of_toJson_eq value' hown hown' hfields]
    | foreign => exact nomatch hown'
  | foreign => exact nomatch hown

theorem eq_of_statementsJson_eq {statements statements' : List Statement}
    (hown : ∀ statement ∈ statements, statement.foreigns = [])
    (hown' : ∀ statement ∈ statements', statement.foreigns = [])
    (h : statements.map Statement.toJson = statements'.map Statement.toJson) :
    statements = statements' := by
  induction statements generalizing statements' with
  | nil => exact (List.map_eq_nil_iff.1 h.symm).symm
  | cons statement rest ih =>
    cases statements' with
    | nil => exact nomatch h
    | cons statement' rest' =>
      rw [List.forall_mem_cons] at hown hown'
      obtain ⟨hjson, hothers⟩ := List.cons.inj h
      rw [Statement.eq_of_toJson_eq hown.1 hown'.1 hjson, ih hown.2 hown'.2 hothers]

/-- **The JSON of a program is faithful.**  Two programs without foreign values are the same if
their JSON is.  In the JSON of any program no object that is written for a node has a key twice: it
is written around the foreign values of the program. -/
theorem toJson_faithful :
    (∀ program program' : Program, program.foreigns = [] → program'.foreigns = [] →
      program.toJson = program'.toJson → program = program') ∧
    ∀ program : Program, program.toJson.WrittenAround program.foreigns := by
  refine ⟨fun program program' hown hown' h => ?_, Program.writtenAround⟩
  obtain ⟨body, comments, origin⟩ := program
  obtain ⟨body', comments', origin'⟩ := program'
  obtain ⟨hfields, rfl⟩ := eq_of_nodeJson_eq h rfl
  simp only [List.cons.injEq, Prod.mk.injEq, true_and, and_true, Json.array.injEq] at hfields
  obtain ⟨hbody, hcomments⟩ := hfields
  obtain rfl : body = body' := eq_of_statementsJson_eq (List.flatMap_eq_nil_iff.1 hown)
    (List.flatMap_eq_nil_iff.1 hown') hbody
  obtain rfl : comments = comments' :=
    List.map_injective_iff.2 Comment.toJson_injective hcomments
  rfl

/-- A program of one statement, with a comment and with data under the name of a field. -/
def programAround (value : Markup) : Program where
  body := [.expression (.markup value) {}]
  comments := [{ kind := .line, text := "a", leading := some true }]
  origin := { span := { start := some 0 }, data := some [("body", .null)] }

/-- An element that is put together as in a conversion is the same as one that closes itself, since
they are written in the same way; and no object in what is written has a key twice. -/
theorem toJson_faithful_programAround :
    let value : Markup := .elementOf (.ofString "a.b") [.bare (.identifier "c") {}] [] {}
    let value' : Markup := .element [.bare (.identifier "c") {}]
      (.member (.identifier "a") "b") true none [] {}
    (programAround value).foreigns = [] ∧ (programAround value').foreigns = [] ∧
      (programAround value).toJson = (programAround value').toJson ∧
      programAround value = programAround value' ∧
      (programAround value).toJson.WrittenAround [] :=
  ⟨rfl, rfl, rfl, toJson_faithful.1 _ _ rfl rfl rfl, toJson_faithful.2 _⟩

end Jsx
end MarkupJsx
