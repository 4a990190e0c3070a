import MarkupJsx.Conversion.Program
import MarkupJsx.Proofs.Conversion.Rules
import MarkupJsx.Proofs.Script.Frame
import MarkupJsx.Script.InsertionSort

/-!
# What stands for an embedded script

Three things of a tree carry a script with an expression: an expression of the markup, an expression
as the value of an attribute, and a spread among the attributes.  What is written for them is taken
from the first statement of the script, and where nothing can be taken a placeholder stands: an
empty expression, or an empty object.

## What is meant

* `Script.Means`: the expression of the first statement, if it is there and not `null`.
* `Script.Spreads`: what the first property of that expression spreads, if it is an object and that
  property is a spread.

Both are read after the comments of the script have been placed.  Reading passes by the field
`comments`, so what is meant before and after is the same up to comments, one step of the reading
after the other (`commentedPart_head?`, `Commented.field?`, `Commented.ofKind?`,
`Commented.unlessNull`).

## What is not checked

The type of the first statement is not looked at, and an expression statement is not the only one
with a field of that name: that of a function says whether its body is a mere expression.  So
`StandsFor` says that what is meant stands there, whatever the statement is, and that this is as it
should be exactly if the first statement is an expression statement or nothing is taken from it.  A
function declaration is neither (`toProgram_functionDeclaration`).
-/

namespace MarkupJsx
open Jsx

namespace Script

/-! ## What is meant -/

/-- The expression of the first statement: it is there and it is not `null`. -/
def Means (body : List Json) (expression : Json) : Prop :=
  ∃ statement others, body = statement :: others ∧
    statement.field? "expression" = some expression ∧ expression ≠ .null

/-- What the first property of the object in the first statement spreads. -/
def Spreads (body : List Json) (argument : Json) : Prop :=
  ∃ object property others, Means body object ∧ object.kind? = some "ObjectExpression" ∧
    object.field? "properties" = some (.array (property :: others)) ∧
    property.kind? = some "SpreadElement" ∧
    property.field? "argument" = some argument ∧ argument ≠ .null

/-- The first statement is an expression statement. -/
def StartsWithExpression (body : List Json) : Prop :=
  ∃ statement others, body = statement :: others ∧ statement.kind? = some "ExpressionStatement"

/-! ## Reading it step by step -/

/-- A value that is not `null`. -/
def unlessNull : Json → Option Json
  | .null => none
  | value => some value

/-- A value of a type. -/
def ofKind? (type : String) (value : Json) : Option Json :=
  if value.kind? = some type then some value else none

theorem unlessNull_eq_some_iff {value result : Json} :
    unlessNull value = some result ↔ value = result ∧ result ≠ .null := by
  cases value with
  | null => exact iff_of_false nofun fun h => h.2 h.1.symm
  | _ => exact Option.some_inj.trans (iff_self_and.2 (· ▸ nofun))

theorem unlessNull_of_ne {value : Json} (h : value ≠ .null) : unlessNull value = some value :=
  unlessNull_eq_some_iff.2 ⟨rfl, h⟩

theorem ofKind?_eq_some_iff {type : String} {value result : Json} :
    ofKind? type value = some result ↔ value = result ∧ result.kind? = some type := by
  rw [ofKind?]
  split
  · rename_i hkind
    exact Option.some_inj.trans (iff_self_and.2 (· ▸ hkind))
  · rename_i hkind
    exact iff_of_false nofun fun h => hkind (h.1 ▸ h.2)

theorem present?_eq (key : String) (fields : Entries Json) :
    present? key fields = (Entries.get? key fields).bind unlessNull := by
  rw [present?]
  rcases Entries.get? key fields with none | value
  · rfl
  · cases value <;> rfl

theorem firstExpression?_eq (body : List Json) :
    firstExpression? body = (body.head?.bind (Json.field? "expression")).bind unlessNull := by
  match body with
  | [] => rfl
  | .object fields :: _ => exact present?_eq "expression" fields
  | .null :: _ => rfl
  | .bool _ :: _ => rfl
  | .number _ :: _ => rfl
  | .string _ :: _ => rfl
  | .array _ :: _ => rfl

theorem fieldsOfType?_eq (type : String) (value : Json) :
    fieldsOfType? type value = (ofKind? type value).bind Json.object? := by
  rw [ofKind?, Json.kind?, Json.field?]
  cases value with
  | object fields =>
    rw [fieldsOfType?, Json.object?, Option.bind_some]
    rcases Entries.get? "type" fields with none | kind
    · rfl
    · cases kind with
      | string name => by_cases h : name = type <;> simp [h, Json.string?, Json.object?]
      | null => rfl
      | bool value => rfl
      | number value => rfl
      | array items => rfl
      | object fields => rfl
  | null => rfl
  | bool value => rfl
  | number value => rfl
  | string value => rfl
  | array items => rfl

/-- The argument of a spread. -/
def argument? (property : Json) : Option Json :=
  ((ofKind? "SpreadElement" property).bind (Json.field? "argument")).bind unlessNull

/-- What the first property of an object spreads. -/
def firstSpread? (object : Json) : Option Json :=
  (((ofKind? "ObjectExpression" object).bind (Json.field? "properties")).bind (Json.item? 0)).bind
    argument?

theorem argument?_eq (property : Json) :
    argument? property = (fieldsOfType? "SpreadElement" property).bind (present? "argument") := by
  rw [argument?, fieldsOfType?_eq]
  rcases ofKind? "SpreadElement" property with none | same
  · rfl
  · cases same with
    | object fields => exact (present?_eq "argument" fields).symm
    | null => rfl
    | bool value => rfl
    | number value => rfl
    | string value => rfl
    | array items => rfl

theorem spreadArgument?_eq (body : List Json) :
    spreadArgument? body = (firstExpression? body).bind firstSpread? := by
  rw [spreadArgument?]
  refine congrArg (Option.bind (firstExpression? body)) (funext fun object => ?_)
  show (fieldsOfType? "ObjectExpression" object).bind _ = _
  rw [firstSpread?, fieldsOfType?_eq]
  rcases ofKind? "ObjectExpression" object with none | same
  · rfl
  · cases same with
    | object fields =>
      rw [Option.bind_some, Option.bind_some, Json.field?_object, Json.object?, Option.bind_some]
      rcases Entries.get? "properties" fields with none | properties
      · rfl
      · cases properties with
        | array properties =>
          cases properties with
          | nil => rfl
          | cons property others => exact (argument?_eq property).symm
        | null => rfl
        | bool value => rfl
        | number value => rfl
        | string value => rfl
        | object fields => rfl
    | null => rfl
    | bool value => rfl
    | number value => rfl
    | string value => rfl
    | array items => rfl

theorem firstExpression?_eq_some_iff {body : List Json} {expression : Json} :
    firstExpression? body = some expression ↔ Means body expression := by
  rw [firstExpression?_eq]
  constructor
  · intro h
    obtain ⟨value, hvalue, hpresent⟩ := Option.bind_eq_some_iff.1 h
    obtain ⟨rfl, hnull⟩ := unlessNull_eq_some_iff.1 hpresent
    obtain ⟨statement, hhead, hfield⟩ := Option.bind_eq_some_iff.1 hvalue
    obtain ⟨others, rfl⟩ := List.head?_eq_some_iff.1 hhead
    exact ⟨statement, others, rfl, hfield, hnull⟩
  · rintro ⟨statement, others, rfl, hfield, hnull⟩
    rw [List.head?_cons, Option.bind_some, hfield]
    exact unlessNull_of_ne hnull

theorem spreadArgument?_eq_some_iff {body : List Json} {argument : Json} :
    spreadArgument? body = some argument ↔ Spreads body argument := by
  rw [spreadArgument?_eq]
  constructor
  · intro h
    obtain ⟨object, hmeans, hspread⟩ := Option.bind_eq_some_iff.1 h
    obtain ⟨property, hproperty, hargument⟩ := Option.bind_eq_some_iff.1 hspread
    obtain ⟨properties, hproperties, hfirst⟩ := Option.bind_eq_some_iff.1 hproperty
    obtain ⟨same, hsame, hfield⟩ := Option.bind_eq_some_iff.1 hproperties
    obtain ⟨rfl, hobject⟩ := ofKind?_eq_some_iff.1 hsame
    obtain ⟨value, hvalue, hpresent⟩ := Option.bind_eq_some_iff.1 hargument
    obtain ⟨rfl, hnull⟩ := unlessNull_eq_some_iff.1 hpresent
    obtain ⟨same, hsame, hvalue⟩ := Option.bind_eq_some_iff.1 hvalue
    obtain ⟨rfl, hspread⟩ := ofKind?_eq_some_iff.1 hsame
    match properties, hfirst with
    | .array (_ :: others), rfl =>
      exact ⟨object, property, others, firstExpression?_eq_some_iff.1 hmeans, hobject, hfield,
        hspread, hvalue, hnull⟩
  · rintro ⟨object, property, others, hmeans, hobject, hproperties, hspread, hfield, hnull⟩
    rw [firstExpression?_eq_some_iff.2 hmeans, Option.bind_some, firstSpread?,
      ofKind?_eq_some_iff.2 ⟨rfl, hobject⟩, Option.bind_some, hproperties, Option.bind_some]
    show argument? property = some argument
    rw [argument?, ofKind?_eq_some_iff.2 ⟨rfl, hspread⟩, Option.bind_some, hfield]
    exact unlessNull_of_ne hnull

/-! ## Comments change nothing of it -/

namespace Commented

variable {before after : Json} (h : Commented before after)
include h

theorem bare_eq : bare false after = bare false before := by
  cases h with
  | same => rfl
  | annotated comments path inArray =>
    cases inArray with
    | false => exact bare_annotate comments path false before
    | true =>
      cases before with
      | object fields => exact bare_annotate comments path false (.object fields)
      | array items => rfl
      | null => rfl
      | bool value => rfl
      | number value => rfl
      | string value => rfl

theorem string? : after.string? = before.string? :=
  h.scalar (fun _ => rfl) fun _ => rfl

theorem kind? : after.kind? = before.kind? := by
  have hkind := h.field? (by decide : "type" ≠ commentsKey)
  rw [Json.kind?, Json.kind?]
  generalize before.field? "type" = kind, after.field? "type" = other at hkind
  cases hkind with
  | none => rfl
  | some hkind => exact hkind.string?

theorem ofKind? (type : String) : CommentedPart (ofKind? type before) (ofKind? type after) := by
  rw [Script.ofKind?, Script.ofKind?, h.kind?]
  split
  · exact .some h
  · exact .none

/-- No comments are written to `null`. -/
theorem eq_null_iff : after = .null ↔ before = .null := by
  cases h with
  | same => exact Iff.rfl
  | annotated comments path inArray =>
    cases before with
    | object fields => rw [annotate]; split <;> exact iff_of_false nofun nofun
    | array items => rw [annotate]; split <;> exact iff_of_false nofun nofun
    | null => exact Iff.rfl
    | bool value => exact Iff.rfl
    | number value => exact Iff.rfl
    | string value => exact Iff.rfl

theorem unlessNull : CommentedPart (unlessNull before) (unlessNull after) := by
  by_cases hnull : before = .null
  · rw [h.eq_null_iff.2 hnull, hnull]
    exact .none
  · rw [unlessNull_of_ne hnull, unlessNull_of_ne (mt h.eq_null_iff.1 hnull)]
    exact .some h

end Commented

/-- One more step of reading. -/
theorem CommentedPart.bind {before after : Option Json} (h : CommentedPart before after)
    {read : Json → Option Json}
    (hread : ∀ {value other : Json}, Commented value other →
      CommentedPart (read value) (read other)) :
    CommentedPart (before.bind read) (after.bind read) := by
  cases h with
  | none => exact .none
  | some h => exact hread h

theorem commentedPart_head? [Sorter] (script : Script) :
    CommentedPart script.body.head? script.annotatedBody.head? := by
  rw [annotatedBody]
  cases script.body with
  | nil => exact .none
  | cons statement others => exact .some (.annotated _ _ true)

theorem commentedPart_firstExpression? [Sorter] (script : Script) :
    CommentedPart (firstExpression? script.body) (firstExpression? script.annotatedBody) := by
  rw [firstExpression?_eq, firstExpression?_eq]
  have hexpression := (commentedPart_head? script).field? (by decide : "expression" ≠ commentsKey)
  exact hexpression.bind Commented.unlessNull

theorem Commented.argument? {before after : Json} (h : Commented before after) :
    CommentedPart (argument? before) (argument? after) := by
  have hargument := (h.ofKind? "SpreadElement").field? (by decide : "argument" ≠ commentsKey)
  exact hargument.bind Commented.unlessNull

theorem commentedPart_spreadArgument? [Sorter] (script : Script) :
    CommentedPart (spreadArgument? script.body) (spreadArgument? script.annotatedBody) := by
  rw [spreadArgument?_eq, spreadArgument?_eq]
  refine (commentedPart_firstExpression? script).bind fun h => ?_
  have hproperties := (h.ofKind? "ObjectExpression").field?
    (by decide : "properties" ≠ commentsKey)
  exact (hproperties.item? 0).bind Commented.argument?

/-- Two readings mean the same, up to the comments of nodes. -/
def SameMeaning (plain annotated : Json → Prop) : Prop :=
  (∀ value, plain value → ∃ other, annotated other ∧ bare false other = bare false value) ∧
    ∀ other, annotated other → ∃ value, plain value ∧ bare false other = bare false value

theorem CommentedPart.sameMeaning {before after : Option Json} (h : CommentedPart before after) :
    SameMeaning (before = some ·) (after = some ·) := by
  cases h with
  | none => exact ⟨nofun, nofun⟩
  | @some value other h =>
    constructor
    · intro same hsame
      obtain rfl := Option.some.inj hsame
      exact ⟨other, rfl, h.bare_eq⟩
    · intro same hsame
      obtain rfl := Option.some.inj hsame
      exact ⟨value, rfl, h.bare_eq⟩

end Script

/-! ## What stands for it -/

namespace Source

/-- The statements of the script attached to something, if there is one. -/
def statements (source : Source) : List Json :=
  (source.script.map Script.body).getD []

/-- The same statements with the comments of the script placed on their nodes. -/
def annotatedStatements [Sorter] (source : Source) : List Json :=
  (source.script.map Script.annotatedBody).getD []

/-- A script that is missing means as little as one without statements. -/
theorem bind_annotatedBody [Sorter] {α : Type} {part : List Json → Option α}
    (hempty : part [] = none) (source : Source) :
    (source.script.map Script.annotatedBody).bind part = part source.annotatedStatements := by
  rw [annotatedStatements]
  cases source.script with
  | none => exact hempty.symm
  | some script => rfl

end Source

section StandsFor

variable {α : Type}

/-- What is meant is used, and if nothing is meant there is a placeholder. -/
def Takes (meant : Json → Prop) (use : Json → α) (placeholder result : α) : Prop :=
  (∃ value, meant value ∧ result = use value) ∨ (∀ value, ¬meant value) ∧ result = placeholder

variable [Sorter]

/-- What stands for the script attached to something, where `meant` says what statements mean. -/
structure StandsFor (source : Source) (meant : List Json → Json → Prop) (use : Json → α)
    (placeholder result : α) : Prop where
  /-- What is meant stands there, with its comments, whatever the first statement is. -/
  takes : Takes (meant source.annotatedStatements) use placeholder result
  /-- The comments are all that has been added. -/
  same : Script.SameMeaning (meant source.statements) (meant source.annotatedStatements)
  /-- Nothing but an expression statement is used, exactly if whatever means something is one. -/
  takes_iff :
    Takes (fun value => Script.StartsWithExpression source.statements ∧
        meant source.annotatedStatements value) use placeholder result ↔
      ((∃ value, meant source.statements value) → Script.StartsWithExpression source.statements)

theorem StandsFor.of_same {source : Source} {meant : List Json → Json → Prop} {use : Json → α}
    {placeholder result : α} (huse : ∀ value, use value ≠ placeholder)
    (htakes : Takes (meant source.annotatedStatements) use placeholder result)
    (hsame : Script.SameMeaning (meant source.statements) (meant source.annotatedStatements)) :
    StandsFor source meant use placeholder result where
  takes := htakes
  same := hsame
  takes_iff := by
    rcases htakes with ⟨value, hmeant, rfl⟩ | ⟨hnothing, rfl⟩
    · constructor
      · rintro (⟨-, ⟨hstarts, -⟩, -⟩ | ⟨-, hplaceholder⟩) -
        · exact hstarts
        · exact absurd hplaceholder (huse value)
      · intro hstarts
        obtain ⟨plain, hplain, -⟩ := hsame.2 value hmeant
        exact Or.inl ⟨value, ⟨hstarts ⟨plain, hplain⟩, hmeant⟩, rfl⟩
    · constructor
      · rintro - ⟨plain, hplain⟩
        obtain ⟨value, hmeant, -⟩ := hsame.1 plain hplain
        exact absurd hmeant (hnothing value)
      · intro _
        exact Or.inr ⟨fun value hmeant => hnothing value hmeant.2, rfl⟩

/-- What is read of a script stands for it, if comments do not get in the way of the reading. -/
theorem standsFor_getD (part : List Json → Option Json) {meant : List Json → Json → Prop}
    (hmeant : ∀ {body value}, part body = some value ↔ meant body value)
    (hpart : ∀ script : Script, Script.CommentedPart (part script.body) (part script.annotatedBody))
    (source : Source) {use : Json → α} {placeholder : α} (huse : ∀ value, use value ≠ placeholder) :
    StandsFor source meant use placeholder
      (((part source.annotatedStatements).map use).getD placeholder) := by
  have hmeaning : meant = fun body value => part body = some value :=
    funext fun body => funext fun value => propext hmeant.symm
  subst hmeaning
  refine StandsFor.of_same huse ?_ ?_
  · rcases part source.annotatedStatements with none | value
    · exact Or.inr ⟨nofun, rfl⟩
    · exact Or.inl ⟨value, rfl, rfl⟩
  · rw [Source.statements, Source.annotatedStatements]
    cases source.script with
    | none => exact (Script.CommentedPart.refl (part [])).sameMeaning
    | some script => exact (hpart script).sameMeaning

end StandsFor

namespace Conversion

theorem containerOf_eq (expression : Option Json) (inner origin : Origin) :
    containerOf expression inner origin =
      (expression.map fun value => .expression (.foreign value) origin).getD
        (.empty [] inner origin) := by
  cases expression <;> rfl

theorem spreadOf_eq (argument : Option Json) (origin : Origin) :
    spreadOf argument origin = .spread ((argument.map .foreign).getD (.object [])) origin := by
  cases argument <;> rfl

/-- **What the first statement of a script means stands for the script,** whatever that statement is.

Take anything that carries a script, or none.  An expression of the markup becomes a container, so
does a value among the attributes of a component, and a spread among them becomes a spread; the
comments of the script are logged.  If they cannot be placed, this is the end; otherwise, in a
container stands the expression of the first statement with its comments, and nothing at all if
there is none.  What is spread is the argument of the first property, if that expression is an
object and that property a spread, and the empty object otherwise.

All of this is so for every type of statement.  Only what an expression statement means is used
exactly if the first statement is one or nothing is taken from it. -/
theorem script_standsFor [Sorter] (convert : Node → Conversion Converted) (placement : Placement)
    (name : String) (outer source : Source) (state : State) :
    let logged : State := { state with comments := state.comments ++ source.scriptComments }
    let use (value : Json) : Container := .expression (.foreign value) source.origin
    (∃ container : Container,
      (convertByKind convert (.expression placement source)).run state =
        (if source.settled then .ok (.one (.container container)) else .error .unsorted, logged) ∧
      StandsFor source Script.Means use (.empty [] source.spanOrigin source.origin) container) ∧
    (∃ container : Container,
      (convertAttribute (.named outer name (some (.expression source)))).run state =
        (if source.settled then .ok (.named (.ofString name) (.container container) outer.origin)
          else .error .unsorted, logged) ∧
      StandsFor source Script.Means use (.empty [] {} source.origin) container) ∧
    ∃ argument : Expression,
      (convertAttribute (.spread source)).run state =
        (if source.settled then .ok (.spread argument source.origin) else .error .unsorted,
          logged) ∧
      StandsFor source Script.Spreads .foreign (.object []) argument := by
  intro logged use
  have hmeans (placeholder : Container) (huse : ∀ value, use value ≠ placeholder) :=
    standsFor_getD Script.firstExpression? Script.firstExpression?_eq_some_iff
      Script.commentedPart_firstExpression? source huse
  have hspreads : ∀ value, Expression.foreign value ≠ .object [] := fun _ => nofun
  refine ⟨⟨_, ?_, hmeans _ fun _ => nofun⟩, ⟨_, ?_, hmeans _ fun _ => nofun⟩, ⟨_, ?_,
    standsFor_getD Script.spreadArgument? Script.spreadArgument?_eq_some_iff
      Script.commentedPart_spreadArgument? source hspreads⟩⟩
  · show (takeExpression source >>= fun expression => pure _).run state = _
    rw [run_bind, run_takeExpression, Source.bind_annotatedBody rfl, ← containerOf_eq]
    cases source.settled <;> rfl
  · rw [run_convertAttribute, ComponentAttribute.written, Source.bind_annotatedBody rfl,
      containerOf_eq]
    rfl
  · rw [run_convertAttribute, ComponentAttribute.written, Source.bind_annotatedBody rfl,
      spreadOf_eq]
    rfl

end Conversion

/-- A function declaration: its field `expression` says that its body is not a mere expression. -/
def functionDeclaration : Json :=
  .object [
    ("type", .string "FunctionDeclaration"),
    ("id", .object [("type", .string "Identifier"), ("name", .string "f")]),
    ("expression", .bool false),
    ("generator", .bool false),
    ("async", .bool false),
    ("params", .array []),
    ("body", .object [("type", .string "BlockStatement"), ("body", .array [])])]

open scoped Sorting.Insertion in
/-- **A truth value stands where an expression should:** the script is no expression statement, and
yet no placeholder stands for it. -/
theorem toProgram_functionDeclaration :
    let script : Script := { body := [functionDeclaration] }
    let container : Container := .expression (.foreign (.bool false)) {}
    ¬Script.StartsWithExpression script.body ∧
    container ≠ .empty [] {} {} ∧
    toProgram {} (.expression .flow { data := some { script := some script } }) = .ok {
      body := [.expression (.markup (.fragment [] false [.container container] {})) {}]
      comments := []
      origin := {} } := by
  intro script container
  refine ⟨?_, nofun, rfl⟩
  rintro ⟨statement, others, hbody, hkind⟩
  obtain ⟨rfl, -⟩ := List.cons.inj hbody
  exact absurd hkind (by decide)

end MarkupJsx
