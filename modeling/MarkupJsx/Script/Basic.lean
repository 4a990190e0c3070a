import MarkupJsx.Origin

/-!
# Embedded scripts

Some nodes of a tree carry a piece of script that has been parsed already: its statements, which
stay opaque JSON values, the comments found while it was parsed, and the span of the whole piece.

Reading a script is strict: a single malformed part makes the whole of it unreadable.  What that
means for the node that carries it is decided where the node is read.
-/

namespace MarkupJsx

/-- The two spellings of a comment. -/
inductive CommentKind where
  | block
  | line
  deriving DecidableEq, Inhabited

/-- A comment of a script, or one that stands for a comment of the markup.  The two marks are set
when the comment is placed on a node: whether it stands before that node, and whether it stands
after the nodes inside it. -/
structure Comment where
  kind : CommentKind
  text : String
  leading : Option Bool := none
  trailing : Option Bool := none
  origin : Origin := {}
  deriving Inhabited

/-- A piece of script: statements, comments in the order in which they were found, and a span. -/
structure Script where
  body : List Json := []
  comments : List Comment := []
  span : Span := {}
  deriving Inhabited

namespace CommentKind

/-- The name under which a kind is written. -/
def name : CommentKind → String
  | block => "Block"
  | line => "Line"

/-- The kind with a given name. -/
def ofName? : String → Option CommentKind
  | "Block" => some block
  | "Line" => some line
  | _ => none

/-- Reads a kind: its name, or an object with nothing under its name. -/
def ofJson? : Json → Option CommentKind
  | .string name => ofName? name
  | .object [(name, .null)] => ofName? name
  | _ => none

@[simp] theorem ofName?_name (kind : CommentKind) : ofName? kind.name = some kind := by
  cases kind <;> rfl

end CommentKind

namespace Comment

/-- A copy that has been placed on a node. -/
def placed (comment : Comment) (leading trailing : Bool) : Comment :=
  { comment with leading := some leading, trailing := some trailing }

/-- A comment without its marks. -/
def unmarked (comment : Comment) : Comment :=
  { comment with leading := none, trailing := none }

/-- Placing changes the marks alone. -/
@[simp] theorem unmarked_placed (comment : Comment) (leading trailing : Bool) :
    (comment.placed leading trailing).unmarked = comment.unmarked := rfl

/-- Reads a comment. -/
def ofJson? (value : Json) : Option Comment := do
  let fields ← value.object?
  let kind ← Json.required fields "type" CommentKind.ofJson?
  let text ← Json.required fields "value" Json.string?
  let leading ← Json.optional fields "leading" Json.bool?
  let trailing ← Json.optional fields "trailing" Json.bool?
  let span ← Span.ofFields? fields
  let data ← Json.optional fields "data" Json.object?
  some { kind, text, leading, trailing, origin := { span, data } }

/-- A comment as a JSON value. -/
def toJson (comment : Comment) : Json :=
  .object <|
    [("type", .string comment.kind.name), ("value", .string comment.text)] ++
      Json.fieldOf "leading" Json.bool comment.leading ++
      Json.fieldOf "trailing" Json.bool comment.trailing ++
      comment.origin.toFields

end Comment

/-- Reads a script. -/
def Script.ofJson? (value : Json) : Option Script := do
  let fields ← value.object?
  let body ← Json.defaulted fields "body" [] Json.array?
  let comments ← Json.defaulted fields "comments" [] (Json.listOf? Comment.ofJson?)
  let span ← Span.ofFields? fields
  some { body, comments, span }

end MarkupJsx
