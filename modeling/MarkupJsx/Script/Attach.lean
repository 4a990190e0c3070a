import MarkupJsx.Script.Place
import MarkupJsx.Script.Sorting

/-!
# Placing the comments of a script on its nodes

The comments of a script come as one list.  In the output each of them stands on the node that it
belongs to: the first node that starts at or after it, or, if none does before an enclosing node
ends, that enclosing node.

## One walk, one line of comments

A walk passes through the nodes of the script: past the start of a node, through the nodes inside
it, past its end.  Nodes inside one node are passed in the order in which they start
(`Sorting.sort`), which need not be the order of the fields that hold them.  So the nodes are found
first, as they are nested (`sites`), and then put in the order of the walk (`route`).

The sort may give up on nodes or comments that do not all say in one way where they start, and then
there is no script with its comments placed.  It is only asked to sort what the walk needs: nothing
at all if there are no comments, and the nodes inside a node if the walk enters that node
(`settled`).

The comments, sorted by where they start, stand in one line.  At every start and every end the walk
takes comments from the front of the line, as long as they start no later than the place that is
passed (`slice`).  A comment that is first in line and compares with no place holds up all that are
behind it.  Once the line is empty no further node is entered.

What is taken at the start and at the end of a node is copied to the node.  What is taken at the
start and at the end of the script itself is dropped, since the script is no part of the output.

Nothing else can go wrong.  A comment is text, two truth values, numbers and JSON, and each of these
can be written.

## The way to a node

Copies are written to their nodes after the walk.  In between a node is known by the way to it, the
index of each field and item (`Path`).  Comments are written over a field or behind the last one, so
writing them changes no way.

## What is a node inside a node

A node is an object with a text under `type`.  Inside a node are the nodes that stand in its fields
and in the arrays in its fields, but not those under `comments`, and not those deeper in arrays or
in objects that are no nodes.
-/

namespace MarkupJsx
namespace Script

/-- The way to a node: the index of each field, and of each item of an array, that leads to it. -/
abbrev Path := List Nat

/-- A node of a script: the way to it, its fields, and the nodes inside it. -/
inductive Site where
  | mk (path : Path) (fields : List (String × Json)) (inner : List Site)

instance : Inhabited Site := ⟨.mk [] [] []⟩

/-- The place of an end of a node. -/
def Site.place (edge : Edge) : Site → Place
  | .mk _ fields _ => .ofFields edge fields

/-- The field that holds comments, which is never looked into. -/
def commentsKey : String := "comments"

mutual

/-- The nodes in a value: the value itself, or the items of an array in a field. -/
def sitesOf (path : Path) (inArray : Bool) : Json → List Site
  | .object fields =>
    if Json.isNode fields then [.mk path fields (fieldSites path 0 fields)] else []
  | .array items => if inArray then [] else itemSites path 0 items
  | _ => []
termination_by structural value => value

/-- The nodes in fields, from the field with a given index on. -/
def fieldSites (path : Path) (index : Nat) : List (String × Json) → List Site
  | [] => []
  | (key, value) :: rest =>
    (if key = commentsKey then [] else sitesOf (path ++ [index]) false value) ++
      fieldSites path (index + 1) rest
termination_by structural fields => fields

/-- The nodes among items, from the item with a given index on. -/
def itemSites (path : Path) (index : Nat) : List Json → List Site
  | [] => []
  | item :: rest => sitesOf (path ++ [index]) true item ++ itemSites path (index + 1) rest
termination_by structural items => items

end

/-- The statements of a script that are nodes. -/
def sites (script : Script) : List Site :=
  itemSites [] 0 script.body

/-- Whether a node comes before a sibling. -/
def siteBefore (left right : Site) : Bool :=
  Place.keyBefore (left.place .start) (right.place .start)

variable [Sorter]

/-- Siblings in the order in which they are passed. -/
def arrange (sites : List Site) : List Site :=
  Sorting.sort siteBefore sites

/-- Whether siblings can be put in order, that is, whether the sort does not give up on them. -/
def settles (sites : List Site) : Bool :=
  (Sorter.sort? siteBefore sites).isSome

mutual

/-- A node with the nodes inside it in the order in which they are passed. -/
def Site.arranged : Site → Site
  | .mk path fields inner => .mk path fields (arrange (arrangedAll inner))
termination_by structural site => site

/-- Nodes with the nodes inside each of them in the order in which they are passed. -/
def arrangedAll : List Site → List Site
  | [] => []
  | site :: rest => site.arranged :: arrangedAll rest
termination_by structural sites => sites

end

/-- The nodes of a script as the walk passes them. -/
def route (script : Script) : List Site :=
  arrange (arrangedAll script.sites)

/-- Where a comment starts. -/
def startOf (comment : Comment) : Place :=
  .ofSpan .start comment.origin.span

/-- Whether a comment comes before another one. -/
def commentBefore (left right : Comment) : Bool :=
  Place.before (startOf left) (startOf right)

/-- The comments of a script in the order in which they start. -/
def sortedComments (script : Script) : List Comment :=
  Sorting.sort commentBefore script.comments

/-- Whether a comment starts no later than a place. -/
def isDue (place : Place) (comment : Comment) : Bool :=
  Place.reaches (startOf comment) place

/-- A copy of a comment, and the node that it is put on, if it is not dropped. -/
abbrev Copy := Option Path × Comment

/-- Takes comments from the front of the line, as long as they start no later than a place: their
copies, which are put on a node and marked, and what is left of the line. -/
def slice (owner : Option Path) (place : Place) (leading trailing : Bool) (line : List Comment) :
    List Copy × List Comment :=
  ((line.takeWhile (isDue place)).map fun comment => (owner, comment.placed leading trailing),
    line.dropWhile (isDue place))

mutual

/-- Walks through a node: the copies made, in the order in which they are made, and what is left of
the line. -/
def Site.walk : Site → List Comment → List Copy × List Comment
  | .mk path fields inner, line =>
    if line.isEmpty then ([], line)
    else
      let before := slice (some path) (.ofFields .start fields) true false line
      let inside := walkAll inner before.2
      let after := slice (some path) (.ofFields .stop fields) false (!inner.isEmpty) inside.2
      (before.1 ++ inside.1 ++ after.1, after.2)
termination_by structural site => site

/-- Walks through nodes one after the other. -/
def walkAll : List Site → List Comment → List Copy × List Comment
  | [], line => ([], line)
  | site :: rest, line =>
    let first := site.walk line
    let others := walkAll rest first.2
    (first.1 ++ others.1, others.2)
termination_by structural sites => sites

end

/-- Walks through a script. -/
def walk (script : Script) : List Copy × List Comment :=
  let before := slice none (.ofSpan .start script.span) true false script.sortedComments
  let inside := walkAll script.route before.2
  let after := slice none (.ofSpan .stop script.span) false (!script.route.isEmpty) inside.2
  (before.1 ++ inside.1 ++ after.1, after.2)

mutual

/-- The ways to the nodes that a walk through a node enters: there is still a comment in the line
when it comes to them. -/
def Site.entered : Site → List Comment → List Path
  | .mk path fields inner, line =>
    if line.isEmpty then []
    else path :: enteredAll inner (slice (some path) (.ofFields .start fields) true false line).2
termination_by structural site => site

/-- The ways to the nodes that a walk through nodes one after the other enters. -/
def enteredAll : List Site → List Comment → List Path
  | [], _ => []
  | site :: rest, line => site.entered line ++ enteredAll rest (site.walk line).2
termination_by structural sites => sites

end

/-- The ways to the nodes that the walk through a script enters. -/
def entered (script : Script) : List Path :=
  enteredAll script.route
    (slice none (.ofSpan .start script.span) true false script.sortedComments).2

mutual

/-- The ways to the nodes, from a given one on, inside which there are nodes that cannot be put in
order. -/
def Site.unsettled : Site → List Path
  | .mk path _ inner => (if settles inner then [] else [path]) ++ unsettledAll inner
termination_by structural site => site

/-- The ways to the nodes, from given ones on, inside which there are nodes that cannot be put in
order. -/
def unsettledAll : List Site → List Path
  | [] => []
  | site :: rest => site.unsettled ++ unsettledAll rest
termination_by structural sites => sites

end

/-- Whether all that the walk needs can be put in order: the comments, the statements, and the nodes
inside each node that is entered.  Without comments there is no walk. -/
def settled (script : Script) : Bool :=
  script.comments.isEmpty ||
    ((Sorter.sort? commentBefore script.comments).isSome && settles script.sites &&
      script.entered.all fun path => !(unsettledAll script.sites).contains path)

/-- The copies that are put on a node: first those made at its start, then those made at its end. -/
def copiesFor (copies : List Copy) (path : Path) : List Comment :=
  (copies.filter fun copy => copy.1 = some path).map Prod.snd

/-- Writes comments to the fields of a node, if there are any. -/
def writeComments (comments : List Comment) (fields : Entries Json) : Entries Json :=
  match comments with
  | [] => fields
  | comments => Entries.insert commentsKey (.array (comments.map Comment.toJson)) fields

mutual

/-- A value with the comments of its nodes written to them. -/
def annotate (comments : Path → List Comment) (path : Path) (inArray : Bool) : Json → Json
  | .object fields =>
    if Json.isNode fields then
      .object (writeComments (comments path) (annotateFields comments path 0 fields))
    else .object fields
  | .array items => if inArray then .array items else .array (annotateItems comments path 0 items)
  | value => value
termination_by structural value => value

/-- Fields with the comments of the nodes in them. -/
def annotateFields (comments : Path → List Comment) (path : Path) (index : Nat) :
    List (String × Json) → List (String × Json)
  | [] => []
  | (key, value) :: rest =>
    (key, if key = commentsKey then value else annotate comments (path ++ [index]) false value) ::
      annotateFields comments path (index + 1) rest
termination_by structural fields => fields

/-- Items with the comments of the nodes among them. -/
def annotateItems (comments : Path → List Comment) (path : Path) (index : Nat) :
    List Json → List Json
  | [] => []
  | item :: rest =>
    annotate comments (path ++ [index]) true item ::
      annotateItems comments path (index + 1) rest
termination_by structural items => items

end

/-- The statements of a script with its comments placed on their nodes. -/
def annotatedBody (script : Script) : List Json :=
  annotateItems (copiesFor script.walk.1) [] 0 script.body

/-- A script with its comments placed on its nodes; the list of comments stays as it is. -/
def annotated (script : Script) : Script :=
  { script with body := script.annotatedBody }

/-- Places the comments of a script on its nodes.  There is no such script if something that has to
be sorted cannot be sorted. -/
def attach (script : Script) : Option Script :=
  if script.settled then some script.annotated else none

end Script
end MarkupJsx
