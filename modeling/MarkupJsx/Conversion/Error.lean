import MarkupJsx.Style.Declaration
import MarkupJsx.Json.Writer

/-!
# What can go wrong in a conversion

A conversion is all or nothing: the first error that is met ends it.  There are four causes, and
each error carries what it is about.

Besides these, the sort that a script needs for its comments may give up.  This ends the whole
program, so nothing goes on after it and nothing gets to see it.  It is listed here as what a
conversion ends in, but it is no answer to the caller.  Writing the comments themselves to the nodes
of a script cannot fail, so there is no error for that.
-/

namespace MarkupJsx

/-- Why a tree has no program. -/
inductive ConversionError where
  /-- A value that is no node, or a node with a field of the wrong shape. -/
  | malformed (value : Json)
  /-- A node of a kind that nothing is known about. -/
  | unknownKind (kind : String)
  /-- A style text of an element that cannot be read. -/
  | style (tagName : String) (fault : Style.Fault)
  /-- A tree with more levels of nodes than allowed. -/
  | tooDeep (limit : Nat)
  /-- A sort has given up on the comments or the nodes of a script. -/
  | unsorted
  deriving Inhabited

/-- The message of an error. -/
def ConversionError.message : ConversionError → String
  | malformed value => "Cannot handle value `" ++ value.compact ++ "`, expected node"
  | unknownKind kind => "Cannot handle unknown node `" ++ kind ++ "`"
  | style tagName fault =>
    tagName ++ "[style]:" ++ toString fault.place.line ++ ":" ++ toString fault.place.column ++
      ": " ++ fault.cause.message
  | tooDeep limit => "Cannot handle tree deeper than " ++ toString limit ++ " nodes"
  | unsorted => "the starts of comments or nodes in a script are in no order"

end MarkupJsx
