import MarkupJsx.CommandLine.Arguments
import MarkupJsx.Jsx.Encode
import MarkupJsx.Json.Reader
import MarkupJsx.Tree.Decode

/-!
# From a text to a text

The text of a tree becomes the text of its program.  It fails if the text is not JSON, and
otherwise as the conversion fails.
-/

namespace MarkupJsx
namespace CommandLine

/-- Why there is no program. -/
inductive RunError where
  | json (fault : Json.Fault)
  | conversion (error : ConversionError)
  deriving Inhabited

/-- The message of an error. -/
def RunError.message : RunError → String
  | json .ended => "the JSON text ends too early"
  | json .malformed => "the text is not JSON"
  | conversion error => error.message

/-- The text of the program of a tree that is given as a text. -/
def run [Sorter] (arguments : Arguments) (source : String) : Except RunError String :=
  match Json.parse source with
  | .error fault => .error (.json fault)
  | .ok value =>
    match toProgram arguments.options (Node.ofJson value) with
    | .error error => .error (.conversion error)
    | .ok program =>
      .ok (if arguments.pretty then program.toJson.pretty else program.toJson.compact)

end CommandLine
end MarkupJsx
