import MarkupJsx.CommandLine.Run
import MarkupJsx.Script.InsertionSort

/-!
# The program

Reads a tree from a file or from standard input, and writes its program to a file or to standard
output.  All that is decided is decided by `CommandLine.Arguments.parse` and `CommandLine.run`.
-/

namespace MarkupJsx
namespace CommandLine

/-- How the program is used. -/
def usage : String :=
  "Usage: markupjsx [-o FILE] [-P] [--space html|svg] [--attribute-name-case react|html] " ++
    "[--style-property-name-case dom|css] [FILE]"

/-- What is said about arguments that are refused. -/
def refusalText : Refusal → String
  | .invalidValue => "an option has no value or an unknown one"
  | .unknownArgument => "unexpected argument"
  | .argumentConflict => "an option is given twice"
  | .tooManyValues => "a flag takes no value"
  | .displayHelp => usage

/-- Everything that standard input holds. -/
def readInput : IO String := do
  let input ← IO.getStdin
  let mut lines := #[]
  repeat
    let line ← input.getLine
    if line.isEmpty then break
    lines := lines.push line
  return String.join lines.toList

open scoped Sorting.Insertion in
/-- Runs the program with parsed arguments. -/
def runWith (arguments : Arguments) : IO UInt32 := do
  let source ←
    match arguments.entryPoint with
    | some file => IO.FS.readFile file
    | none => readInput
  match run arguments source with
  | .error error =>
    IO.eprintln error.message
    return 1
  | .ok text =>
    match arguments.output with
    | some file => IO.FS.writeFile file text
    | none => IO.println text
    return 0

end CommandLine
end MarkupJsx

open MarkupJsx.CommandLine in
/-- Parses the arguments and runs the program with them. -/
def main (commandLine : List String) : IO UInt32 := do
  match Arguments.parse commandLine with
  | .error .displayHelp =>
    IO.println usage
    return 0
  | .error refusal =>
    IO.eprintln (refusalText refusal)
    return 2
  | .ok arguments =>
    try runWith arguments
    catch error =>
      IO.eprintln (toString error)
      return 1
