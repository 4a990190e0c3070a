import MarkupJsx.Conversion.Program

/-!
# Command line arguments

Three options choose the namespace and the fashions of names, one names the file to write, a flag
asks for pretty output, and at most one argument beside these names the file to read.  An option
takes its value behind an equals sign, in the next argument, or, if it is a single letter, right
behind the letter; letters of flags can be put together.  Behind `--` there are no options.

Arguments are taken from left to right, and the first that cannot be taken decides why all are
refused.  A value that stands in an argument of its own is not judged where it stands, but only
when the next option, flag or value is taken, or at the end; until then it is pending.  Therefore
an argument that is not known at all is reported before a pending value that is wrong.

An argument that starts with a hyphen is never the value of the option before it.  A single hyphen
and an empty argument are values.
-/

namespace MarkupJsx
namespace CommandLine

/-- Why arguments are refused. -/
inductive Refusal where
  /-- An option has no value, or one that it does not know. -/
  | invalidValue
  /-- An option that is not known, or one file too many. -/
  | unknownArgument
  /-- An option or flag is given twice. -/
  | argumentConflict
  /-- A flag is given a value. -/
  | tooManyValues
  /-- No refusal: help is asked for. -/
  | displayHelp
  deriving DecidableEq, Inhabited

/-- What takes a value. -/
inductive Parameter where
  | output
  | space
  | attributeCase
  | styleCase
  | entryPoint
  deriving DecidableEq, Inhabited

/-- What has been given so far. -/
structure Arguments where
  output : Option String := none
  space : Option Namespace := none
  attributeCase : Option AttributeCase := none
  styleCase : Option StyleCase := none
  entryPoint : Option String := none
  pretty : Bool := false
  deriving DecidableEq, Inhabited

namespace Arguments

/-- Whether a parameter has been given. -/
def has (arguments : Arguments) : Parameter → Bool
  | .output => arguments.output.isSome
  | .space => arguments.space.isSome
  | .attributeCase => arguments.attributeCase.isSome
  | .styleCase => arguments.styleCase.isSome
  | .entryPoint => arguments.entryPoint.isSome

/-- The namespace with a given name. -/
def space? : String → Option Namespace
  | "html" => some .html
  | "svg" => some .svg
  | _ => none

/-- The fashion of attribute names with a given name. -/
def attributeCase? : String → Option AttributeCase
  | "react" => some .react
  | "html" => some .html
  | _ => none

/-- The fashion of style property names with a given name. -/
def styleCase? : String → Option StyleCase
  | "dom" => some .dom
  | "css" => some .css
  | _ => none

/-- Gives a parameter a value, if it can have that value. -/
def set? (arguments : Arguments) (parameter : Parameter) (value : String) : Option Arguments :=
  match parameter with
  | .output => some { arguments with output := some value }
  | .space => (space? value).map fun space => { arguments with space := some space }
  | .attributeCase =>
    (attributeCase? value).map fun names => { arguments with attributeCase := some names }
  | .styleCase => (styleCase? value).map fun names => { arguments with styleCase := some names }
  | .entryPoint => some { arguments with entryPoint := some value }

/-- Gives a parameter a value.  Of several causes to refuse it, a value that is not there comes
first, then a parameter that has been given before, and then a value that is not known. -/
def assign (arguments : Arguments) (parameter : Parameter) (value : Option String) :
    Except Refusal Arguments :=
  match value with
  | none => .error .invalidValue
  | some value =>
    if arguments.has parameter then .error .argumentConflict
    else
      match arguments.set? parameter value with
      | some arguments => .ok arguments
      | none => .error .invalidValue

/-- Sets the flag for pretty output, once. -/
def setPretty (arguments : Arguments) : Except Refusal Arguments :=
  if arguments.pretty then .error .argumentConflict else .ok { arguments with pretty := true }

/-- How a tree is converted under given arguments. -/
def options (arguments : Arguments) : Options where
  space := arguments.space.getD .html
  spelling :=
    { attributes := arguments.attributeCase.getD .react
      styles := arguments.styleCase.getD .dom }

end Arguments

/-- What an argument looks like. -/
inductive Shape where
  /-- Two hyphens. -/
  | separator
  /-- Two hyphens and a name, and a value behind an equals sign. -/
  | long (name : List Char) (value : Option (List Char))
  /-- A hyphen and letters. -/
  | short (letters : List Char)
  | value
  deriving DecidableEq

/-- The shape of an argument. -/
def shapeOf : List Char → Shape
  | ['-', '-'] => .separator
  | '-' :: '-' :: rest =>
    match Jsx.splitFirst? '=' rest with
    | some (name, value) => .long name (some value)
    | none => .long rest none
  | '-' :: letter :: letters => .short (letter :: letters)
  | _ => .value

/-- The arguments taken so far, and a parameter whose value has not been judged yet.  It has no
value as long as the value is still expected. -/
structure Progress where
  arguments : Arguments := {}
  pending : Option (Parameter × Option String) := none

namespace Progress

/-- Judges what is pending. -/
def settle (progress : Progress) : Except Refusal Arguments :=
  match progress.pending with
  | none => .ok progress.arguments
  | some (parameter, value) => progress.arguments.assign parameter value

/-- Expects a value for a parameter. -/
def await (progress : Progress) (parameter : Parameter) (value : Option String) :
    Except Refusal Progress :=
  progress.settle.map fun arguments => { arguments, pending := some (parameter, value) }

/-- Gives a parameter a value that stands in the same argument. -/
def attach (progress : Progress) (parameter : Parameter) (value : List Char) :
    Except Refusal Progress := do
  let arguments ← progress.settle
  let arguments ← arguments.assign parameter (some (String.ofList value))
  .ok { arguments }

/-- Sets the flag for pretty output. -/
def flagPretty (progress : Progress) : Except Refusal Progress := do
  let arguments ← progress.settle
  let arguments ← arguments.setPretty
  .ok { arguments }

/-- Asks for help. -/
def flagHelp (progress : Progress) : Except Refusal Progress := do
  let _ ← progress.settle
  .error .displayHelp

/-- Takes an option that is given by its name. -/
def takeLong (progress : Progress) (name : String) (value : Option (List Char)) :
    Except Refusal Progress :=
  let option (parameter : Parameter) :=
    match value with
    | some value => progress.attach parameter value
    | none => progress.await parameter none
  let flag (taken : Except Refusal Progress) :=
    if value.isSome then .error .tooManyValues else taken
  match name with
  | "output" => option .output
  | "space" => option .space
  | "attribute-name-case" => option .attributeCase
  | "style-property-name-case" => option .styleCase
  | "pretty" => flag progress.flagPretty
  | "help" => flag progress.flagHelp
  | _ => .error .unknownArgument

/-- Takes options that are given by their letters. -/
def takeShort (progress : Progress) : List Char → Except Refusal Progress
  | [] => .ok progress
  | 'P' :: rest =>
    match progress.flagPretty with
    | .ok progress => takeShort progress rest
    | .error refusal => .error refusal
  | 'h' :: _ => progress.flagHelp
  | ['o'] => progress.await .output none
  | 'o' :: '=' :: value => progress.attach .output value
  | 'o' :: value => progress.attach .output value
  | _ => .error .unknownArgument

/-- Whether the file to read has been named. -/
def hasEntryPoint (progress : Progress) : Bool :=
  progress.arguments.has .entryPoint || (progress.pending.map Prod.fst) = some .entryPoint

/-- Takes an argument that names the file to read. -/
def takeFile (progress : Progress) (file : String) : Except Refusal Progress :=
  if progress.hasEntryPoint then .error .unknownArgument
  else progress.await .entryPoint (some file)

/-- Takes an argument that is no option: the value that is expected, or else a file. -/
def takeValue (progress : Progress) (value : String) : Except Refusal Progress :=
  match progress.pending with
  | some (parameter, none) => .ok { progress with pending := some (parameter, some value) }
  | _ => progress.takeFile value

/-- Takes the arguments behind a separator. -/
def takeFiles (progress : Progress) : List String → Except Refusal Progress
  | [] => .ok progress
  | file :: rest =>
    match progress.takeFile file with
    | .ok progress => takeFiles progress rest
    | .error refusal => .error refusal

/-- Takes arguments. -/
def takeAll (progress : Progress) : List String → Except Refusal Progress
  | [] => .ok progress
  | argument :: rest =>
    let taken :=
      match shapeOf argument.toList with
      | .separator => none
      | .long name value => some (progress.takeLong (String.ofList name) value)
      | .short letters => some (progress.takeShort letters)
      | .value => some (progress.takeValue argument)
    match taken with
    | none => takeFiles progress rest
    | some (.ok progress) => takeAll progress rest
    | some (.error refusal) => .error refusal

end Progress

/-- The arguments that a command line gives. -/
def Arguments.parse (commandLine : List String) : Except Refusal Arguments := do
  let progress ← Progress.takeAll {} commandLine
  progress.settle

end CommandLine
end MarkupJsx
