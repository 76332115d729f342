import Startup.Arguments.Scan
import Startup.Convertor

/-!
# The command-line interface of a program

An `Interface` is a schema with the texts that describe the program, together with what the last
command line gave. Reading an option falls back to its default value; the help text lists all
options in the order in which they were added.
-/

namespace Startup.Arguments

/-- A program's options, its describing texts, and the outcome of the last parse. -/
structure Interface where
  program : Text
  description : Text
  version : Text
  examples : List Text
  schema : Schema
  collected : Collected
  error? : Option ArgumentError

namespace Interface

def new (program description version : Text) : Interface where
  program := program
  description := description
  version := version
  examples := []
  schema := []
  collected := .empty
  error? := none

def add (interface : Interface) (option : Descriptor) : Interface :=
  { interface with schema := interface.schema ++ [option] }

/-- The last component of a program's path, where either slash separates components. -/
def baseName (path : Text) : Text :=
  ((Text.split '/' (Text.replace '\\' ['/'] path)).getLast?).getD []

/-- Parses a command line. A program path that is given and not empty renames the program. -/
def parse (interface : Interface) (arguments : List Text) (path? : Option Text) : Interface :=
  let (collected, error?) := Arguments.parse interface.schema arguments
  let program :=
    match path? with
    | none | some [] => interface.program
    | some path => baseName path
  { interface with program := program, collected := collected, error? := error? }

def lastError (interface : Interface) : Text :=
  (interface.error?.map ArgumentError.message).getD []

def has (interface : Interface) (key : Text) : Bool :=
  interface.collected.values.contains key

/-- The value stored under a key, else the default value of the option with that name. -/
def value? (interface : Interface) (name : Text) : Option Text :=
  match interface.collected.values.get? name with
  | some value => some value
  | none =>
      match interface.schema.find? name with
      | some option => if option.defaultValue = [] then none else some option.defaultValue
      | none => none

def value (interface : Interface) (name fallback : Text) : Text :=
  (interface.value? name).getD fallback

/-- The integer that the value of an option denotes, if it denotes one. -/
def integer? (interface : Interface) (name : Text) : Option Int :=
  (Integer.read (Text.trimBlanks (interface.value name []))).toOption

/-- Whether the value of an option that is present differs from `false` and `0`. -/
def truth? (interface : Interface) (name : Text) : Option Bool :=
  if interface.has name then
    let value := interface.value name []
    some (value ≠ Text.ofString "false" && value ≠ Text.ofString "0")
  else none

def usage (interface : Interface) : Text :=
  let required : Text := if interface.schema.any (·.required) then " REQUIRED_OPTIONS" else ""
  "Usage: " ++ interface.program ++ " [OPTIONS]" ++ required

def versionLine (interface : Interface) : Text :=
  interface.program ++ " version " ++ interface.version

/-- The line of an option in the help text, with the forms padded to `width`. -/
def optionLine (width : Nat) (option : Descriptor) : Text :=
  let required : Text := if option.required then " (required)" else ""
  let default : Text :=
    if option.defaultValue = [] then "" else " (default: " ++ option.defaultValue ++ ")"
  "  " ++ Text.padRight width option.forms ++ option.description ++ required ++ default

/-- The help text: usage, description, options and examples, each part with an empty line after
it. -/
def help (interface : Interface) : Text :=
  let width := ((interface.schema.map fun option => option.forms.length).foldl max 0) + 2
  let options : List Text := interface.schema.map (optionLine width)
  let examples : List Text :=
    interface.examples.map fun line => "  " ++ interface.program ++ " " ++ line
  let part (title : Text) (lines : List Text) : List Text :=
    if lines.isEmpty then [] else title :: lines ++ [[]]
  let introduction : List Text :=
    [interface.usage, [], "Description:", "  " ++ interface.description, []]
  Text.unlines (introduction ++ part "Options:" options ++ part "Examples:" examples)

end Interface

end Startup.Arguments
