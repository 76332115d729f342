import Startup.OrderedMap
import Startup.Text.Basic

/-!
# Descriptions of command-line options

A descriptor gives an option a short name of one code point, a long name, or both. Its key, under
which a value is stored, is the long name if there is one. A schema is a list of descriptors; where
two of them share a name, the first one has it.
-/

namespace Startup.Arguments

inductive DescriptorError where
  | nameless
  | longShortName
deriving DecidableEq

def DescriptorError.message : DescriptorError → Text
  | nameless => "short or long name required"
  | longShortName => "short name must be a single character"

/-- One option that a command line may contain. An empty long name or default value is none. -/
structure Descriptor where
  short? : Option CodePoint
  long : Text
  description : Text
  takesValue : Bool
  required : Bool
  defaultValue : Text
  validator? : Option (Text → Bool)
  named : short?.isSome ∨ long ≠ []

abbrev Schema := List Descriptor

namespace Descriptor

/-- Builds a descriptor from a short name given as a text, where an empty name means none. -/
def build (short long description : Text) (takesValue required : Bool) (defaultValue : Text)
    (validator? : Option (Text → Bool)) : Except DescriptorError Descriptor :=
  if empty : short = [] ∧ long = [] then .error .nameless
  else if 1 < short.length then .error .longShortName
  else .ok
    { short? := short.head?
      long := long
      description := description
      takesValue := takesValue
      required := required
      defaultValue := defaultValue
      validator? := validator?
      named := by
        cases short with
        | nil => exact Or.inr fun none => empty ⟨rfl, none⟩
        | cons point rest => exact Or.inl rfl }

def short (option : Descriptor) : Text :=
  option.short?.toList

def matchesName (option : Descriptor) (name : Text) : Bool :=
  name ≠ [] && (name == option.short || name == option.long)

def accepts (option : Descriptor) (value : Text) : Bool :=
  option.validator?.all fun validator => validator value

def key (option : Descriptor) : Text :=
  if option.long = [] then option.short else option.long

def flag (option : Descriptor) : Text :=
  if option.long = [] then "-" ++ option.short else "--" ++ option.long

def forms (option : Descriptor) : Text :=
  let short : List Text := option.short?.toList.map fun point => ['-', point]
  let long : List Text := if option.long = [] then [] else ["--" ++ option.long]
  Text.join ", " (short ++ long) ++ Text.ofString (if option.takesValue then " VALUE" else "")

end Descriptor

namespace Schema

def find? (schema : Schema) (name : Text) : Option Descriptor :=
  List.find? (fun option => option.matchesName name) schema

def findLong? (schema : Schema) (name : Text) : Option Descriptor :=
  List.find? (fun option => name ≠ [] && option.long == name) schema

def findShort? (schema : Schema) (name : CodePoint) : Option Descriptor :=
  List.find? (fun option => option.short? == some name) schema

end Schema

end Startup.Arguments
