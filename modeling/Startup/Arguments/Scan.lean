import Startup.Arguments.Descriptor

/-!
# Scanning a command line

The scan goes through the arguments from left to right. An argument is empty and skipped, a
positional argument, a long option with or without a value, or a bundle of short options. The last
option of an argument may take the next argument as its value, whatever that looks like.

The first error ends the scan; what was collected before it stays visible. `readArgument` reads one
argument and `scan` all of them. `parse` also asks for the required options.
-/

namespace Startup.Arguments

/-- The value stored for an option that takes none. -/
def flagValue : Text := "true"

inductive Cause where
  | unknown
  | valueMissing
  | valueRejected (value : Text)
  | valueUnexpected
  | required
deriving DecidableEq

/-- An error in a command line and the form of the option that it concerns. -/
structure ArgumentError where
  cause : Cause
  form : Text
deriving DecidableEq

def ArgumentError.message (error : ArgumentError) : Text :=
  match error.cause with
  | .unknown => "Unknown option: " ++ error.form
  | .valueMissing => "Option " ++ error.form ++ " requires a value"
  | .valueRejected value => "Invalid value for option " ++ error.form ++ ": " ++ value
  | .valueUnexpected => "Option " ++ error.form ++ " does not take a value"
  | .required => "Required option missing: " ++ error.form

structure Collected where
  values : OrderedMap Text Text
  positional : List Text
deriving DecidableEq

def Collected.empty : Collected where
  values := ∅
  positional := []

def Collected.put (collected : Collected) (key value : Text) : Collected :=
  { collected with values := collected.values.insert key value }

def Collected.push (collected : Collected) (argument : Text) : Collected :=
  { collected with positional := collected.positional ++ [argument] }

/-- Where the scan stands after one argument; the next one may be the value of an option. -/
inductive Step where
  | done (collected : Collected)
  | awaiting (collected : Collected) (option : Descriptor) (form : Text)
  | failed (collected : Collected) (error : ArgumentError)

def accept (collected : Collected) (option : Descriptor) (form value : Text) :
    Except ArgumentError Collected :=
  if option.accepts value then .ok (collected.put option.key value)
  else .error ⟨.valueRejected value, form⟩

def acceptInline (collected : Collected) (option : Descriptor) (form value : Text) : Step :=
  match accept collected option form value with
  | .ok next => .done next
  | .error error => .failed collected error

/-- Reads a long option, given the text after the two dashes. An empty value counts as none. -/
def readLong (schema : Schema) (collected : Collected) (text : Text) : Step :=
  let (name, value) := (Text.cut? '=' text).getD (text, [])
  let form : Text := "--" ++ name
  match schema.findLong? name with
  | none => .failed collected ⟨.unknown, form⟩
  | some option =>
      if option.takesValue then
        if value = [] then .awaiting collected option form
        else acceptInline collected option form value
      else if value = [] then .done (collected.put option.key flagValue)
      else .failed collected ⟨.valueUnexpected, form⟩

/-- Reads a bundle of short options, given the text after the dash. Behind an option that takes a
value, the rest of the bundle is that value. -/
def readBundle (schema : Schema) (collected : Collected) : Text → Step
  | [] => .done collected
  | name :: rest =>
      let form : Text := ['-', name]
      match schema.findShort? name with
      | none => .failed collected ⟨.unknown, form⟩
      | some option =>
          if option.takesValue then
            if rest = [] then .awaiting collected option form
            else acceptInline collected option form rest
          else readBundle schema (collected.put option.key flagValue) rest

def readArgument (schema : Schema) (collected : Collected) : Text → Step
  | [] => .done collected
  | [single] => .done (collected.push [single])
  | first :: second :: rest =>
      if first = '-' then
        if second = '-' then readLong schema collected rest
        else readBundle schema collected (second :: rest)
      else .done (collected.push (first :: second :: rest))

/-- Reads all arguments; an error comes with what was collected before it. -/
def scan (schema : Schema) (collected : Collected) : List Text → Collected × Option ArgumentError
  | [] => (collected, none)
  | argument :: rest =>
      match readArgument schema collected argument with
      | .done collected => scan schema collected rest
      | .failed collected error => (collected, some error)
      | .awaiting collected option form =>
          match rest with
          | [] => (collected, some ⟨.valueMissing, form⟩)
          | value :: rest =>
              match accept collected option form value with
              | .ok collected => scan schema collected rest
              | .error error => (collected, some error)

def missing? (schema : Schema) (collected : Collected) : Option ArgumentError :=
  let absent (option : Descriptor) : Bool :=
    option.required && !collected.values.contains option.key
  (List.find? absent schema).map fun option => ⟨.required, option.flag⟩

def parse (schema : Schema) (arguments : List Text) : Collected × Option ArgumentError :=
  match scan schema .empty arguments with
  | (collected, some error) => (collected, some error)
  | (collected, none) => (collected, missing? schema collected)

end Startup.Arguments
