import Startup.Arguments.Scan
import Startup.Files.Tree
import Startup.Value

/-!
# Faults

A `Fault` is the cause of a failed operation on settings or files. Misuse of settings and of a
command line comes with details, so that a handler need not take the message apart.
-/

namespace Startup

def Arguments.ArgumentError.details (error : Arguments.ArgumentError) : List (Text × Value) :=
  [("option", .text error.form)]

/-- Misuse of settings, or a snapshot that holds no settings. -/
inductive SettingsError where
  | noFile
  | notStructure (sectionName : Text)
  | notText (sectionName key : Text)
deriving DecidableEq

namespace SettingsError

def message : SettingsError → Text
  | noFile => "Configuration file path not defined"
  | notStructure sectionName => "Section '" ++ sectionName ++ "' is not a structure"
  | notText sectionName key => "Value '" ++ sectionName ++ "." ++ key ++ "' is not a string"

def details : SettingsError → List (Text × Value)
  | noFile => []
  | notStructure sectionName => [("section", .text sectionName)]
  | notText sectionName key => [("section", .text sectionName), ("key", .text key)]

end SettingsError

/-- The cause of a failed operation. -/
inductive Fault where
  | file (fault : FileFault)
  | settings (error : SettingsError)
  | conversion (error : ConversionError)
  | unencodable (place : Utf8.Unencodable)
  | notFinite (x : Real)
  | unnumbered
  | unplaced (purpose : Text)
deriving DecidableEq

namespace Fault

def message : Fault → Text
  | file fault => fault.message
  | settings error => error.message
  | conversion error => error.message
  | unencodable place => place.message
  | notFinite x =>
      let name : Text := if x.isNaN then "NaN" else "Infinity"
      "Fail to serialize " ++ name ++ " for Value.number_value, which would parse as string_value"
  | unnumbered => "tuple.index(x): x not in tuple"
  | unplaced purpose => Text.quoted purpose

end Fault

end Startup
