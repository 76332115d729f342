import Startup.OrderedMap
import Startup.Text.Utf8

/-!
# Environment variables

Names and values are bytes for the system and texts for the program, so a text comes back as the
text of its bytes.
-/

namespace Startup

abbrev Environment := OrderedMap Bytes Bytes

inductive VariableFault where
  | unencodable (place : Utf8.Unencodable)
  | embeddedNull
  | badName
  | emptyName
deriving DecidableEq

def VariableFault.message : VariableFault → Text
  | unencodable place => place.message
  | embeddedNull => "embedded null byte"
  | badName => "illegal environment variable name"
  | emptyName => "[Errno 22] Invalid argument"

namespace Environment

def bytes (text : Text) : Except Utf8.Unencodable Bytes :=
  match Utf8.unencodable? text with
  | some place => .error place
  | none => .ok ((Utf8.encode? text).getD [])

def find (environment : Environment) (name : Text) : Except Utf8.Unencodable (Option Text) :=
  match bytes name with
  | .error place => .error place
  | .ok name => .ok ((OrderedMap.get? environment name).map Utf8.decode)

def assign (environment : Environment) (name : Text) (value? : Option Text) :
    Except VariableFault Environment :=
  match bytes name, bytes (value?.getD []) with
  | .error place, _ => .error (.unencodable place)
  | _, .error place => .error (.unencodable place)
  | .ok key, .ok value =>
      if value?.isNone then .ok (OrderedMap.erase environment key)
      else if key.contains 0 || value.contains 0 then .error .embeddedNull
      else if name.contains '=' then .error .badName
      else if name = [] then .error .emptyName
      else .ok (OrderedMap.insert environment key value)

end Environment

end Startup
