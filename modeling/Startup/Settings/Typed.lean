import Startup.Convertor
import Startup.Settings.Table

/-!
# Typed settings

Settings are stored as texts. A typed reader gives nothing if the key is missing or its value is
empty or has no such type; a typed writer stores the canonical text of a value.
-/

namespace Startup.Settings

def canonical (value : Value) : Except ConversionError Text :=
  Registry.standard.write Class.lineage value

def integer? (settings : Settings) (sectionName key : Text) : Option Int :=
  (settings.value? sectionName key).bind fun text =>
    (Integer.read (Text.trimBlanks text)).toOption

def truth? (settings : Settings) (sectionName key : Text) : Option Bool :=
  (settings.value? sectionName key).bind fun text =>
    if text = [] then none else some (Convertor.readBoolean text)

def real? (settings : Settings) (sectionName key : Text) : Option Real :=
  (settings.value? sectionName key).bind fun text =>
    if text.contains '_' then none else Real.read? (Text.trimBlanks text)

def storeValue (settings : Settings) (sectionName key : Text) (value : Value) :
    Except ConversionError Settings := do
  return settings.store sectionName key (← canonical value)

def storeInteger (settings : Settings) (sectionName key : Text) (value : Value) :
    Except ConversionError Settings := do
  settings.storeValue sectionName key (.integer (← value.toInteger))

def storeTruth (settings : Settings) (sectionName key : Text) (value : Value) : Settings :=
  settings.store sectionName key (Convertor.writeBoolean value.truth)

def storeReal (settings : Settings) (sectionName key : Text) (value : Value) :
    Except ConversionError Settings := do
  settings.storeValue sectionName key (.real (← value.toReal))

end Startup.Settings
