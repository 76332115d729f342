import Startup.Application.Options
import Startup.Settings.Typed
import Startup.Task

/-!
# Settings from the command line

Options that are given override settings. Default values of options never do, so a setting from a
file stays unless the command line names it.
-/

namespace Startup.Application

open Arguments

structure Entry where
  sectionName : Text
  key : Text
  text : Text
deriving DecidableEq

def modeNumber (mode : Text) : Except Fault Int :=
  match recognitionModes.findIdx? (· == mode) with
  | some place => .ok place
  | none => .error .unnumbered

def integerText (n : Int) : Except Fault Text :=
  match Settings.canonical (.integer n) with
  | .ok text => .ok text
  | .error error => .error (.conversion error)

def valueOf (interface : Interface) (option : Descriptor) : Text :=
  interface.value option.key []

def portEntry (interface : Interface) : Except Fault Entry := do
  return ⟨"web", "port", ← integerText ((interface.integer? portOption.key).getD 0)⟩

def recognitionEntry (interface : Interface) : Except Fault Entry := do
  return ⟨"ocr", "default_mode",
    ← integerText (← modeNumber (valueOf interface recognitionOption))⟩

def modelEntry (interface : Interface) : Entry :=
  ⟨"ai", "model_path", valueOf interface modelOption⟩

def logLevelEntry (interface : Interface) : Entry :=
  ⟨"application", "log_level", valueOf interface logLevelOption⟩

def windowlessEntry : Entry :=
  ⟨"application", "no_gui", Convertor.writeBoolean true⟩

def overriding (interface : Interface) : List (Descriptor × Except Fault Entry) :=
  [(portOption, portEntry interface), (recognitionOption, recognitionEntry interface),
    (modelOption, .ok (modelEntry interface)), (logLevelOption, .ok (logLevelEntry interface)),
    (windowlessOption, .ok windowlessEntry)]

def storeEntry (entry : Except Fault Entry) : Task Settings Unit := do
  let entry ← Task.ofExcept entry
  Task.modify fun settings => settings.store entry.sectionName entry.key entry.text

/-- Stores the settings whose options the last command line gives, one after the other. A fault ends
it, and the settings before it stay stored. -/
def applyEach (interface : Interface) : List (Descriptor × Except Fault Entry) → Task Settings Unit
  | [] => pure ()
  | (option, entry) :: rest => do
      if given interface option then storeEntry entry
      applyEach interface rest

def applyOverrides (interface : Interface) : Task Settings Unit :=
  applyEach interface (overriding interface)

end Startup.Application
