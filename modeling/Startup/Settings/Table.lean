import Startup.OrderedMap
import Startup.Settings.Line

/-!
# Settings as a table

Settings are a map from section names to maps from keys to values. Everything is text; a section
may be empty.

`load` lays the lines of a file over a table and `render` writes a table as the text of a file.
-/

namespace Startup

abbrev Settings := OrderedMap Text (OrderedMap Text Text)

namespace Settings

def values (settings : Settings) (sectionName : Text) : OrderedMap Text Text :=
  OrderedMap.getD settings sectionName ∅

def value? (settings : Settings) (sectionName key : Text) : Option Text :=
  (settings.values sectionName).get? key

/-- Adds an empty section unless the section is there. -/
def addSection (settings : Settings) (sectionName : Text) : Settings :=
  OrderedMap.insertIfNew settings sectionName ∅

def store (settings : Settings) (sectionName key value : Text) : Settings :=
  OrderedMap.insert settings sectionName ((settings.values sectionName).insert key value)

/-- Removes the value stored under a key; the section stays. -/
def remove (settings : Settings) (sectionName key : Text) : Settings :=
  match OrderedMap.get? settings sectionName with
  | none => settings
  | some values => OrderedMap.insert settings sectionName (values.erase key)

/-- A table under construction and the section to which a key without one belongs. -/
structure Loading where
  settings : Settings
  current : Text

/-- What a line adds. An assignment that names its section makes that one current. -/
def Loading.step (loading : Loading) : Line → Loading
  | .skipped | .invalid _ => loading
  | .header name => ⟨loading.settings.addSection name, name⟩
  | .assignment found =>
      let current := if found.sectionName = [] then loading.current else found.sectionName
      ⟨loading.settings.store current found.key (unescape found.value), current⟩

def load (settings : Settings) (content : Text) : Settings :=
  (((Text.split '\n' content).map Line.read).foldl Loading.step ⟨settings, []⟩).settings

/-- The invalid lines of a file, each with its number counted from one. -/
def invalidLines (content : Text) : List (Nat × Text) :=
  ((Text.split '\n' content).map Line.read).zipIdx.filterMap fun numbered =>
    match numbered.1 with
    | .invalid text => some (numbered.2 + 1, text)
    | _ => none

def fileHeader : List Text :=
  ["# Work Assistant Configuration File", "# Generated automatically - modify with care"]

def sorted {α : Type} (map : OrderedMap Text α) : List (Text × α) :=
  map.entries.mergeSort fun left right => Text.ble left.1 right.1

def assignmentLine (entry : Text × Text) : Text :=
  entry.1 ++ " = " ++ escape entry.2

/-- The lines of a section, with an empty one at the end. -/
def sectionLines (entry : Text × OrderedMap Text Text) : List Text :=
  ("[" ++ entry.1 ++ "]") :: (sorted entry.2).map assignmentLine ++ [[]]

/-- The lines of the file for a table, with sections and keys in order. -/
def lines (settings : Settings) : List Text :=
  fileHeader ++ [] :: (sorted settings).flatMap sectionLines

def render (settings : Settings) : Text :=
  Text.join ['\n'] settings.lines

end Settings

end Startup
