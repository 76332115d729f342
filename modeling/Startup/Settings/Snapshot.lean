import Startup.Settings.Table
import Startup.Task

/-!
# Snapshots of settings

Settings are saved into the snapshots of a library and loaded from them, as one structure of texts
for each section. The library is a parameter: `SnapshotLibrary` is what settings use of it.

A snapshot is loaded only if all of it has that shape. The first thing that has not ends the loading
before any section is replaced.
-/

namespace Startup

inductive Content (Snapshot Node : Type) where
  | absent
  | number (x : Real)
  | text (content : Text)
  | truth (content : Bool)
  | sequence (items : List Node)
  | structure (fields : Snapshot)

/-- What settings use of a library for snapshots. The order of `fields` is the library's own. Both
`update`, which puts values under names, and `toRecord`, which reads all there is, may end with a
fault. -/
structure SnapshotLibrary where
  Snapshot : Type
  Node : Type
  fields : Snapshot → OrderedMap Text Node
  content : Node → Content Snapshot Node
  update : Snapshot → List (Text × Value) → Snapshot × Option Fault
  toRecord : Snapshot → Except Fault (List (Text × Value))

def Value.ofTexts (texts : List (Text × Text)) : Value :=
  .record (texts.map fun pair => (pair.1, .text pair.2))

namespace Settings

def toFields (settings : Settings) : List (Text × Value) :=
  settings.entries.map fun group => (group.1, .ofTexts group.2.entries)

def saveSnapshot (settings : Settings) (library : SnapshotLibrary) (snapshot : library.Snapshot) :
    library.Snapshot × Option Fault :=
  library.update snapshot settings.toFields

/-- The texts of a section; every value has to be one. -/
def textsOf (sectionName : Text) :
    List (Text × Value) → Except SettingsError (List (Text × Text))
  | [] => .ok []
  | (key, .text content) :: fields => do
      return (key, content) :: (← textsOf sectionName fields)
  | (key, _) :: _ => .error (.notText sectionName key)

/-- The sections in a record; every value has to be a record of texts. -/
def sectionsOf :
    List (Text × Value) → Except SettingsError (List (Text × OrderedMap Text Text))
  | [] => .ok []
  | (name, .record fields) :: rest => do
      let texts ← textsOf name fields
      return (name, OrderedMap.ofList texts) :: (← sectionsOf rest)
  | (name, _) :: _ => .error (.notStructure name)

def storeSections : List (Text × OrderedMap Text Text) → Task Settings Unit
  | [] => pure ()
  | (name, values) :: rest => do
      Task.modify fun settings => OrderedMap.insert settings name values
      storeSections rest

/-- Replaces the sections that a snapshot holds, once all of them were checked. -/
def loadSnapshot (library : SnapshotLibrary) (snapshot : library.Snapshot) :
    Task Settings Unit := do
  let record ← Task.ofExcept (library.toRecord snapshot)
  let sections ← Task.ofExcept ((sectionsOf record).mapError Fault.settings)
  storeSections sections

end Settings

end Startup
