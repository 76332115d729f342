import Startup.Environment
import Startup.Task
import Startup.Text.UpperCase

/-!
# The directories of a program

A `Directories` value places everything under one home directory: an explicit one, else the one that
an environment variable names, else the working directory. Each purpose has a place under the home,
and a place may be set to another path.

`setUp` makes every directory that is missing; a failure is reported and the others are still
made.
-/

namespace Startup

/-- The home directory of a program and the places for each purpose. -/
structure Directories where
  name : Text
  home : Path
  places : OrderedMap Text Path
deriving DecidableEq

namespace Directories

def defaultName : Text := "work_assistant"

def standardPlaces : List (Text × Path) :=
  [("data", ⟨.relative, ["data"]⟩),
    ("config", ⟨.relative, ["config"]⟩),
    ("logs", ⟨.relative, ["logs"]⟩),
    ("cache", ⟨.relative, ["cache"]⟩),
    ("models", ⟨.relative, ["models"]⟩),
    ("tmp", ⟨.relative, ["temp"]⟩),
    ("screenshots", ⟨.relative, ["data", "screenshots"]⟩),
    ("ocr_results", ⟨.relative, ["data", "ocr_results"]⟩),
    ("ai_analysis", ⟨.relative, ["data", "ai_analysis"]⟩),
    ("backup", ⟨.relative, ["data", "backup"]⟩)]

/-- The environment variable that holds the home directory of a program. -/
def homeVariable (name : Text) : Text :=
  Text.upper name ++ "_HOME"

def setHome (directories : Directories) (home : Path) : Directories :=
  { directories with
    home := home
    places := directories.places.insertAll
      (standardPlaces.map fun place => (place.1, home ++ place.2)) }

/-- The home directory that the environment gives, if it gives one. -/
def environmentHome (name : Text) (environment : Environment) :
    Except Utf8.Unencodable (Option Path) := do
  return (← environment.find (homeVariable name)).map Path.ofText

def under (name : Text) (home : Path) : Directories :=
  setHome ⟨name, home, ∅⟩ home

/-- The directories of a program: the home is `base`, else the value of the environment variable,
else the working directory. The name of the variable may be one that cannot be looked up. -/
def find (name : Text) (base? : Option Text) (environment : Environment) (workingPath : Path) :
    Except Utf8.Unencodable Directories :=
  match base? with
  | some base => .ok (under name (Path.ofText base))
  | none => do
      return under name ((← environmentHome name environment).getD workingPath)

def standard (base? : Option Text) (environment : Environment) (workingPath : Path) :
    Directories :=
  match find defaultName base? environment workingPath with
  | .ok directories => directories
  | .error _ => under defaultName workingPath

def setPlace (directories : Directories) (purpose : Text) (path : Path) : Directories :=
  { directories with places := directories.places.insert purpose path }

def settingsPlace (directories : Directories) : Except Fault Path :=
  match directories.places.get? "config" with
  | some place => .ok place
  | none => .error (.unplaced "config")

def reporter : Reporter := ⟨"dirs", "work_assistant.core.dirs.DirectoryScheme"⟩

/-- Makes a directory and those above it. The result says whether the directory exists; `shown` is
the path as reports show it. -/
def create (path : Path) (shown : Text) : Task FileTree Bool := fun tree =>
  match tree.makeDirectories path with
  | (made, none) => ⟨.ok true, made, []⟩
  | (made, some (.refused error)) =>
      ⟨.ok false, made,
        [reporter.record .error
          ("Failed to create directory " ++ shown ++ ": " ++ error.message)]⟩
  | (made, some fault) => ⟨.error (.file fault), made, []⟩

/-- Whether there is a directory at a path. Every directory can be written to. -/
def isWritable (path : Path) : Task FileTree Bool := fun tree =>
  match tree.isDirectory path with
  | .ok result => ⟨.ok result, tree, []⟩
  | .error fault => ⟨.error (.file fault), tree, []⟩

def prepare (path : Path) : Task FileTree Bool := do
  if ← create path path.text then
    if ← isWritable path then return true
    else
      Task.report (reporter.record .error ("Directory not writable: " ++ path.text))
      return false
  else return false

/-- Prepares the places one after the other; the result says whether all of them succeeded. -/
def prepareAll : List Path → Task FileTree Bool
  | [] => return true
  | path :: rest => do
      let first ← prepare path
      let others ← prepareAll rest
      return first && others

def setUp (directories : Directories) : Task FileTree Bool := do
  let home ← create directories.home directories.home.text
  let places ← prepareAll (directories.places.entries.map Prod.snd)
  if home && places then
    Task.report (reporter.record .info
      ("Directory structure initialized in: " ++ directories.home.text))
  return home && places

end Directories

end Startup
