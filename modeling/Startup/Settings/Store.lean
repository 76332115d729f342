import Startup.Directories
import Startup.Settings.File

/-!
# The settings store

A store holds settings together with the file they belong to. `setUp` prepares the directory, puts
the defaults in and lays the file over them; `close` saves a store that was set up and is open.
Without a path of its own, loading and saving use the file that `setUp` found.
-/

namespace Startup

/-- Settings and the file they belong to. The directory and the file are known once a set-up has
chosen them. -/
structure Store where
  settings : Settings
  directories? : Option Directories
  directory? : Option Path
  file? : Option Path
  isOpen : Bool
deriving DecidableEq

structure Session where
  store : Store
  files : FileTree
deriving DecidableEq

namespace Session

def onFiles {α : Type} (task : Task FileTree α) : Task Session α :=
  Task.within Session.files (fun session files => { session with files := files }) task

def onSettings {α : Type} (task : Task Settings α) : Task Session α :=
  Task.within (fun session => session.store.settings)
    (fun session settings => { session with store := { session.store with settings := settings } })
    task

def updateStore (change : Store → Store) : Task Session Unit :=
  Task.modify fun session => { session with store := change session.store }

end Session

namespace Store

def empty (directories? : Option Directories) : Store where
  settings := ∅
  directories? := directories?
  directory? := none
  file? := none
  isOpen := false

def withSettings (store : Store) (settings : Settings) : Store :=
  { store with settings := settings }

def defaultFileName : Text := "work_assistant.conf"

/-- The file to use: the given path unless it is absent or empty, else the file of the store. -/
def resolve (store : Store) (path? : Option Text) : Except Fault Path :=
  match path? with
  | none | some [] =>
      match store.file? with
      | some file => .ok file
      | none => .error (.settings .noFile)
  | some path => .ok (Path.ofText path)

def load (path? : Option Text) : Task Session Bool := do
  let session ← Task.get
  let path ← Task.ofExcept (session.store.resolve path?)
  let (settings, valid) ← Session.onFiles (session.store.settings.loadFrom path)
  Session.updateStore fun store => store.withSettings settings
  return valid

def save (path? : Option Text) : Task Session Bool := do
  let session ← Task.get
  let path ← Task.ofExcept (session.store.resolve path?)
  Session.onFiles (session.store.settings.saveTo path)

/-- The directories of the store; unless they are known, those of the program by default. -/
def directoriesIn (session : Session) (environment : Environment) : Directories :=
  session.store.directories?.getD
    (Directories.standard none environment session.files.workingPath)

/-- The directory that a set-up chooses: the given one, else that for settings. -/
def chosen (session : Session) (environment : Environment) (directory? : Option Path) :
    Except Fault Path :=
  match directory? with
  | some directory => .ok directory
  | none => (directoriesIn session environment).settingsPlace

/-- Prepares the store for a file in a directory, which is made if it is missing. The result is
false if the directory cannot be made. -/
def setUp (environment : Environment) (directory? : Option Path) (fileName : Text) :
    Task Session Bool := do
  let session ← Task.get
  Session.updateStore fun store =>
    { store with directories? := some (directoriesIn session environment) }
  let directory ← Task.ofExcept (chosen session environment directory?)
  Session.updateStore fun store => { store with directory? := some directory }
  if ← Session.onFiles (Directories.create directory directory.text) then
    let file := directory.join [fileName]
    Session.updateStore fun store =>
      { store with file? := some file, settings := store.settings.storeDefaults }
    let _ ← load none
    Session.updateStore fun store => { store with isOpen := true }
    Task.report (Settings.reporter.record .info
      ("Configuration manager initialized with config file: " ++ file.text))
    return true
  else
    Task.report (Settings.reporter.record .error
      ("Failed to create config directory: " ++ directory.text))
    return false

def close : Task Session Unit := do
  let session ← Task.get
  if session.store.isOpen then
    Session.updateStore fun store => { store with isOpen := false }
    let _ ← save none

def reset (store : Store) : Store :=
  store.withSettings Settings.defaultSettings

end Store

end Startup
