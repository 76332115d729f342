import Startup.Application.Overrides
import Startup.Application.Summary
import Startup.Log.Console

/-!
# The program

The program reads its command line, prepares its log, its directories and its settings, and runs the
service until a stop is requested. `begin` is everything before that wait and `finish` everything
after it; `run` is the whole program for a given file tree.

Errors in the command line and requests for help or the version end the program before it touches a
file.
-/

namespace Startup.Application

open Arguments

structure Program where
  session : Session
  service : Service
deriving DecidableEq

namespace Program

/-- The program at its start: an empty store and a service that was not started. -/
def initial (files : FileTree) (stopsOnWait : Bool) : Program where
  session := ⟨.empty none, files⟩
  service := .new Service.defaultName stopsOnWait

def onSession {α : Type} (task : Task Session α) : Task Program α :=
  Task.within Program.session (fun program session => { program with session := session }) task

def onService {α : Type} (task : Task Service α) : Task Program α :=
  Task.within Program.service (fun program service => { program with service := service }) task

end Program

def nonempty? (text : Text) : Option Text :=
  if text = [] then none else some text

/-- The directories that the command line and the environment choose. -/
def directoriesFor (interface : Interface) (environment : Environment) (files : FileTree) :
    Directories :=
  .standard (nonempty? (valueOf interface homeOption)) environment files.workingPath

/-- The directory and the name of the settings file that the command line chooses. -/
def settingsFile (interface : Interface) : Option Path × Text :=
  match nonempty? (valueOf interface settingsOption) with
  | none => (none, Store.defaultFileName)
  | some text => (some (Path.ofText text).parent, (Path.ofText text).name)

/-- Prepares directories and settings. The result is false if that fails, which is reported. -/
def prepare (interface : Interface) (environment : Environment) : Task Session Bool := do
  Task.report (reporter.record .info ("Starting " ++ interface.versionLine))
  let directories := directoriesFor interface environment (← Task.get).files
  if ← Session.onFiles directories.setUp then
    Session.updateStore fun _ => .empty (some directories)
    let (directory?, fileName) := settingsFile interface
    if ← Store.setUp environment directory? fileName then
      Session.onSettings (applyOverrides interface)
      return true
    else
      Task.report (reporter.record .error "Failed to initialize configuration")
      return false
  else
    Task.report (reporter.record .error "Failed to initialize directory structure")
    return false

/-- Ends the program: stops the service and saves the settings. The result is the exit code. -/
def finish (entered : Bool) : Task Program Int := do
  let code ← Program.onService (leave entered)
  Program.onSession Store.close
  return code

/-- The program before it waits for a request to stop. The result is the exit code if the program is
over by then. -/
def begin (interface : Interface) (environment : Environment) : Task Program (Option Int) := do
  if ← Program.onSession (prepare interface environment) then
    if given interface testOption then
      Task.reportAll (summarize (← Task.get).session.store)
      return some 0
    else if ← Program.onService (enter (given interface backgroundOption)) then return none
    else return some (← finish false)
  else return some 1

def conclude : Task Program Int := do
  let _ ← Program.onService Service.wait
  finish true

def work (interface : Interface) (environment : Environment) : Task Program Int := do
  match ← begin interface environment with
  | some code => return code
  | none => conclude

/-- The paths that the program works on. -/
def touched (interface : Interface) (environment : Environment) (files : FileTree) : List Path :=
  let directories := directoriesFor interface environment files
  let (directory?, name) := settingsFile interface
  let settings := (directory?.or directories.settingsPlace.toOption).toList.flatMap fun directory =>
    let file := directory.join [name]
    [directory, file] ++ (Settings.temporary? file).toList
  directories.home :: settings ++ directories.places.entries.map Prod.snd

structure Outcome where
  result : Except Fault Int
  output : Text
  errors : Text
  files : FileTree

/-- What a command line leads to before any file is touched: an exit code and what was written to
both outputs, or the work of the program with its console. -/
inductive Entrance where
  | over (code : Int) (output errors : Text)
  | working (interface : Interface) (console : Console)

def logLevel (interface : Interface) : Except LoggingError Level :=
  Level.effective (.text (interface.value logLevelOption.key "info"))
    (given interface verboseOption) (given interface quietOption)

def read (arguments : List Text) (path? : Option Text) : Entrance :=
  let interface := standardInterface.parse arguments path?
  if interface.error?.isSome then
    .over 1 [] ("Error: " ++ interface.lastError ++ Text.unlines [[], interface.usage])
  else if given interface helpOption then .over 0 interface.help []
  else if given interface versionOption then .over 0 (Text.unlines [interface.versionLine]) []
  else
    .working interface
      (Console.initial.configure (logLevel interface) 0 Console.defaultFormat).1

def logText (console : Console) (log : List LogRecord) : Text :=
  log.flatMap fun record => (console.write record).flatMap Prod.snd

/-- The whole program, for a command line, an environment and the files at the start. -/
def run (arguments : List Text) (path? : Option Text) (environment : Environment)
    (files : FileTree) (stopsOnWait : Bool) : Outcome :=
  match read arguments path? with
  | .over code output errors => ⟨.ok code, output, errors, files⟩
  | .working interface console =>
      let done := work interface environment (.initial files stopsOnWait)
      ⟨done.result, [], logText console done.log, done.state.session.files⟩

end Startup.Application
