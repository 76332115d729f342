import Startup.Application.Program
import Startup.Files.Disk

/-!
The command line. The program reads the part of the disk that it works on, runs, and writes back
what has changed. While the service runs, the end of the standard input requests a stop.
-/

namespace Startup.Main

open Application

def put (stream : IO.FS.Stream) (text : Text) : IO Unit := do
  stream.write ⟨((Utf8.encode? text).getD []).toArray⟩
  stream.flush

def bytes (string : String) : Bytes :=
  string.toUTF8.toList

def systemPath (location : Location) : String :=
  "/" ++ "/".intercalate (location.map fun name => (String.fromUTF8? ⟨name.toArray⟩).getD "")

def survey (tree : FileTree) (locations : List Location) : IO FileTree := do
  let here ← IO.currentDir
  let mut tree := tree
  for location in locations do
    let path := here / systemPath location
    if ← path.isDir then tree := tree.put location .directory
    else if ← path.pathExists then
      tree := tree.put location (.file (← IO.FS.readBinFile path).toList)
  return tree

def apply (changes : List Change) : IO Unit := do
  for change in changes do
    match change with
    | .makeDirectory location => IO.FS.createDir (systemPath location)
    | .write location content =>
        let temporary := systemPath location ++ ".tmp"
        IO.FS.writeBinFile temporary ⟨content.toArray⟩
        IO.FS.rename temporary (systemPath location)
    | .remove location => IO.FS.removeFile (systemPath location)

/-- Runs a task of the program and writes its log and its changes. -/
def perform {α : Type} (console : Console) (program : Program) (task : Task Program α) :
    IO (Program × Except Fault α) := do
  let run := task program
  put (← IO.getStderr) (logText console run.log)
  apply (program.session.files.changes run.state.session.files)
  return (run.state, run.result)

/-- Waits for the end of the standard input. -/
partial def awaitEnd (input : IO.FS.Stream) : IO Unit := do
  unless (← input.getLine).isEmpty do awaitEnd input

def exitCode (result : Except Fault Int) : IO UInt32 := do
  match result with
  | .ok code => return if code = 0 then 0 else 1
  | .error fault =>
      put (← IO.getStderr) (Text.unlines [fault.message])
      return 1

def go (interface : Arguments.Interface) (console : Console) : IO UInt32 := do
  let here ← IO.currentDir
  let names := (here.toString.splitOn "/").filter fun name => !name.isEmpty
  let bare : FileTree := ⟨∅, names.map bytes⟩
  let homeName := Directories.homeVariable Directories.defaultName
  let environment : Environment :=
    match ← IO.getEnv "WORK_ASSISTANT_HOME" with
    | some value => OrderedMap.ofList [((Utf8.encode? homeName).getD [], bytes value)]
    | none => ∅
  let paths := bare.workingPath :: touched interface environment bare
  let files ← survey bare (bare.locations paths)
  let (program, result) ← perform console (.initial files true) (begin interface environment)
  match result with
  | .error fault => exitCode (.error fault)
  | .ok (some code) => exitCode (.ok code)
  | .ok none =>
      awaitEnd (← IO.getStdin)
      let (_, result) ← perform console program conclude
      exitCode result

end Startup.Main

def main (arguments : List String) : IO UInt32 := do
  let path := Startup.Text.ofString (← IO.appPath).toString
  match Startup.Application.read (arguments.map Startup.Text.ofString) (some path) with
  | .over code output errors =>
      Startup.Main.put (← IO.getStdout) output
      Startup.Main.put (← IO.getStderr) errors
      Startup.Main.exitCode (.ok code)
  | .working interface console => Startup.Main.go interface console
