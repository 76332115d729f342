import Startup.Settings.Defaults
import Startup.Task

/-!
# Settings files

Saving writes the whole file under a temporary name next to the target and then moves it into place,
so the target holds either its former content or the complete new one. Loading lays a file over the
settings at hand; a file that does not exist changes nothing.
-/

namespace Startup.Settings

def reporter : Reporter := ⟨"config", "work_assistant.core.config.ConfigStore"⟩

/-- The content of the file for a table, if all its texts can be encoded. -/
def bytes? (settings : Settings) : Option Bytes :=
  Utf8.encode? settings.render

def validate (settings : Settings) : Bool × List LogRecord :=
  (decide settings.Valid,
    settings.problems.map fun problem => reporter.record .error problem.message)

def temporary? (target : Path) : Option Path :=
  target.withSuffix? ".tmp"

/-- Ends a saving that failed with `fault`: removes the temporary file and reports. A temporary file
that does not exist is no fault, any other obstacle to its removal is. -/
def abandon (target temporary : Path) (fault : FileFault) : Task FileTree Bool := fun tree =>
  match fault with
  | .refused error =>
      let report := reporter.record .error
        ("Failed to open config file for writing: " ++ target.text ++ " (" ++ error.message ++ ")")
      match tree.remove temporary with
      | .ok cleaned => ⟨.ok false, cleaned, [report]⟩
      | .error other =>
          if FileTree.isNotFound other then ⟨.ok false, tree, [report]⟩
          else ⟨.error (.file other), tree, []⟩
  | _ => ⟨.error (.file fault), tree, []⟩

/-- Writes bytes under the temporary name and moves them to the target. -/
def replaceFile (target temporary : Path) (bytes : Bytes) : Task FileTree Bool := fun tree =>
  match tree.write temporary bytes with
  | .error fault => abandon target temporary fault tree
  | .ok written =>
      match written.replace temporary target with
      | .error fault => abandon target temporary fault written
      | .ok moved =>
          ⟨.ok true, moved, [reporter.record .info ("Configuration saved to: " ++ target.text)]⟩

/-- Saves the settings to a file; the result says whether they were written. -/
def saveTo (settings : Settings) (target : Path) : Task FileTree Bool := fun tree =>
  match Utf8.unencodable? settings.render with
  | some place =>
      ⟨.ok false, tree,
        [reporter.record .error
          ("Failed to encode configuration for " ++ target.text ++ ": " ++ place.message)]⟩
  | none =>
      match temporary? target with
      | none => ⟨.error (.file (.nameless target)), tree, []⟩
      | some temporary => replaceFile target temporary (settings.bytes?.getD []) tree

/-- The reports on the lines of a file that were skipped because they are invalid. -/
def lineWarnings (content : Text) : List LogRecord :=
  (invalidLines content).map fun line =>
    reporter.record .warning ("Invalid config line " ++ Text.ofNat line.1 ++ ": " ++ line.2)

/-- Lays a file over the settings. The result is true if the file does not exist or the settings are
valid afterwards, and false if the file cannot be read. -/
def loadFrom (settings : Settings) (path : Path) : Task FileTree (Settings × Bool) := fun tree =>
  match tree.read path with
  | .ok bytes =>
      let content := Utf8.decode bytes
      let loaded := settings.load content
      let (valid, problems) := loaded.validate
      let report := reporter.record .info ("Configuration loaded from: " ++ path.text)
      ⟨.ok (loaded, valid), tree, lineWarnings content ++ report :: problems⟩
  | .error (.refused error) =>
      if error.kind = .notFound then
        ⟨.ok (settings, true), tree,
          [reporter.record .info ("Config file not found, using defaults: " ++ path.text)]⟩
      else
        ⟨.ok (settings, false), tree,
          [reporter.record .error
            ("Failed to read config file " ++ path.text ++ ": " ++ error.message)]⟩
  | .error fault => ⟨.error (.file fault), tree, []⟩

end Startup.Settings
