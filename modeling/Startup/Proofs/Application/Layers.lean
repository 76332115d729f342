import Startup.Proofs.Application.Overrides
import Startup.Proofs.Settings.Assignments
import Startup.Proofs.Settings.Defaults
import Startup.Proofs.Settings.SettingUp

/-!
# The layers of the settings

The settings of a program come from three layers. A command line overrides the settings file, and the
file overrides the defaults. The default values of options are no layer: they are not even looked
at.
-/

namespace Startup.Application

open Arguments Settings

/-- The value that the file at a path assigns last to a key of a section, if it can be read. -/
def fileText? (files : FileTree) (file : Path) (sectionName key : Text) : Option Text :=
  match files.read file with
  | .ok bytes => lastAssigned? (linesOf bytes) sectionName key
  | .error _ => none

theorem value?_withFile (settings : Settings) (files : FileTree) (file : Path)
    (sectionName key : Text) :
    (settings.withFile files file).value? sectionName key =
      (fileText? files file sectionName key).or (settings.value? sectionName key) := by
  rw [withFile, fileText?]
  cases files.read file with
  | ok bytes => exact value?_load settings bytes sectionName key
  | error fault => rfl

/-- An empty store that was set up holds the defaults and, above them, the file. -/
theorem value?_setUp {environment : Environment} {directories? : Option Directories}
    {directory? : Option Path} {fileName : Text} {files : FileTree}
    (succeeded : (Store.setUp environment directory? fileName
      ⟨.empty directories?, files⟩).result = .ok true) :
    ∃ session file,
      (Store.setUp environment directory? fileName ⟨.empty directories?, files⟩).state = session ∧
      session.store.file? = some file ∧ files.Grown session.files ∧
      ∀ sectionName key, session.store.settings.value? sectionName key =
        (fileText? session.files file sectionName key).or (defaultText? sectionName key) := by
  obtain ⟨directory, made, -, grown, -, state⟩ := Store.exists_made_of_setUp succeeded
  refine ⟨_, _, state, rfl, grown, ?_⟩
  intro sectionName key
  rw [Store.ready, value?_withFile, value?_storeDefaults, Store.empty, value?_empty, Option.or_none]

/-- The settings of a program, key by key: what the last occurrence of an option gives, else what
the file assigns last, else the default. The file is read after its directory was made, which leaves
every file as it was. The options of the schema, and so their default values, do not matter by the
time the overrides are applied. -/
theorem value?_layered (arguments : List Text) (path? : Option Text)
    (accepted : (standardInterface.parse arguments path?).error? = none) (environment : Environment)
    (directories? : Option Directories) (directory? : Option Path) (fileName : Text)
    (files : FileTree)
    (succeeded : (Store.setUp environment directory? fileName
      ⟨.empty directories?, files⟩).result = .ok true) :
    ∃ items session file settings, Derives standardSchema items arguments ∧
      (Store.setUp environment directory? fileName ⟨.empty directories?, files⟩).state = session ∧
      session.store.file? = some file ∧
      files.Grown session.files ∧
      (∀ bytes, files.read file = .ok bytes → session.files.read file = .ok bytes) ∧
      applyOverrides (standardInterface.parse arguments path?) session.store.settings =
        ⟨.ok (), settings, []⟩ ∧
      (∀ sectionName key, settings.value? sectionName key =
        (overrideText? items sectionName key).or
          ((fileText? session.files file sectionName key).or (defaultText? sectionName key))) ∧
      ∀ schema, applyOverrides { standardInterface.parse arguments path? with schema := schema }
        session.store.settings = ⟨.ok (), settings, []⟩ := by
  obtain ⟨items, derives, collected⟩ := exists_derivation_of_parse accepted
  obtain ⟨session, file, state, opened, grown, stored⟩ := value?_setUp succeeded
  refine ⟨items, session, file, _, derives, state, opened, grown, fun _ => grown.read,
    applyOverrides_eq derives.fits collected _, ?_, fun schema => ?_⟩
  · intro sectionName key
    rw [value?_overridden, stored]
  · -- The schema is exchanged after the command line was read, so the values are the same.
    have swapped : Interface.collected
        { standardInterface.parse arguments path? with schema := schema } = meaning items :=
      collected
    exact applyOverrides_eq derives.fits swapped _

/-- A settings directory with a file that assigns the port twice. -/
def withPorts : FileTree where
  entries := OrderedMap.ofList
    [([Path.stored "d"], .directory),
      ([Path.stored "d", Path.stored "a.conf"],
        .file (Path.stored "[web]\nport = 1\nhost = h\\n\nport = 2\nai.gpu_layers=7\nport"))]
  workingDirectory := []

def portSession : Session :=
  (Store.setUp ∅ (some (Path.ofText "d")) "a.conf" ⟨.empty none, withPorts⟩).state

/-- The port comes from the command line, the host from the file and the length from the defaults.
-/
theorem value?_portSession :
    ∃ settings, applyOverrides (standardInterface.parse ["-p", "3"] none)
        portSession.store.settings = ⟨.ok (), settings, []⟩ ∧
      settings.value? "web" "port" = some "3" ∧
      settings.value? "web" "host" = some "h\n" ∧
      settings.value? "ai" "gpu_layers" = some "7" ∧
      settings.value? "ai" "context_length" = some "2048" ∧
      settings.value? "ai" "port" = none := by
  have accepted : (standardInterface.parse ["-p", "3"] none).error? = none := by decide
  have succeeded : (Store.setUp ∅ (some (Path.ofText "d")) "a.conf"
      ⟨.empty none, withPorts⟩).result = .ok true := by decide +kernel
  obtain ⟨items, session, file, settings, derives, rfl, opened, -, -, applied, layered, -⟩ :=
    value?_layered ["-p", "3"] none accepted ∅ none (some (Path.ofText "d")) "a.conf" withPorts
      succeeded
  have file' : portSession.store.file? = some (Path.ofText "d/a.conf") := by decide +kernel
  obtain rfl := Option.some.inj (opened.symm.trans file')
  have derives' : Derives standardSchema [.bundle [] 'p' portOption (.separate "3")] ["-p", "3"] :=
    ⟨List.forall_mem_singleton.mpr ⟨by decide, List.forall_mem_nil _, rfl, rfl, by decide⟩, rfl⟩
  obtain rfl := derives.unique derives'
  refine ⟨settings, applied, ?_, ?_, ?_, ?_, ?_⟩ <;> rw [layered] <;> decide +kernel

end Startup.Application
