import Startup.Proofs.Directories
import Startup.Settings.Store

/-!
# Setting up a store

A set-up succeeds when the directory of the settings file is there in the end and the file, if there
is one, could be tried. The store then holds the defaults with the file laid over them, and the files
have at most become more by directories.
-/

namespace Startup

namespace Settings

/-- The settings with the file at a path laid over them, if that file can be read. -/
def withFile (settings : Settings) (tree : FileTree) (path : Path) : Settings :=
  match tree.read path with
  | .ok bytes => settings.load (Utf8.decode bytes)
  | .error _ => settings

theorem loadFrom_state (settings : Settings) (path : Path) (tree : FileTree) :
    (settings.loadFrom path tree).state = tree := by
  unfold loadFrom
  split
  · rfl
  · split <;> rfl
  · rfl

theorem loadFrom_eq_ok {settings loaded : Settings} {path : Path} {tree : FileTree} {valid : Bool}
    (read : (settings.loadFrom path tree).result = .ok (loaded, valid)) :
    loaded = settings.withFile tree path := by
  unfold loadFrom at read
  unfold withFile
  cases found : tree.read path with
  | ok bytes =>
      rw [found] at read
      cases read
      rfl
  | error fault =>
      rw [found] at read
      cases fault with
      | refused error =>
          dsimp only at read
          split at read <;> cases read <;> rfl
      | unencodable place => cases read
      | embeddedNull => cases read
      | nameless path => cases read

theorem result_loadFrom (settings : Settings) {path : Path} {tree : FileTree} {bytes : Bytes}
    (found : tree.read path = .ok bytes) :
    (settings.loadFrom path tree).result =
      .ok (settings.load (Utf8.decode bytes), (settings.load (Utf8.decode bytes)).validate.1) := by
  rw [loadFrom, found]

/-- A file at a legal path is laid over the settings or cannot be read; either is an answer. -/
theorem exists_loadFrom {path : Path} (legal : path.Legal) (settings : Settings)
    (tree : FileTree) :
    ∃ valid, (settings.loadFrom path tree).result = .ok (settings.withFile tree path, valid) := by
  unfold loadFrom withFile
  cases found : tree.read path with
  | ok bytes => exact ⟨_, rfl⟩
  | error fault =>
      obtain ⟨error, rfl⟩ := FileTree.isRefusal_of_atPlace legal found
      dsimp only
      split
      · exact ⟨true, rfl⟩
      · exact ⟨false, rfl⟩

end Settings

namespace Store

def ready (session : Session) (environment : Environment) (directory : Path) (fileName : Text)
    (settings : Settings) : Store where
  settings := settings
  directories? := some (directoriesIn session environment)
  directory? := some directory
  file? := some (directory.join [fileName])
  isOpen := true

section SetUp

variable {session : Session} {environment : Environment} {directory? : Option Path}
  {fileName : Text}

/-- A set-up whose directory is not known ends before it does anything. -/
theorem setUp_of_unplaced {fault : Fault}
    (unplaced : chosen session environment directory? = .error fault) :
    (setUp environment directory? fileName session).result = .error fault ∧
      (setUp environment directory? fileName session).state =
        { session with
          store := { session.store with
            directories? := some (directoriesIn session environment) } } := by
  simp only [setUp, Task.bind_apply, Task.andThen, Task.get, Session.updateStore, Task.modify,
    Task.ofExcept, unplaced, and_self]

section Chosen

variable {directory : Path} (chose : chosen session environment directory? = .ok directory)

include chose

/-- A set-up succeeds once the directory was made and the file was tried. -/
theorem setUp_of_loaded {made : FileTree} {loaded : Settings} {valid : Bool}
    (created : session.files.makeDirectories directory = (made, none))
    (read : (session.store.settings.storeDefaults.loadFrom
      (directory.join [fileName]) made).result = .ok (loaded, valid)) :
    (setUp environment directory? fileName session).result = .ok true ∧
      (setUp environment directory? fileName session).state =
        ⟨ready session environment directory fileName loaded, made⟩ := by
  have same := Settings.loadFrom_state session.store.settings.storeDefaults
    (directory.join [fileName]) made
  simp only [setUp, Task.bind_apply, Task.andThen, Task.get, Session.updateStore, Task.modify,
    Session.onFiles, Task.within, Directories.create, chose, created, if_true, load, Task.ofExcept,
    resolve, Store.withSettings, read, same, Task.report, Task.pure_apply]
  exact ⟨trivial, rfl⟩

/-- What a set-up results in: it fails if its directory is refused, and else ends as the trying of
its file does. -/
theorem result_setUp :
    (setUp environment directory? fileName session).result =
      match session.files.makeDirectories directory with
      | (made, none) => (session.store.settings.storeDefaults.loadFrom
          (directory.join [fileName]) made).result.map fun _ => true
      | (_, some (.refused _)) => .ok false
      | (_, some fault) => .error (.file fault) := by
  simp only [setUp, Task.bind_apply, Task.andThen, Task.get, Session.updateStore, Task.modify,
    Session.onFiles, Task.within, Task.ofExcept, chose, Directories.create]
  rcases session.files.makeDirectories directory with ⟨made, _ | fault⟩
  · simp only [if_true, Task.bind_apply, Task.andThen, load, Task.get, Task.ofExcept, resolve,
      Session.onFiles, Session.updateStore, Task.modify, Task.within]
    cases (session.store.settings.storeDefaults.loadFrom (directory.join [fileName]) made).result <;>
      rfl
  · cases fault <;> rfl

/-- A set-up whose directory cannot be made ends without opening the store. -/
theorem setUp_of_refused {made : FileTree} {error : FileError}
    (failed : session.files.makeDirectories directory = (made, some (.refused error))) :
    (setUp environment directory? fileName session).result = .ok false ∧
      (setUp environment directory? fileName session).state =
        ⟨{ session.store with
            directories? := some (directoriesIn session environment)
            directory? := some directory }, made⟩ := by
  simp only [setUp, Task.bind_apply, Task.andThen, Task.get, Session.updateStore, Task.modify,
    Session.onFiles, Task.within, Task.ofExcept, chose, Directories.create, failed,
    Bool.false_eq_true, if_false, Task.report, Task.pure_apply, and_self]

end Chosen

/-- A set-up that comes to an answer knows its directory. -/
theorem exists_chosen_of_setUp {answer : Bool}
    (answered : (setUp environment directory? fileName session).result = .ok answer) :
    ∃ directory, chosen session environment directory? = .ok directory := by
  cases chose : chosen session environment directory? with
  | ok directory => exact ⟨directory, rfl⟩
  | error fault =>
      rw [(setUp_of_unplaced chose).1] at answered
      cases answered

/-- Nothing else lets a set-up succeed. -/
theorem exists_of_setUp
    (succeeded : (setUp environment directory? fileName session).result = .ok true) :
    ∃ directory made loaded valid, chosen session environment directory? = .ok directory ∧
      session.files.makeDirectories directory = (made, none) ∧
      (session.store.settings.storeDefaults.loadFrom (directory.join [fileName]) made).result =
        .ok (loaded, valid) := by
  obtain ⟨directory, chose⟩ := exists_chosen_of_setUp succeeded
  rw [result_setUp chose] at succeeded
  split at succeeded
  next made created =>
    cases read : (session.store.settings.storeDefaults.loadFrom
        (directory.join [fileName]) made).result with
    | ok loaded => exact ⟨directory, made, loaded.1, loaded.2, chose, created, read⟩
    | error fault =>
        rw [read] at succeeded
        cases succeeded
  next => cases succeeded
  next => cases succeeded

/-- Only a directory that cannot be made lets a set-up fail. -/
theorem exists_refused_of_setUp
    (failed : (setUp environment directory? fileName session).result = .ok false) :
    ∃ directory made error, chosen session environment directory? = .ok directory ∧
      session.files.makeDirectories directory = (made, some (.refused error)) := by
  obtain ⟨directory, chose⟩ := exists_chosen_of_setUp failed
  rw [result_setUp chose] at failed
  split at failed
  next made created =>
    cases read : (session.store.settings.storeDefaults.loadFrom
        (directory.join [fileName]) made).result with
    | ok loaded =>
        rw [read] at failed
        cases failed
    | error fault =>
        rw [read] at failed
        cases failed
  next made error refused => exact ⟨directory, made, error, chose, refused⟩
  next => cases failed

/-- What a set-up that succeeded leaves behind. -/
theorem exists_made_of_setUp
    (succeeded : (setUp environment directory? fileName session).result = .ok true) :
    ∃ directory made, chosen session environment directory? = .ok directory ∧
      session.files.Grown made ∧ made.lookUp? directory = some .directory ∧
      (setUp environment directory? fileName session).state =
        ⟨ready session environment directory fileName
          (session.store.settings.storeDefaults.withFile made (directory.join [fileName])),
          made⟩ := by
  obtain ⟨directory, made, loaded, valid, chose, created, read⟩ := exists_of_setUp succeeded
  have makes := FileTree.makes_makeDirectories session.files directory
  rw [created] at makes
  refine ⟨directory, made, chose, makes.grown, makes.made rfl, ?_⟩
  rw [(setUp_of_loaded chose created read).2, Settings.loadFrom_eq_ok read]

/-- A set-up in a known directory, both it and the file name legal, succeeds or fails, and never
ends in a fault. -/
theorem setUp_cases {directory : Path}
    (chose : chosen session environment directory? = .ok directory) (legal : directory.Legal)
    (named : fileName.Legal) :
    ∃ made, session.files.Grown made ∧
      ((∃ settings, (setUp environment directory? fileName session).result = .ok true ∧
          (setUp environment directory? fileName session).state =
            ⟨ready session environment directory fileName settings, made⟩) ∨
        (setUp environment directory? fileName session).result = .ok false ∧
          (setUp environment directory? fileName session).state =
            ⟨{ session.store with
                directories? := some (directoriesIn session environment)
                directory? := some directory }, made⟩) := by
  have makes := FileTree.makes_makeDirectories session.files directory
  have refusal := @FileTree.isRefusal_of_makeDirectories session.files _ legal
  rcases created : session.files.makeDirectories directory with ⟨made, _ | fault⟩
  · rw [created] at makes
    obtain ⟨valid, read⟩ :=
      Settings.exists_loadFrom (legal.join named) session.store.settings.storeDefaults made
    exact ⟨made, makes.grown, Or.inl ⟨_, setUp_of_loaded chose created read⟩⟩
  · rw [created] at makes refusal
    obtain ⟨error, rfl⟩ := refusal rfl
    exact ⟨made, makes.grown, Or.inr (setUp_of_refused chose created)⟩

end SetUp

end Store

end Startup
