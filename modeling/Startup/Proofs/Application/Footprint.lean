import Startup.Application.Program
import Startup.Proofs.Application.Overrides
import Startup.Proofs.Arguments.Legal
import Startup.Proofs.Settings.SettingUp

/-!
# What a run leaves behind

A command line that is wrong or that asks for the help or the version ends the program before it
touches a file. The test mode sets up the directories and the store and ends without saving, so all
it leaves behind are directories, also where it fails halfway.
-/

namespace Startup.Application

open Arguments

/-- Values of a command line that a program can work with. -/
structure Usable (interface : Interface) : Prop where
  values : ∀ option, (valueOf interface option).Legal
  overrides : ∀ settings, ∃ changed, applyOverrides interface settings = ⟨.ok (), changed, []⟩

theorem usable_of_accepted {arguments : List Text} {path? : Option Text}
    (accepted : (standardInterface.parse arguments path?).error? = none)
    (plain : ∀ argument ∈ arguments, argument.Legal) :
    Usable (standardInterface.parse arguments path?) where
  values option := by
    have defaults : ∀ option ∈ standardInterface.schema, option.defaultValue.Legal := by decide
    exact legal_value_of_accepted accepted plain defaults option.key Text.legal_nil
  overrides settings := by
    obtain ⟨items, derives, collected⟩ := exists_derivation_of_parse accepted
    exact ⟨_, applyOverrides_eq derives.fits collected settings⟩

section Named

variable {interface : Interface} (usable : Usable interface)

include usable

theorem Usable.legal_of_nonempty? {option : Descriptor} {text : Text}
    (named : nonempty? (valueOf interface option) = some text) : text.Legal := by
  unfold nonempty? at named
  split at named
  · cases named
  · rw [← Option.some.inj named]
    exact usable.values option

theorem Usable.legal_directoriesFor {environment : Environment} (known : environment.Legal)
    {files : FileTree} (possible : files.Legal) :
    (directoriesFor interface environment files).Legal := by
  apply Directories.legal_standard _ known possible.workingPath
  intro text named
  exact usable.legal_of_nonempty? named

theorem Usable.legal_settingsFile :
    (∀ directory ∈ (settingsFile interface).1, directory.Legal) ∧
      (settingsFile interface).2.Legal := by
  unfold settingsFile
  cases named : nonempty? (valueOf interface settingsOption) with
  | none =>
      have name : Store.defaultFileName.Legal := by decide
      exact ⟨fun directory chosen => absurd chosen (Option.not_mem_none directory), name⟩
  | some text =>
      have legal := Path.legal_ofText (usable.legal_of_nonempty? named)
      refine ⟨fun directory chosen => ?_, legal.name⟩
      rw [← Option.some.inj chosen]
      exact legal.parent

end Named

section Prepare

variable (interface : Interface) (environment : Environment) (files : FileTree)

def setUpDirectories : Run FileTree Bool :=
  (directoriesFor interface environment files).setUp files

/-- Sets up the store for the file that the command line chooses, after the directories. -/
def setUpStore : Run Session Bool :=
  Store.setUp environment (settingsFile interface).1 (settingsFile interface).2
    ⟨.empty (some (directoriesFor interface environment files)),
      (setUpDirectories interface environment files).state⟩

/-- Whether the directories or, after them, the store cannot be set up. -/
def CannotPrepare : Prop :=
  (setUpDirectories interface environment files).result = .ok false ∨
    (setUpDirectories interface environment files).result = .ok true ∧
      (setUpStore interface environment files).result = .ok false

instance : Decidable (CannotPrepare interface environment files) :=
  inferInstanceAs (Decidable (_ ∨ _ ∧ _))

variable {interface environment files}

theorem prepare_of_directories
    (failed : (setUpDirectories interface environment files).result = .ok false) :
    (prepare interface environment ⟨.empty none, files⟩).result = .ok false ∧
      (prepare interface environment ⟨.empty none, files⟩).state.files =
        (setUpDirectories interface environment files).state := by
  unfold setUpDirectories at failed ⊢
  simp only [prepare, Task.bind_apply, Task.andThen, Task.report, Task.get, Session.onFiles,
    Task.within, failed, Bool.false_eq_true, if_false, Task.pure_apply, and_self]

variable (usable : Usable interface)

include usable

/-- Once there are directories, preparing comes down to the store, since overrides do not fail. -/
theorem Usable.prepare_of_store {answer : Bool}
    (made : (setUpDirectories interface environment files).result = .ok true)
    (opened : (setUpStore interface environment files).result = .ok answer) :
    (prepare interface environment ⟨.empty none, files⟩).result = .ok answer ∧
      (prepare interface environment ⟨.empty none, files⟩).state.files =
        (setUpStore interface environment files).state.files := by
  obtain ⟨changed, applied⟩ :=
    usable.overrides (setUpStore interface environment files).state.store.settings
  unfold setUpStore setUpDirectories at *
  simp only [prepare, Task.bind_apply, Task.andThen, Task.report, Task.get, Session.onFiles,
    Task.within, made, if_true, Session.updateStore, Task.modify, opened]
  cases answer with
  | false =>
      simp only [Bool.false_eq_true, if_false, Task.bind_apply, Task.andThen, Task.report,
        Task.pure_apply, and_self]
  | true =>
      simp only [if_true, Task.bind_apply, Task.andThen, Session.onSettings, Task.within, applied,
        Task.pure_apply, and_self]

variable (known : environment.Legal) (possible : files.Legal)

include known possible

/-- Setting up the store comes to an answer and at most adds directories to those made before. -/
theorem Usable.exists_setUpStore :
    ∃ answer, (setUpStore interface environment files).result = .ok answer ∧
      (setUpDirectories interface environment files).state.Grown
        (setUpStore interface environment files).state.files := by
  obtain ⟨chosen, named⟩ := usable.legal_settingsFile
  have directories := usable.legal_directoriesFor known possible
  obtain ⟨directory, chose, legal⟩ : ∃ directory, Store.chosen
      ⟨.empty (some (directoriesFor interface environment files)),
        (setUpDirectories interface environment files).state⟩ environment
        (settingsFile interface).1 = .ok directory ∧ directory.Legal := by
    cases given : (settingsFile interface).1 with
    | none =>
        obtain ⟨place, known⟩ := Directories.exists_settingsPlace_standard
          (nonempty? (valueOf interface homeOption)) environment files.workingPath
        exact ⟨place, known, directories.settingsPlace known⟩
    | some directory => exact ⟨directory, rfl, chosen directory given⟩
  obtain ⟨made, grown, opened⟩ := Store.setUp_cases chose legal named
  rcases opened with ⟨settings, result, state⟩ | ⟨result, state⟩
  · refine ⟨true, result, ?_⟩
    rw [setUpStore, state]
    exact grown
  · refine ⟨false, result, ?_⟩
    rw [setUpStore, state]
    exact grown

/-- Preparing comes to an answer, which tells whether it failed, and at most adds directories. -/
theorem Usable.prepare_cases :
    ∃ prepared, (prepare interface environment ⟨.empty none, files⟩).result = .ok prepared ∧
      (prepared = false ↔ CannotPrepare interface environment files) ∧
      files.Grown (prepare interface environment ⟨.empty none, files⟩).state.files := by
  obtain ⟨⟨made, answered⟩, early⟩ :=
    (usable.legal_directoriesFor known possible).expands_setUp files
  have directories : (setUpDirectories interface environment files).result = .ok made := answered
  cases made with
  | false =>
      obtain ⟨result, state⟩ := prepare_of_directories directories
      refine ⟨false, result, iff_of_true rfl (Or.inl directories), ?_⟩
      rw [state]
      exact early
  | true =>
      obtain ⟨answer, opened, late⟩ := usable.exists_setUpStore known possible
      obtain ⟨result, state⟩ := usable.prepare_of_store directories opened
      refine ⟨answer, result, ?_, ?_⟩
      · rw [CannotPrepare, opened, directories]
        simp
      · rw [state]
        exact early.trans late

end Prepare

/-- The test mode ends with the answer of the preparation. -/
theorem work_testing {interface : Interface} {environment : Environment} {files : FileTree}
    {stopsOnWait prepared : Bool} (testing : given interface testOption = true)
    (answered : (prepare interface environment ⟨.empty none, files⟩).result = .ok prepared) :
    (work interface environment (.initial files stopsOnWait)).result =
        .ok (if prepared then 0 else 1) ∧
      (work interface environment (.initial files stopsOnWait)).state.session.files =
        (prepare interface environment ⟨.empty none, files⟩).state.files := by
  simp only [work, begin, Task.bind_apply, Task.andThen, Program.onSession, Task.within,
    Program.initial, answered, testing]
  cases prepared with
  | false => exact ⟨rfl, rfl⟩
  | true => exact ⟨rfl, rfl⟩

/-- Whether a command line ends the program before it does anything else. -/
def EndsEarly (interface : Interface) : Prop :=
  interface.error?.isSome = true ∨ given interface helpOption = true ∨
    given interface versionOption = true

instance (interface : Interface) : Decidable (EndsEarly interface) :=
  inferInstanceAs (Decidable (_ ∨ _ ∨ _))

section Run

variable {arguments : List Text} {path? : Option Text} {environment : Environment}
  {files : FileTree} {stopsOnWait : Bool}

theorem files_run_of_endsEarly (early : EndsEarly (standardInterface.parse arguments path?)) :
    (run arguments path? environment files stopsOnWait).files = files := by
  unfold run read
  by_cases failed : (standardInterface.parse arguments path?).error?.isSome = true
  · rw [if_pos failed]
  · by_cases help : given (standardInterface.parse arguments path?) helpOption = true
    · rw [if_neg failed, if_pos help]
    · rw [if_neg failed, if_neg help, if_pos ((early.resolve_left failed).resolve_left help)]

theorem run_of_working (goesOn : ¬EndsEarly (standardInterface.parse arguments path?)) :
    (run arguments path? environment files stopsOnWait).result =
        (work (standardInterface.parse arguments path?) environment
          (.initial files stopsOnWait)).result ∧
      (run arguments path? environment files stopsOnWait).files =
        (work (standardInterface.parse arguments path?) environment
          (.initial files stopsOnWait)).state.session.files := by
  obtain ⟨failed, help, version⟩ : _ ∧ _ ∧ _ := by simpa only [EndsEarly, not_or] using goesOn
  unfold run read
  rw [if_neg failed, if_neg help, if_neg version]
  exact ⟨rfl, rfl⟩

end Run

/-- A run that does not serve leaves nothing but directories behind. Without an error and without a
request for the help or the version, the exit code of the test mode tells whether it was able to set
up the directories and the store. -/
theorem run_without_service (arguments : List Text) (path? : Option Text)
    (environment : Environment) (files : FileTree) (stopsOnWait : Bool)
    (plain : ∀ argument ∈ arguments, argument.Legal) (known : environment.Legal)
    (possible : files.Legal) :
    let interface := standardInterface.parse arguments path?
    let outcome := run arguments path? environment files stopsOnWait
    (EndsEarly interface → outcome.files = files) ∧
      (¬EndsEarly interface → given interface testOption = true →
        files.Grown outcome.files ∧
          outcome.result =
            .ok (if CannotPrepare interface environment files then 1 else 0)) := by
  intro interface outcome
  refine ⟨files_run_of_endsEarly, fun goesOn testing => ?_⟩
  have accepted : interface.error? = none :=
    Option.not_isSome_iff_eq_none.mp fun failed => goesOn (Or.inl failed)
  obtain ⟨prepared, answered, failure, grown⟩ :=
    (usable_of_accepted accepted plain).prepare_cases known possible
  obtain ⟨result, kept⟩ :=
    @work_testing interface environment files stopsOnWait prepared testing answered
  obtain ⟨result', kept'⟩ := @run_of_working arguments path? environment files stopsOnWait goesOn
  refine ⟨?_, ?_⟩
  · rw [kept', kept]
    exact grown
  · rw [result', result]
    cases prepared with
    | false => rw [if_pos (failure.mp rfl), if_neg Bool.false_ne_true]
    | true => rw [if_neg fun cannot => Bool.noConfusion (failure.mpr cannot), if_pos rfl]

/-- A tree with a file where the directory of the settings file should be. -/
def withObstacle : FileTree where
  entries := OrderedMap.ofList [([Path.stored "d"], .file [])]
  workingDirectory := []

/-- The directories are made, the store is not set up, and nothing else happens. -/
theorem run_without_service_withObstacle :
    let outcome := run ["--test-mode", "-c", "d/a.conf"] none ∅ withObstacle false
    outcome.result = .ok 1 ∧ withObstacle.Grown outcome.files ∧
      outcome.files.entry? [Path.stored "logs"] = some .directory := by
  have plain : ∀ argument ∈ (["--test-mode", "-c", "d/a.conf"] : List Text), argument.Legal := by
    decide
  have known : Environment.Legal ∅ := fun entry impossible => by cases impossible
  have possible : withObstacle.Legal := fun name impossible => by cases impossible
  obtain ⟨-, tested⟩ := run_without_service ["--test-mode", "-c", "d/a.conf"] none ∅ withObstacle
    false plain known possible
  obtain ⟨grown, result⟩ := tested (by decide) (by decide)
  have cannot : CannotPrepare (standardInterface.parse ["--test-mode", "-c", "d/a.conf"] none) ∅
    withObstacle := by decide +kernel
  rw [if_pos cannot] at result
  exact ⟨result, grown, by decide +kernel⟩

end Startup.Application
