import Startup.Proofs.Settings.Defaults
import Startup.Proofs.Settings.Saving
import Startup.Proofs.Settings.SettingUp

/-!
# Closing a store and opening it again

Closing a store saves its settings. A fresh store that is set up for the same file reads them over
the defaults, so it holds what was saved, and the defaults only where nothing was.
-/

namespace Startup

namespace Settings

theorem contains_defaultSettings (name : Text) :
    OrderedMap.contains defaultSettings name = true ↔
      ∃ key, (defaultText? name key).isSome = true := by
  rw [defaultSettings, storeDefaults_eq_applyAll, contains_applyAll]
  constructor
  · rintro (⟨effect, member, rfl⟩ | impossible)
    · obtain ⟨entry, -, rfl⟩ := List.mem_map.mp member
      exact ⟨entry.2.1, Option.isSome_iff_exists.mpr ⟨_, stored_mem_defaultEffects.mp member⟩⟩
    · cases impossible
  · rintro ⟨key, present⟩
    obtain ⟨text, found⟩ := Option.isSome_iff_exists.mp present
    exact Or.inl ⟨_, stored_mem_defaultEffects.mpr found, rfl⟩

theorem contains_of_isSome_value? {settings : Settings} {name key : Text}
    (present : (settings.value? name key).isSome = true) :
    OrderedMap.contains settings name = true := by
  obtain ⟨value, found⟩ := Option.isSome_iff_exists.mp present
  obtain ⟨group, grouped, -⟩ := value?_eq_some_iff.mp found
  exact (contains_eq_true_iff settings name).mpr ⟨_, grouped, rfl⟩

/-- One table over another: its sections and entries, and those of the lower table that it lacks. -/
structure Covers (upper lower whole : Settings) : Prop where
  sections : ∀ name, OrderedMap.contains whole name =
    (OrderedMap.contains upper name || OrderedMap.contains lower name)
  values : ∀ name key, whole.value? name key = (upper.value? name key).or (lower.value? name key)

/-- A file that gives a table back gives it back over any other table too. -/
theorem covers_load {upper : Settings} {content : Text} (same : (load ∅ content).Same upper)
    (lower : Settings) : Covers upper lower (lower.load content) where
  sections name := by rw [contains_load_over, (same name).1]
  values name key := by rw [value?_load_over, (same name).2 key]

/-- A table that has every key of the lower one covers it wholly. -/
theorem Covers.same {upper whole : Settings} (covers : Covers upper defaultSettings whole)
    (all : ∀ name key, (defaultText? name key).isSome = true →
      (upper.value? name key).isSome = true) : whole.Same upper := by
  intro name
  constructor
  · rw [covers.sections]
    cases present : OrderedMap.contains defaultSettings name with
    | false => exact Bool.or_false _
    | true =>
        obtain ⟨key, default⟩ := (contains_defaultSettings name).mp present
        rw [contains_of_isSome_value? (all name key default)]
        rfl
  · intro key
    rw [covers.values, value?_defaultSettings]
    cases found : upper.value? name key with
    | some value => rfl
    | none =>
        cases default : defaultText? name key with
        | none => rfl
        | some text =>
            have present := all name key (by rw [default]; rfl)
            rw [found] at present
            cases present

end Settings

namespace Store

theorem close_of_closed {session : Session} (closed : session.store.isOpen = false) :
    close session = ⟨.ok (), session, []⟩ := by
  simp only [close, Task.bind_apply, Task.andThen, Task.get, closed, Bool.false_eq_true, if_false,
    Task.pure_apply, List.append_nil]

/-- Closing an open store saves its settings to its file, with the store closed before. -/
theorem close_of_open {session : Session} {file : Path} (opened : session.store.isOpen = true)
    (known : session.store.file? = some file) :
    close session =
      ⟨(session.store.settings.saveTo file session.files).result.map fun _ => (),
        ⟨{ session.store with isOpen := false },
          (session.store.settings.saveTo file session.files).state⟩,
        (session.store.settings.saveTo file session.files).log⟩ := by
  obtain ⟨⟨settings, directories?, directory?, file?, isOpen⟩, files⟩ := session
  obtain rfl : isOpen = true := opened
  obtain rfl : file? = some file := known
  have saved := @save_eq ⟨⟨settings, directories?, directory?, some file, false⟩, files⟩ none file rfl
  simp only [close, Task.bind_apply, Task.andThen, Task.get, if_true, Session.updateStore,
    Task.modify, saved]
  cases (settings.saveTo file files).result with
  | error fault => rfl
  | ok answer =>
      simp only [Task.pure_apply, List.nil_append, List.append_nil]
      rfl

/-- Whether a text names something in a directory. -/
def NamesInner (fileName : Text) : Prop :=
  (Path.ofText fileName).start = .relative ∧ (Path.ofText fileName).names ≠ []

/-- When a file in a directory can be read, the directory is there. -/
theorem lookUp?_of_namesInner {tree : FileTree} {directory : Path} {fileName : Text} {bytes : Bytes}
    (inner : NamesInner fileName) (read : tree.read (directory.join [fileName]) = .ok bytes) :
    tree.lookUp? directory = some .directory := by
  obtain ⟨place, placed, -⟩ :=
    Option.bind_eq_some_iff.mp (FileTree.read_eq_ok_iff_lookUp?.mp read)
  exact FileTree.lookUp?_of_below inner.1 inner.2 placed

/-- A fresh store that is set up where settings were saved reads them over the defaults. -/
theorem setUp_of_saved {settings : Settings} (representable : settings.Representable)
    {directories? : Option Directories} {tree : FileTree} {environment : Environment}
    {directory? : Option Path} {fileName : Text} {bytes : Bytes} {directory : Path}
    (encoded : settings.bytes? = some bytes)
    (chose : chosen ⟨.empty directories?, tree⟩ environment directory? = .ok directory)
    (there : tree.lookUp? directory = some .directory)
    (read : tree.read (directory.join [fileName]) = .ok bytes) :
    (setUp environment directory? fileName ⟨.empty directories?, tree⟩).result = .ok true ∧
      Settings.Covers settings Settings.defaultSettings
        (setUp environment directory? fileName ⟨.empty directories?, tree⟩).state.store.settings := by
  obtain ⟨succeeded, state⟩ :=
    setUp_of_loaded chose (FileTree.makeDirectories_of_directory there)
      (Settings.result_loadFrom Settings.defaultSettings read)
  refine ⟨succeeded, ?_⟩
  have whole := Settings.reload?_of_stable representable.stable
  rw [Settings.reload?, encoded, Option.map_some, Option.some.injEq] at whole
  have same : (Settings.load ∅ (Utf8.decode bytes)).Same settings := by
    rw [whole]
    exact Settings.same_of_representable representable
  rw [state]
  exact Settings.covers_load same Settings.defaultSettings

/-- Closing a store and opening it again restores it. A fresh store that is set up in the same
directory, with the same file name, has what was saved and the defaults that were missing; if none
was missing, it has just what was saved. The directory is known to be there when the file name names
something in it, and has to be there still when it does not. -/
theorem setUp_of_close {first session : Session} {environment environment' : Environment}
    {directory? directory'? : Option Path} {fileName : Text} {directories? : Option Directories}
    (initialized : (setUp environment directory? fileName first).result = .ok true)
    (sameFile : session.store.file? =
      (setUp environment directory? fileName first).state.store.file?)
    (opened : session.store.isOpen = true)
    (representable : session.store.settings.Representable)
    (saved : (save none session).result = .ok true)
    (there : NamesInner fileName ∨
      ∀ directory, chosen first environment directory? = .ok directory →
        session.files.lookUp? directory = some .directory)
    (sameDirectory : chosen ⟨.empty directories?, (close session).state.files⟩ environment'
      directory'? = chosen first environment directory?) :
    ∃ reopened,
      setUp environment' directory'? fileName ⟨.empty directories?, (close session).state.files⟩ =
        reopened ∧
      reopened.result = .ok true ∧
      Settings.Covers session.store.settings Settings.defaultSettings
        reopened.state.store.settings ∧
      ((∀ name key, (Settings.defaultText? name key).isSome = true →
        (session.store.settings.value? name key).isSome = true) →
          reopened.state.store.settings.Same session.store.settings) := by
  obtain ⟨directory, made, chose, -, -, state⟩ := exists_made_of_setUp initialized
  rw [state] at sameFile
  have resolved : session.store.resolve none = .ok (directory.join [fileName]) := by
    rw [resolve, sameFile]
    rfl
  rw [save_eq resolved] at saved
  obtain ⟨bytes, encoded, read⟩ := Settings.read_saveTo saved
  obtain ⟨temporary, named⟩ := Settings.exists_temporary_of_saved saved
  have files : (close session).state.files = (session.store.settings.saveTo
      (directory.join [fileName]) session.files).state := by
    rw [close_of_open opened sameFile]
  have there' : (close session).state.files.lookUp? directory = some .directory := by
    rw [files]
    -- A file that can be read in a directory shows that the directory is there. An absolute file
    -- name says nothing about it, but saving keeps every directory.
    rcases there with inner | before
    · exact lookUp?_of_namesInner inner read
    · exact FileTree.lookUp?_directory_of_keeps (Settings.ending_saveTo named).keeps
        (before directory chose)
  rw [← files] at read
  obtain ⟨succeeded, covers⟩ :=
    setUp_of_saved representable encoded (sameDirectory.trans chose) there' read
  exact ⟨_, rfl, succeeded, covers, covers.same⟩

/-- A store in a new directory, with a port of its own and an empty section. -/
def rearranged : Session :=
  let session := (setUp ∅ (some (Path.ofText "d")) "a.conf" ⟨.empty none, ⟨∅, []⟩⟩).state
  { session with
    store := session.store.withSettings
      (OrderedMap.ofList [("x", ∅), ("web", OrderedMap.ofList [("port", "1")])]) }

theorem save_rearranged : (save none rearranged).result = .ok true := by
  have resolved : rearranged.store.resolve none = .ok (Path.ofText "d/a.conf") := by
    decide +kernel
  have named : Settings.temporary? (Path.ofText "d/a.conf") = some (Path.ofText "d/a.conf.tmp") := by
    decide
  rw [save_eq resolved]
  refine (Settings.ending_saveTo named).eq_true_iff.mpr ⟨?_, by decide +kernel, by decide +kernel⟩
  exact Option.isSome_iff_ne_none.mp (Settings.piecewise_encodable.render (by decide +kernel))

theorem setUp_rearranged :
    ∃ reopened,
      setUp ∅ (some (Path.ofText "d")) "a.conf" ⟨.empty none, (close rearranged).state.files⟩ =
        reopened ∧
      reopened.result = .ok true ∧
      OrderedMap.contains reopened.state.store.settings "x" = true ∧
      reopened.state.store.settings.value? "web" "port" = some "1" ∧
      reopened.state.store.settings.value? "web" "host" = some "127.0.0.1" := by
  obtain ⟨reopened, done, succeeded, covers, -⟩ :=
    @setUp_of_close ⟨.empty none, ⟨∅, []⟩⟩ rearranged ∅ ∅ (some (Path.ofText "d"))
      (some (Path.ofText "d")) "a.conf" none (by decide +kernel) rfl (by decide +kernel)
      (by decide +kernel) save_rearranged (Or.inl ⟨by decide, by decide⟩) rfl
  refine ⟨reopened, done, succeeded, ?_, ?_, ?_⟩
  · rw [covers.sections]
    decide +kernel
  · rw [covers.values]
    decide +kernel
  · rw [covers.values]
    decide +kernel

end Store

end Startup
