import Startup.Proofs.Files.Operations
import Startup.Proofs.Settings.Reload
import Startup.Settings.Store

/-!
# Replacing the settings file

A saving writes a temporary file next to the target and moves it there. It comes to one of five
ends, which differ in what stood in the way. Only at the last one is the target replaced; at each of
them nothing but the target and the temporary file is touched, and no temporary file is left behind.

The removal of the temporary file after a failure meets the same obstacle as its writing did. So a
saving ends in a fault, instead of a report, exactly when that obstacle is not just a missing
directory.
-/

namespace Startup.Settings

inductive Ending (settings : Settings) (target temporary : Path) (tree : FileTree) :
    Except Fault Bool → FileTree → Prop where
  | unencodable (failed : settings.bytes? = none) :
      Ending settings target temporary tree (.ok false) tree
  | missing {bytes : Bytes} {fault : FileFault} (encoded : settings.bytes? = some bytes)
      (obstacle : tree.obstacle? temporary = some fault)
      (notFound : FileTree.isNotFound fault = true) :
      Ending settings target temporary tree (.ok false) tree
  | blocked {bytes : Bytes} {fault : FileFault} (encoded : settings.bytes? = some bytes)
      (obstacle : tree.obstacle? temporary = some fault)
      (other : FileTree.isNotFound fault = false) :
      Ending settings target temporary tree (.error (.file fault)) tree
  | taken {bytes : Bytes} {source : Location} (encoded : settings.bytes? = some bytes)
      (placed : tree.place? temporary = some (.named source))
      (free : tree.entry? source ≠ some .directory)
      (directory : tree.lookUp? target = some .directory) :
      Ending settings target temporary tree (.ok false)
        (FileTree.clear (tree.put source (.file bytes)) source)
  | moved {bytes : Bytes} {source goal : Location} (encoded : settings.bytes? = some bytes)
      (placed : tree.place? temporary = some (.named source))
      (free : tree.entry? source ≠ some .directory)
      (reached : tree.place? target = some (.named goal))
      (replaceable : tree.entry? goal ≠ some .directory) (apart : source ≠ goal) :
      Ending settings target temporary tree (.ok true)
        (FileTree.put (FileTree.clear (tree.put source (.file bytes)) source) goal (.file bytes))

section Ending

variable {settings : Settings} {target temporary : Path} {tree : FileTree} {bytes : Bytes}

/-- The removal of the temporary file meets the obstacle that its writing met. -/
theorem ending_of_obstacle? {fault : FileFault} (encoded : settings.bytes? = some bytes)
    (obstacle : tree.obstacle? temporary = some fault) :
    Ending settings target temporary tree (replaceFile target temporary bytes tree).result
      (replaceFile target temporary bytes tree).state := by
  have wrote := FileTree.write_of_obstacle? obstacle bytes
  have removed := FileTree.remove_of_obstacle? obstacle
  simp only [replaceFile, wrote, abandon]
  cases fault with
  | refused error =>
      simp only [removed]
      split
      next notFound => exact .missing encoded obstacle notFound
      next other => exact .blocked encoded obstacle ((Bool.not_eq_true _).mp other)
  | unencodable place => exact .blocked encoded obstacle rfl
  | embeddedNull => exact .blocked encoded obstacle rfl
  | nameless path => exact .blocked encoded obstacle rfl

/-- A temporary file and its target are never the same. -/
theorem place?_target {source : Location} (named : temporary? target = some temporary)
    (placed : tree.place? temporary = some (.named source)) :
    ∃ goal, tree.place? target = some goal ∧ goal ≠ .named source := by
  obtain ⟨directory, name, rfl, reached | reached⟩ := FileTree.place?_of_withSuffix? named placed
  · refine ⟨_, reached, ?_⟩
    intro same
    have last : [name] = [name ++ Path.stored ".tmp"] :=
      List.append_cancel_left (Place.named.inj same)
    have length := congrArg List.length (List.singleton_inj.mp last)
    rw [List.length_append] at length
    have longer : (Path.stored ".tmp").length = 4 := by decide
    omega
  · exact ⟨_, reached, fun same => Place.noConfusion same⟩

/-- While the temporary file is there, the target is what it was. -/
theorem lookUp?_of_write {written : FileTree} (named : temporary? target = some temporary)
    (wrote : tree.write temporary bytes = .ok written) :
    written.lookUp? target = tree.lookUp? target := by
  obtain ⟨names, source, legal, placed, free, rfl⟩ := FileTree.write_eq_ok_iff.mp wrote
  obtain ⟨goal, reached, apart⟩ :=
    place?_target named (FileTree.place?_eq_some_iff.mpr ⟨names, legal, placed⟩)
  rw [FileTree.lookUp?, FileTree.place?_put free, reached, Option.bind_some,
    FileTree.entryAt?_put_of_ne free bytes apart, FileTree.lookUp?, reached, Option.bind_some]

theorem ending_of_placed {source : Location} (encoded : settings.bytes? = some bytes)
    (named : temporary? target = some temporary)
    (placed : tree.place? temporary = some (.named source))
    (free : tree.entry? source ≠ some .directory) :
    Ending settings target temporary tree (replaceFile target temporary bytes tree).result
      (replaceFile target temporary bytes tree).state := by
  obtain ⟨goal, reached, apart⟩ := place?_target named placed
  have wrote := FileTree.write_of_free placed free bytes
  have here := FileTree.entry?_put_self free bytes
  have placed' := (FileTree.place?_put free bytes temporary).trans placed
  have reached' := (FileTree.place?_put free bytes target).trans reached
  have unchanged := FileTree.entryAt?_put_of_ne free bytes apart
  -- The move can only fail at a directory, and then the temporary file is there to be removed.
  by_cases directory : tree.entryAt? goal = some .directory
  · obtain ⟨error, refused⟩ :=
      FileTree.replace_of_directory placed' here reached' (unchanged.trans directory)
    simp only [replaceFile, wrote, refused, abandon, FileTree.remove_of_file placed' here]
    refine .taken encoded placed free ?_
    rw [FileTree.lookUp?, reached, Option.bind_some, directory]
  · cases goal with
    | directory location => exact absurd rfl directory
    | named location =>
        have moved := FileTree.replace_of_free placed' here reached'
          (fun taken => directory (unchanged.symm.trans taken))
        simp only [replaceFile, wrote, moved]
        refine .moved encoded placed free reached directory ?_
        rintro rfl
        exact apart rfl

/-- A saving comes to one of the five ends. -/
theorem ending_saveTo (named : temporary? target = some temporary) :
    Ending settings target temporary tree (settings.saveTo target tree).result
      (settings.saveTo target tree).state := by
  unfold saveTo
  cases encodable : Utf8.unencodable? settings.render with
  | some place =>
      refine .unencodable (Option.not_isSome_iff_eq_none.mp fun encoded => ?_)
      rw [Utf8.unencodable?_eq_none_iff.mpr encoded] at encodable
      cases encodable
  | none =>
      obtain ⟨bytes, encoded⟩ : ∃ bytes, settings.bytes? = some bytes :=
        Option.isSome_iff_exists.mp (Utf8.unencodable?_eq_none_iff.mp encodable)
      simp only [named, encoded, Option.getD_some]
      cases obstacle : tree.obstacle? temporary with
      | some fault => exact ending_of_obstacle? encoded obstacle
      | none =>
          obtain ⟨source, placed, free⟩ := FileTree.obstacle?_eq_none_iff.mp obstacle
          exact ending_of_placed encoded named placed free

end Ending

/-! ## What is touched -/

/-- What an attempt to replace the file at `target` does to the files. -/
structure Replaces (bytes? : Option Bytes) (target temporary : Path) (replaced : Prop)
    (before after : FileTree) : Prop where
  content : replaced → ∃ bytes, bytes? = some bytes ∧ after.lookUp? target = some (.file bytes)
  kept : ¬ replaced → after.lookUp? target = before.lookUp? target
  elsewhere : ∀ location, before.place? target ≠ some (.named location) →
    before.place? temporary ≠ some (.named location) →
    after.entry? location = before.entry? location
  places : ∀ path, after.place? path = before.place? path
  cleaned : before.lookUp? temporary = none → after.lookUp? temporary = none

theorem Replaces.of_unchanged {bytes? : Option Bytes} {target temporary : Path} {replaced : Prop}
    (failed : ¬ replaced) (tree : FileTree) :
    Replaces bytes? target temporary replaced tree tree where
  content done := absurd done failed
  kept _ := rfl
  elsewhere _ _ _ := rfl
  places _ := rfl
  cleaned absent := absent

theorem Ending.replaces {settings : Settings} {target temporary : Path} {before after : FileTree}
    {result : Except Fault Bool} (ending : Ending settings target temporary before result after) :
    Replaces settings.bytes? target temporary (result = .ok true) before after := by
  cases ending with
  | unencodable failed => exact .of_unchanged (by simp) before
  | missing encoded obstacle notFound => exact .of_unchanged (by simp) before
  | blocked encoded obstacle other => exact .of_unchanged (by simp) before
  | @taken bytes source encoded placed free directory =>
      have places := FileTree.place?_clear_put free bytes
      refine ⟨by simp, fun _ => ?_, fun location _ other => ?_, places, fun _ => ?_⟩
      · apply FileTree.lookUp?_eq_of_places (places target)
        intro location reached
        rw [FileTree.entry?_clear_put free, if_neg]
        rintro rfl
        rw [FileTree.lookUp?, reached] at directory
        exact free directory
      · rw [FileTree.entry?_clear_put free, if_neg]
        rintro rfl
        exact other placed
      · rw [FileTree.lookUp?, places, placed, Option.bind_some, FileTree.entryAt?,
          FileTree.entry?_clear_put free, if_pos rfl]
  | @moved bytes source goal encoded placed free reached replaceable apart =>
      have open' : FileTree.entry? (FileTree.clear (before.put source (.file bytes)) source) goal ≠
          some .directory := by
        rw [FileTree.entry?_clear_put free, if_neg apart]
        exact replaceable
      have below := FileTree.ne_nil_of_entry?_ne replaceable
      have places : ∀ path, FileTree.place? (FileTree.put
          (FileTree.clear (before.put source (.file bytes)) source) goal (.file bytes)) path =
          before.place? path := fun path =>
        (FileTree.place?_put open' bytes path).trans (FileTree.place?_clear_put free bytes path)
      refine ⟨fun _ => ⟨bytes, encoded, ?_⟩, by simp, fun location other other' => ?_, places,
        fun _ => ?_⟩
      · rw [FileTree.lookUp?, places, reached, Option.bind_some, FileTree.entryAt?,
          FileTree.entry?_put below, if_pos rfl]
      · rw [FileTree.entry?_put below, if_neg, FileTree.entry?_clear_put free, if_neg]
        · rintro rfl
          exact other' placed
        · rintro rfl
          exact other reached
      · rw [FileTree.lookUp?, places, placed, Option.bind_some, FileTree.entryAt?,
          FileTree.entry?_put below, if_neg (Ne.symm apart), FileTree.entry?_clear_put free,
          if_pos rfl]

/-- A saving keeps every directory. -/
theorem Ending.keeps {settings : Settings} {target temporary : Path} {before after : FileTree}
    {result : Except Fault Bool} (ending : Ending settings target temporary before result after) :
    before.Keeps after := by
  cases ending with
  | unencodable failed => exact .refl before
  | missing encoded obstacle notFound => exact .refl before
  | blocked encoded obstacle other => exact .refl before
  | @taken bytes source encoded placed free directory =>
      exact (FileTree.keeps_put bytes free).trans
        (FileTree.keeps_clear (by rw [FileTree.entry?_put_self free]; simp))
  | @moved bytes source goal encoded placed free reached replaceable apart =>
      refine ((FileTree.keeps_put bytes free).trans
        (FileTree.keeps_clear (by rw [FileTree.entry?_put_self free]; simp))).trans
          (FileTree.keeps_put bytes ?_)
      rw [FileTree.entry?_clear_put free, if_neg apart]
      exact replaceable

/-! ## What is reported -/

section Result

variable {settings : Settings} {target temporary : Path} {before after : FileTree}
  {result : Except Fault Bool} (ending : Ending settings target temporary before result after)

include ending

theorem Ending.eq_error_iff (fault : Fault) :
    result = .error fault ↔
      settings.bytes? ≠ none ∧ ∃ obstacle, before.obstacle? temporary = some obstacle ∧
        FileTree.isNotFound obstacle = false ∧ fault = .file obstacle := by
  cases ending with
  | unencodable failed => simp [failed]
  | missing encoded obstacle notFound => simp [obstacle, notFound]
  | blocked encoded obstacle other =>
      constructor
      · intro same
        cases same
        exact ⟨by simp [encoded], _, obstacle, other, rfl⟩
      · rintro ⟨-, met, obstacle', -, rfl⟩
        rw [obstacle] at obstacle'
        rw [Option.some.inj obstacle']
  | taken encoded placed free directory =>
      have none := FileTree.obstacle?_eq_none_iff.mpr ⟨_, placed, free⟩
      simp [none]
  | moved encoded placed free reached replaceable apart =>
      have none := FileTree.obstacle?_eq_none_iff.mpr ⟨_, placed, free⟩
      simp [none]

theorem Ending.eq_true_iff :
    result = .ok true ↔
      settings.bytes? ≠ none ∧ before.obstacle? temporary = none ∧
        before.lookUp? target ≠ some .directory := by
  cases ending with
  | unencodable failed => simp [failed]
  | missing encoded obstacle notFound => simp [obstacle]
  | blocked encoded obstacle other => simp [obstacle]
  | taken encoded placed free directory => simp [directory]
  | moved encoded placed free reached replaceable apart =>
      have none := FileTree.obstacle?_eq_none_iff.mpr ⟨_, placed, free⟩
      simp only [encoded, none, FileTree.lookUp?, reached, Option.bind_some, FileTree.entryAt?]
      simp [replaceable]

end Result

end Startup.Settings

namespace Startup.Store

/-- A saving works on the files alone. -/
theorem save_eq {session : Session} {path? : Option Text} {target : Path}
    (resolved : session.store.resolve path? = .ok target) :
    save path? session =
      ⟨(session.store.settings.saveTo target session.files).result,
        { session with files := (session.store.settings.saveTo target session.files).state },
        (session.store.settings.saveTo target session.files).log⟩ := by
  simp only [save, Task.bind_apply, Task.andThen, Task.get, Task.ofExcept, resolved,
    Session.onFiles, Task.within, List.nil_append]

theorem exists_temporary {target : Path} (named : target.name ≠ []) :
    ∃ temporary, Settings.temporary? target = some temporary := by
  unfold Settings.temporary? Path.withSuffix?
  rw [if_neg]
  · exact ⟨_, rfl⟩
  · intro nameless
    exact named (by rw [Path.name, nameless]; rfl)

/-- A saving replaces its target completely or leaves it, also at the moment when the temporary file
has been written. It touches nothing else but the temporary file, which it does not leave behind. -/
theorem save_replaces {session : Session} {path? : Option Text} {target : Path}
    (resolved : session.store.resolve path? = .ok target) (named : target.name ≠ []) :
    ∃ temporary, Settings.temporary? target = some temporary ∧
      temporary.text = target.text ++ ".tmp" ∧
      (save path? session).state.store = session.store ∧
      (∀ bytes written, session.files.write temporary bytes = .ok written →
        written.lookUp? target = session.files.lookUp? target) ∧
      Settings.Replaces session.store.settings.bytes? target temporary
        ((save path? session).result = .ok true) session.files
        (save path? session).state.files := by
  obtain ⟨temporary, extended⟩ := exists_temporary named
  refine ⟨temporary, extended, Path.text_of_withSuffix? extended, ?_, ?_, ?_⟩
  · rw [save_eq resolved]
  · intro bytes written
    exact Settings.lookUp?_of_write extended
  · rw [save_eq resolved]
    exact (Settings.ending_saveTo extended).replaces

/-- A directory `d`, and nothing under the name of its temporary file. -/
def besideDirectory : Session where
  store := Store.empty none
  files := ⟨OrderedMap.ofList [([Path.stored "d"], .directory)], []⟩

/-- A saving to a directory is refused when the temporary file is there already, which then goes. -/
theorem save_besideDirectory :
    (save (some "d") besideDirectory).result = .ok false ∧
      (save (some "d") besideDirectory).state.files.lookUp? (Path.ofText "d") = some .directory ∧
      (save (some "d") besideDirectory).state.files.lookUp? (Path.ofText "d.tmp") = none := by
  have failed : (save (some "d") besideDirectory).result = .ok false := by decide +kernel
  obtain ⟨temporary, extended, -, -, -, replaces⟩ :=
    @save_replaces besideDirectory (some "d") (Path.ofText "d") rfl (by decide)
  have name : Settings.temporary? (Path.ofText "d") = some (Path.ofText "d.tmp") := by decide
  obtain rfl := Option.some.inj (extended.symm.trans name)
  refine ⟨failed, ?_, replaces.cleaned (by decide)⟩
  rw [replaces.kept (by rw [failed]; simp)]
  decide

/-- A saving ends in a fault exactly when something else than a missing directory keeps the system
from having a temporary file; otherwise the result says whether the target was replaced. -/
theorem save_result_iff {session : Session} {path? : Option Text} {target : Path}
    (resolved : session.store.resolve path? = .ok target) (named : target.name ≠ []) :
    ∃ temporary, Settings.temporary? target = some temporary ∧
      (∀ fault, (save path? session).result = .error fault ↔
        session.store.settings.bytes? ≠ none ∧
          ∃ obstacle, session.files.obstacle? temporary = some obstacle ∧
            FileTree.isNotFound obstacle = false ∧ fault = .file obstacle) ∧
      ((save path? session).result = .ok true ↔
        session.store.settings.bytes? ≠ none ∧ session.files.obstacle? temporary = none ∧
          session.files.lookUp? target ≠ some .directory) ∧
      ((save path? session).result = .ok true →
        ∃ bytes, session.store.settings.bytes? = some bytes ∧
          (save path? session).state.files.lookUp? target = some (.file bytes)) ∧
      ((save path? session).result ≠ .ok true →
        (save path? session).state.files.lookUp? target = session.files.lookUp? target) := by
  obtain ⟨temporary, extended⟩ := exists_temporary named
  have ending := @Settings.ending_saveTo session.store.settings target temporary session.files
    extended
  rw [save_eq resolved]
  exact ⟨temporary, extended, ending.eq_error_iff, ending.eq_true_iff, ending.replaces.content,
    ending.replaces.kept⟩

/-- A directory under the name of the temporary file of `a.conf`. -/
def behindDirectory : Session where
  store := Store.empty none
  files := ⟨OrderedMap.ofList [([Path.stored "a.conf.tmp"], .directory)], []⟩

theorem bytes?_behindDirectory : behindDirectory.store.settings.bytes? ≠ none :=
  Option.isSome_iff_ne_none.mp (Settings.piecewise_encodable.render (by decide))

theorem save_behindDirectory :
    (save (some "a.conf") behindDirectory).result =
      .error (.file (.refused ⟨.isDirectory, Path.ofText "a.conf.tmp", none⟩)) := by
  obtain ⟨temporary, extended, faults, -⟩ :=
    @save_result_iff behindDirectory (some "a.conf") (Path.ofText "a.conf") rfl (by decide)
  have name : Settings.temporary? (Path.ofText "a.conf") = some (Path.ofText "a.conf.tmp") := by
    decide
  obtain rfl := Option.some.inj (extended.symm.trans name)
  exact (faults _).mpr ⟨bytes?_behindDirectory,
    .refused ⟨.isDirectory, Path.ofText "a.conf.tmp", none⟩, by decide, by decide, rfl⟩

/-- The removal of the temporary file is refused like its writing, so there is no result. -/
theorem not_saved_behindDirectory :
    ¬ ∃ saved, (save (some "a.conf") behindDirectory).result = .ok saved := by
  have name : Settings.temporary? (Path.ofText "a.conf") = some (Path.ofText "a.conf.tmp") := by
    decide
  have obstacle : behindDirectory.files.obstacle? (Path.ofText "a.conf.tmp") =
      some (.refused ⟨.isDirectory, Path.ofText "a.conf.tmp", none⟩) := by decide
  have faulted := ((Settings.ending_saveTo name).eq_error_iff _).mpr
    ⟨bytes?_behindDirectory, _, obstacle, by decide, rfl⟩
  rintro ⟨saved, ended⟩
  rw [save_eq rfl, faulted] at ended
  cases ended

end Startup.Store
