import Startup.Proofs.Settings.Replacing

/-!
# Saved files

A saving that succeeds leaves the bytes of the table at the target, so loading the target gives the
reloaded table.
-/

namespace Startup.Settings

/-- A table that can be encoded is written by every saving. -/
theorem saveTo_of_bytes? {settings : Settings} {saved : Bytes}
    (encoded : settings.bytes? = some saved) {target temporary : Path}
    (named : temporary? target = some temporary) :
    settings.saveTo target = replaceFile target temporary saved := by
  have encodable : Utf8.Encodable settings.render := Option.isSome_of_eq_some encoded
  funext tree
  rw [saveTo, Utf8.unencodable?_eq_none_iff.mpr encodable, named, encoded]
  rfl

theorem exists_temporary_of_saved {settings : Settings} {target : Path} {tree : FileTree}
    (saved : (settings.saveTo target tree).result = .ok true) :
    ∃ temporary, temporary? target = some temporary := by
  unfold saveTo at saved
  cases named : temporary? target with
  | some temporary => exact ⟨temporary, rfl⟩
  | none =>
      rw [named] at saved
      cases encodable : Utf8.unencodable? settings.render with
      | some place =>
          rw [encodable] at saved
          cases saved
      | none =>
          rw [encodable] at saved
          cases saved

/-- A saving that succeeds leaves the bytes of the table at the target. -/
theorem read_saveTo {settings : Settings} {target : Path} {tree : FileTree}
    (saved : (settings.saveTo target tree).result = .ok true) :
    ∃ bytes, settings.bytes? = some bytes ∧
      (settings.saveTo target tree).state.read target = .ok bytes := by
  obtain ⟨temporary, named⟩ := exists_temporary_of_saved saved
  obtain ⟨bytes, encoded, stored⟩ := (ending_saveTo named).replaces.content saved
  exact ⟨bytes, encoded, FileTree.read_eq_ok_iff_lookUp?.mpr stored⟩

/-- Loading a file that was saved gives the reloaded table. -/
theorem loadFrom_saveTo {settings : Settings} {target : Path} {tree : FileTree}
    (saved : (settings.saveTo target tree).result = .ok true) :
    ∃ loaded valid, settings.reload? = some loaded ∧
      (loadFrom ∅ target (settings.saveTo target tree).state).result = .ok (loaded, valid) := by
  obtain ⟨bytes, encoded, stored⟩ := read_saveTo saved
  refine ⟨load ∅ (Utf8.decode bytes), (validate (load ∅ (Utf8.decode bytes))).1, ?_, ?_⟩
  · rw [reload?, encoded, Option.map_some]
  · rw [loadFrom, stored]

end Startup.Settings
