import Startup.Proofs.Settings.LifeCycle

/-!
# Set-ups that fail

A set-up chooses its directory before it makes it. When that cannot be done, the settings and the
file of the store stay, and whether it is open, but the directory is the new one already: the store
is the one it was only if it had this directory before. Its file need not be in its directory then,
as it is while all set-ups succeed.
-/

namespace Startup

namespace Store

/-- Whether a store shows the same as another one: its settings, its directory, its file and whether
it is open. -/
structure Unchanged (before after : Store) : Prop where
  settings : after.settings = before.settings
  directory? : after.directory? = before.directory?
  file? : after.file? = before.file?
  isOpen : after.isOpen = before.isOpen

section

variable {session : Session} {environment : Environment} {directory? : Option Path}
  {fileName : Text}

/-- A set-up that fails keeps the settings, the file and whether the store is open. The directory
becomes the one it chose, so the store is unchanged exactly if it had that one. -/
theorem unchanged_iff_of_setUp_eq_false
    (failed : (setUp environment directory? fileName session).result = .ok false) :
    let after := (setUp environment directory? fileName session).state.store
    after.settings = session.store.settings ∧ after.file? = session.store.file? ∧
      after.isOpen = session.store.isOpen ∧
      ∃ directory, chosen session environment directory? = .ok directory ∧
        after.directory? = some directory ∧
        (Unchanged session.store after ↔ session.store.directory? = some directory) := by
  obtain ⟨directory, made, error, chose, refused⟩ := exists_refused_of_setUp failed
  rw [(setUp_of_refused chose refused).2]
  refine ⟨rfl, rfl, rfl, directory, chose, rfl, fun unchanged => unchanged.directory?.symm,
    fun same => ?_⟩
  exact ⟨rfl, same.symm, rfl, rfl⟩

end

def settled : Session :=
  after ⟨.empty none, blocked⟩ [.setUp ∅ (some (Path.ofText "d")) "a.conf"]

/-- After a set-up that failed, the store has the new directory and the old file. -/
theorem unchanged_iff_of_settled :
    let later := (setUp ∅ (some (Path.ofText "f")) "b.conf" settled).state.store
    later.directory? = some (Path.ofText "f") ∧ later.file? = some (Path.ofText "d/a.conf") := by
  have failed : (setUp ∅ (some (Path.ofText "f")) "b.conf" settled).result = .ok false := by
    decide +kernel
  obtain ⟨-, file, -, directory, chose, chosen, -⟩ := unchanged_iff_of_setUp_eq_false failed
  cases chose
  exact ⟨chosen, file.trans (by decide +kernel)⟩

theorem not_unchanged_settled :
    (setUp ∅ (some (Path.ofText "f")) "b.conf" settled).result = .ok false ∧
      ¬Unchanged settled.store (setUp ∅ (some (Path.ofText "f")) "b.conf" settled).state.store := by
  refine ⟨by decide +kernel, fun unchanged => ?_⟩
  have different : (setUp ∅ (some (Path.ofText "f")) "b.conf" settled).state.store.directory? ≠
      settled.store.directory? := by
    decide +kernel
  exact different unchanged.directory?

/-- Whether the file of a store, if it has one, has its name after the directory of the store. -/
def FileInside (store : Store) : Prop :=
  ∀ file ∈ store.file?, ∃ directory name, store.directory? = some directory ∧
    file = directory.join [name]

def Occasion.Fails (occasion : Occasion) : Prop :=
  match occasion.operation with
  | .setUp environment directory? fileName =>
      (setUp environment directory? fileName occasion.session).result ≠ .ok true
  | _ => False

/-- Closing changes only whether the store is open. -/
theorem exists_files_of_close (session : Session) :
    ∃ files, (close session).state = ⟨{ session.store with isOpen := false }, files⟩ := by
  cases opened : session.store.isOpen with
  | false =>
      rw [close_of_closed opened, ← opened]
      exact ⟨session.files, rfl⟩
  | true =>
      have closed : (close session).state =
          (save none ⟨{ session.store with isOpen := false }, session.files⟩).state := by
        simp only [close, Task.bind_apply, Task.andThen, Task.get, opened, if_true,
          Session.updateStore, Task.modify]
        cases (save none ⟨{ session.store with isOpen := false }, session.files⟩).result <;> rfl
      obtain ⟨files, -, saved⟩ :=
        exists_files_of_save none ⟨{ session.store with isOpen := false }, session.files⟩
      exact ⟨files, closed.trans saved⟩

/-- Only a set-up that does not succeed can take the directory away from the file. -/
theorem fileInside_next {session : Session} {operation : Operation}
    (inside : FileInside session.store) (succeeds : ¬Occasion.Fails ⟨session, operation⟩) :
    FileInside (next session operation).store := by
  cases operation with
  | setUp environment directory? fileName =>
      obtain ⟨directory, made, -, -, -, state⟩ := exists_made_of_setUp (not_not.mp succeeds)
      rw [next, state]
      rintro file same
      cases same
      exact ⟨_, fileName, rfl, rfl⟩
  | close =>
      obtain ⟨files, state⟩ := exists_files_of_close session
      rw [next, state]
      exact inside
  | load path? =>
      obtain ⟨settings, state⟩ := exists_withSettings_of_load path? session
      rw [next, state]
      exact inside
  | save path? =>
      obtain ⟨files, -, state⟩ := exists_files_of_save path? session
      rw [next, state]
      exact inside
  | edit edit =>
      obtain ⟨settings, changed⟩ := exists_withSettings_of_edit session.store edit
      rw [next, changed]
      exact inside

/-- As long as every set-up succeeds, the file is in the directory. -/
theorem fileInside_after {session : Session} (inside : FileInside session.store)
    {operations : List Operation}
    (succeed : ∀ occasion ∈ history session operations, ¬occasion.Fails) :
    FileInside (after session operations).store := by
  induction operations generalizing session with
  | nil => exact inside
  | cons operation rest ih =>
      rw [history, List.forall_mem_cons] at succeed
      exact ih (fileInside_next inside succeed.1) succeed.2

end Store

end Startup
