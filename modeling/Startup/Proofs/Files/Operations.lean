import Startup.Proofs.Files.Place

/-!
# What stands in the way of an operation

Writing and removing a file at a path fail for the same reasons, except that removing needs the file
to be there. A move from a file to a place that the system can follow fails only at a directory.

A file that is written and removed again leaves no trace but the absence of an earlier one.
-/

namespace Startup.FileTree

/-- Why the system can have no file at a path: it cannot follow it, or there is a directory. -/
def obstacle? (tree : FileTree) (path : Path) : Option FileFault :=
  match tree.atPlace path fun place =>
      if tree.entryAt? place = some .directory then .error .isDirectory else .ok () with
  | .ok () => none
  | .error fault => some fault

theorem obstacle?_eq_none_iff {tree : FileTree} {path : Path} :
    tree.obstacle? path = none ↔
      ∃ location, tree.place? path = some (.named location) ∧
        tree.entry? location ≠ some .directory := by
  have reached : tree.obstacle? path = none ↔ tree.atPlace path (fun place =>
      if tree.entryAt? place = some .directory then .error .isDirectory else .ok ()) = .ok () := by
    unfold obstacle?
    split
    next met => simp [met]
    next fault met => simp [met]
  rw [reached, atPlace_eq_ok_iff]
  constructor
  · rintro ⟨names, place, legal, placed, free⟩
    cases place with
    | directory location => cases free
    | named location =>
        refine ⟨location, place?_eq_some_iff.mpr ⟨names, legal, placed⟩, ?_⟩
        intro taken
        rw [entryAt?, if_pos taken] at free
        cases free
  · rintro ⟨location, placed, free⟩
    obtain ⟨names, legal, placed⟩ := place?_eq_some_iff.mp placed
    exact ⟨names, .named location, legal, placed, if_neg free⟩

/-- An operation that fails at every directory meets the obstacle. -/
theorem atPlace_of_obstacle? {α : Type} {tree : FileTree} {path : Path} {fault : FileFault}
    (obstacle : tree.obstacle? path = some fault) {operation : Place → Except FileErrorKind α}
    (atDirectory : ∀ place, tree.entryAt? place = some .directory →
      operation place = .error .isDirectory) :
    tree.atPlace path operation = .error fault := by
  unfold obstacle? atPlace at obstacle
  unfold atPlace
  cases legal : path.systemNames with
  | error illegal =>
      rw [legal] at obstacle
      exact congrArg Except.error (Option.some.inj obstacle)
  | ok names =>
      simp only [legal] at obstacle ⊢
      cases placed : tree.place path names with
      | error kind =>
          simp only [placed, Except.bind] at obstacle ⊢
          exact congrArg Except.error (Option.some.inj obstacle)
      | ok place =>
          simp only [placed, Except.bind] at obstacle ⊢
          by_cases taken : tree.entryAt? place = some .directory
          · rw [if_pos taken] at obstacle
            rw [atDirectory place taken]
            exact congrArg Except.error (Option.some.inj obstacle)
          · rw [if_neg taken] at obstacle
            cases obstacle

theorem write_of_obstacle? {tree : FileTree} {path : Path} {fault : FileFault}
    (obstacle : tree.obstacle? path = some fault) (content : Bytes) :
    tree.write path content = .error fault := by
  apply atPlace_of_obstacle? obstacle
  intro place taken
  rw [taken]

theorem remove_of_obstacle? {tree : FileTree} {path : Path} {fault : FileFault}
    (obstacle : tree.obstacle? path = some fault) : tree.remove path = .error fault := by
  apply atPlace_of_obstacle? obstacle
  intro place taken
  rw [taken]

section Free

variable {tree : FileTree} {path : Path} {location : Location}

theorem write_of_free (placed : tree.place? path = some (.named location))
    (free : tree.entry? location ≠ some .directory) (content : Bytes) :
    tree.write path content = .ok (tree.put location (.file content)) := by
  obtain ⟨names, legal, placed⟩ := place?_eq_some_iff.mp placed
  exact write_eq_ok_iff.mpr ⟨names, location, legal, placed, free, rfl⟩

theorem remove_of_file (placed : tree.place? path = some (.named location)) {content : Bytes}
    (here : tree.entry? location = some (.file content)) :
    tree.remove path = .ok (tree.clear location) := by
  obtain ⟨names, legal, placed⟩ := place?_eq_some_iff.mp placed
  refine atPlace_eq_ok_iff.mpr ⟨names, .named location, legal, placed, ?_⟩
  simp only [entryAt?, here, Place.location]

end Free

section Replace

variable {tree : FileTree} {path target : Path} {source : Location} {content : Bytes}
  (placed : tree.place? path = some (.named source))
  (here : tree.entry? source = some (.file content))

include placed here

theorem replace_of_free {goal : Location} (reached : tree.place? target = some (.named goal))
    (free : tree.entry? goal ≠ some .directory) :
    tree.replace path target = .ok ((tree.clear source).put goal (.file content)) := by
  obtain ⟨names, legal, placed⟩ := place?_eq_some_iff.mp placed
  obtain ⟨targetNames, targetLegal, reached⟩ := place?_eq_some_iff.mp reached
  unfold replace
  simp only [legal, targetLegal, placed, reached, here, bind, Except.bind]
  cases there : tree.entry? goal with
  | none => rfl
  | some entry =>
      cases entry with
      | file old => rfl
      | directory => exact absurd there free

theorem replace_of_directory {goal : Place} (reached : tree.place? target = some goal)
    (taken : tree.entryAt? goal = some .directory) :
    ∃ error, tree.replace path target = .error (.refused error) := by
  obtain ⟨names, legal, placed⟩ := place?_eq_some_iff.mp placed
  obtain ⟨targetNames, targetLegal, reached⟩ := place?_eq_some_iff.mp reached
  unfold replace
  simp only [legal, targetLegal, placed, reached, bind, Except.bind]
  cases goal with
  | directory location => exact ⟨_, rfl⟩
  | named location =>
      rw [entryAt?] at taken
      simp only [here, taken]
      exact ⟨_, rfl⟩

end Replace

section Passing

variable {tree : FileTree} {location : Location} (free : tree.entry? location ≠ some .directory)
  (content : Bytes)

include free

theorem entry?_put_self :
    FileTree.entry? (tree.put location (.file content)) location = some (.file content) := by
  rw [entry?_put (ne_nil_of_entry?_ne free), if_pos rfl]

theorem entryAt?_put_of_ne {place : Place} (apart : place ≠ .named location) :
    FileTree.entryAt? (tree.put location (.file content)) place = tree.entryAt? place := by
  cases place with
  | directory other => rfl
  | named other =>
      rw [entryAt?, entry?_put (ne_nil_of_entry?_ne free), if_neg]
      · rfl
      · rintro rfl
        exact apart rfl

theorem entry?_clear_put (other : Location) :
    FileTree.entry? (FileTree.clear (tree.put location (.file content)) location) other =
      if location = other then none else tree.entry? other := by
  have below := ne_nil_of_entry?_ne free
  rw [entry?_clear below, entry?_put below]
  split <;> rfl

theorem place?_clear_put (path : Path) :
    FileTree.place? (FileTree.clear (tree.put location (.file content)) location) path =
      tree.place? path := by
  have present :
      FileTree.entry? (tree.put location (.file content)) location ≠ some .directory := by
    rw [entry?_put_self free]
    simp
  exact (place?_clear present path).trans (place?_put free content path)

end Passing

end Startup.FileTree
