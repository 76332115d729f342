import Startup.Files.Tree

/-!
# Walking and putting files

A walk depends only on the directories, and putting or removing a file touches none of them. So it
leads to the same place before and after.
-/

namespace Startup.FileTree

/-- A tree with the working directory and the directories of another one. -/
structure Keeps (before after : FileTree) : Prop where
  workingDirectory : after.workingDirectory = before.workingDirectory
  directories : ∀ location, before.entry? location = some .directory →
    after.entry? location = some .directory

theorem Keeps.refl (tree : FileTree) : tree.Keeps tree where
  workingDirectory := rfl
  directories _ here := here

theorem Keeps.trans {first second third : FileTree} (early : first.Keeps second)
    (late : second.Keeps third) : first.Keeps third where
  workingDirectory := late.workingDirectory.trans early.workingDirectory
  directories location here := late.directories location (early.directories location here)

theorem enter_of_keeps {before after : FileTree} (keeps : before.Keeps after) {names : List Bytes}
    {location above : Location} (entered : before.enter location names = .ok above) :
    after.enter location names = .ok above := by
  induction names generalizing location with
  | nil => exact entered
  | cons name rest ih =>
      rw [enter] at entered ⊢
      by_cases up : name = parentName
      · rw [if_pos up] at entered ⊢
        exact ih entered
      rw [if_neg up] at entered ⊢
      by_cases long : Path.nameLimit < name.length
      · rw [if_pos long] at entered
        cases entered
      rw [if_neg long] at entered ⊢
      cases here : before.entry? (location ++ [name]) with
      | none =>
          rw [here] at entered
          cases entered
      | some entry =>
          cases entry with
          | file content =>
              rw [here] at entered
              cases entered
          | directory =>
              rw [here] at entered
              rw [keeps.directories _ here]
              exact ih entered

theorem walk_of_keeps {before after : FileTree} (keeps : before.Keeps after) {names : List Bytes}
    {location : Location} {place : Place} (walked : before.walk location names = .ok place) :
    after.walk location names = .ok place := by
  unfold walk at walked ⊢
  cases last : names.getLast? with
  | none =>
      rw [last] at walked
      exact walked
  | some name =>
      simp only [last] at walked ⊢
      cases entered : before.enter location names.dropLast with
      | error kind =>
          rw [entered] at walked
          cases walked
      | ok above =>
          rw [entered] at walked
          rw [enter_of_keeps keeps entered]
          exact walked

theorem place_of_keeps {before after : FileTree} (keeps : before.Keeps after) {path : Path}
    {names : List Bytes} {place : Place} (placed : before.place path names = .ok place) :
    after.place path names = .ok place := by
  have start : after.startOf path.start = before.startOf path.start := by
    cases path.start <;> first | rfl | exact keeps.workingDirectory
  unfold FileTree.place at placed ⊢
  by_cases long : path.isTooLong = true
  · rw [if_pos long] at placed
    cases placed
  · rw [if_neg long] at placed ⊢
    rw [start]
    exact walk_of_keeps keeps placed

theorem atPlace_eq_ok_iff {α : Type} {tree : FileTree} {path : Path}
    {operation : Place → Except FileErrorKind α} {result : α} :
    tree.atPlace path operation = .ok result ↔
      ∃ names place, path.systemNames = .ok names ∧ tree.place path names = .ok place ∧
        operation place = .ok result := by
  unfold atPlace
  cases path.systemNames with
  | error fault => simp
  | ok names =>
      cases placed : tree.place path names with
      | error kind => simp [placed, Except.bind]
      | ok place => cases outcome : operation place <;> simp [placed, outcome, Except.bind]

theorem entry?_put {tree : FileTree} {location : Location} (below : location ≠ [])
    (entry : Entry) (other : Location) :
    FileTree.entry? (tree.put location entry) other =
      if location = other then some entry else tree.entry? other := by
  unfold entry? put
  by_cases root : other = []
  · subst root
    rw [if_pos rfl, if_neg below, if_pos rfl]
  · rw [if_neg root, if_neg root, OrderedMap.get?_insert]

theorem entry?_clear {tree : FileTree} {location : Location} (below : location ≠ [])
    (other : Location) :
    FileTree.entry? (tree.clear location) other =
      if location = other then none else tree.entry? other := by
  unfold entry? clear
  by_cases root : other = []
  · subst root
    rw [if_pos rfl, if_neg below, if_pos rfl]
  · rw [if_neg root, if_neg root, OrderedMap.get?_erase]

theorem ne_nil_of_entry?_ne {tree : FileTree} {location : Location}
    (other : tree.entry? location ≠ some .directory) : location ≠ [] := by
  rintro rfl
  exact other rfl

theorem keeps_put {tree : FileTree} {location : Location} (content : Bytes)
    (free : tree.entry? location ≠ some .directory) :
    tree.Keeps (tree.put location (.file content)) where
  workingDirectory := rfl
  directories other here := by
    rw [entry?_put (ne_nil_of_entry?_ne free), if_neg, here]
    rintro rfl
    exact free here

theorem keeps_clear {tree : FileTree} {location : Location}
    (free : tree.entry? location ≠ some .directory) : tree.Keeps (tree.clear location) where
  workingDirectory := rfl
  directories other here := by
    rw [entry?_clear (ne_nil_of_entry?_ne free), if_neg, here]
    rintro rfl
    exact free here

theorem read_eq_ok_iff {tree : FileTree} {path : Path} {content : Bytes} :
    tree.read path = .ok content ↔
      ∃ names place, path.systemNames = .ok names ∧ tree.place path names = .ok place ∧
        tree.entryAt? place = some (.file content) := by
  rw [read, atPlace_eq_ok_iff]
  refine exists_congr fun names => exists_congr fun place => and_congr_right fun _ =>
    and_congr_right fun _ => ?_
  cases tree.entryAt? place with
  | none => simp
  | some entry => cases entry <;> simp

theorem write_eq_ok_iff {tree written : FileTree} {path : Path} {content : Bytes} :
    tree.write path content = .ok written ↔
      ∃ names location, path.systemNames = .ok names ∧
        tree.place path names = .ok (.named location) ∧
        tree.entry? location ≠ some .directory ∧ tree.put location (.file content) = written := by
  rw [write, atPlace_eq_ok_iff]
  refine exists_congr fun names => ?_
  constructor
  · rintro ⟨place, named, placed, operated⟩
    cases place with
    | directory location => cases operated
    | named location =>
        simp only [entryAt?] at operated
        split at operated
        next => cases operated
        next free => exact ⟨location, named, placed, free, Except.ok.inj operated⟩
  · rintro ⟨location, named, placed, free, rfl⟩
    refine ⟨.named location, named, placed, ?_⟩
    simp only [entryAt?, Place.location]

end Startup.FileTree
