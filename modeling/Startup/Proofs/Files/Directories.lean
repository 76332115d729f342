import Startup.Proofs.Files.Place
import Mathlib.Data.List.Induction

/-!
# Making directories

Making the directory at a path adds directories where nothing was, and touches nothing else, whether
or not it succeeds. When it succeeds, there is a directory at the path; when there is one already,
it succeeds and changes nothing.
-/

namespace Startup.FileTree

/-- A tree that differs from another one in additional directories only. -/
structure Grown (before after : FileTree) : Prop where
  workingDirectory : after.workingDirectory = before.workingDirectory
  entries : ∀ location, after.entry? location = before.entry? location ∨
    before.entry? location = none ∧ after.entry? location = some .directory

theorem Grown.refl (tree : FileTree) : tree.Grown tree where
  workingDirectory := rfl
  entries _ := Or.inl rfl

theorem Grown.trans {first second third : FileTree} (early : first.Grown second)
    (late : second.Grown third) : first.Grown third where
  workingDirectory := late.workingDirectory.trans early.workingDirectory
  entries location := by
    rcases late.entries location with same | ⟨free, made⟩
    · rw [same]
      exact early.entries location
    · rcases early.entries location with same | ⟨-, made'⟩
      · rw [same] at free
        exact Or.inr ⟨free, made⟩
      · rw [made'] at free
        cases free

theorem Grown.keeps {before after : FileTree} (grown : before.Grown after) :
    before.Keeps after where
  workingDirectory := grown.workingDirectory
  directories location here := by
    rcases grown.entries location with same | ⟨free, -⟩
    · exact same.trans here
    · rw [free] at here
      cases here

theorem grown_put {tree : FileTree} {location : Location} (free : tree.entry? location = none) :
    tree.Grown (tree.put location .directory) where
  workingDirectory := rfl
  entries other := by
    have below : location ≠ [] := ne_nil_of_entry?_ne (by rw [free]; simp)
    rw [entry?_put below]
    split
    next same => exact Or.inr ⟨same ▸ free, rfl⟩
    next => exact Or.inl rfl

/-- A file that can be read is what it was when the tree has grown. -/
theorem Grown.read {before after : FileTree} (grown : before.Grown after) {path : Path}
    {content : Bytes} (found : before.read path = .ok content) : after.read path = .ok content := by
  rw [read_eq_ok_iff_lookUp?] at found ⊢
  obtain ⟨place, placed, here⟩ := Option.bind_eq_some_iff.mp found
  rw [lookUp?, place?_of_keeps grown.keeps placed, Option.bind_some]
  cases place with
  | directory location => cases here
  | named location =>
      rcases grown.entries location with same | ⟨free, -⟩
      · exact same.trans here
      · cases free.symm.trans here

theorem lookUp?_directory_of_keeps {before after : FileTree} (keeps : before.Keeps after)
    {path : Path} (here : before.lookUp? path = some .directory) :
    after.lookUp? path = some .directory := by
  obtain ⟨place, placed, directory⟩ := Option.bind_eq_some_iff.mp here
  rw [lookUp?, place?_of_keeps keeps placed, Option.bind_some]
  cases place with
  | directory location => rfl
  | named location => exact keeps.directories location directory

theorem lookUp?_eq_directory_iff {tree : FileTree} {path : Path} :
    tree.lookUp? path = some .directory ↔
      ∃ names place, path.systemNames = .ok names ∧ tree.place path names = .ok place ∧
        tree.entryAt? place = some .directory := by
  rw [lookUp?, Option.bind_eq_some_iff]
  constructor
  · rintro ⟨place, placed, here⟩
    obtain ⟨names, legal, placed⟩ := place?_eq_some_iff.mp placed
    exact ⟨names, place, legal, placed, here⟩
  · rintro ⟨names, place, legal, placed, here⟩
    exact ⟨place, place?_eq_some_iff.mpr ⟨names, legal, placed⟩, here⟩

theorem isDirectory_eq_true_iff {tree : FileTree} {path : Path} :
    tree.isDirectory path = .ok true ↔ tree.lookUp? path = some .directory := by
  have found : tree.isDirectory path = .ok true ↔
      tree.atPlace path (fun place => .ok (decide (tree.entryAt? place = some .directory))) =
        .ok true := by
    dsimp only [isDirectory]
    split
    next reached => rw [reached]
    next error reached =>
      rw [reached]
      split <;> simp
    next fault _ reached =>
      rw [reached]
      simp
  rw [found, atPlace_eq_ok_iff, lookUp?_eq_directory_iff]
  simp only [Except.ok.injEq, decide_eq_true_eq]

/-- A path that leads somewhere goes through every directory on its way. -/
theorem lookUp?_of_below {tree : FileTree} {directory next : Path} {place : Place}
    (relative : next.start = .relative) (below : next.names ≠ [])
    (placed : tree.place? (directory ++ next) = some place) :
    tree.lookUp? directory = some .directory := by
  obtain ⟨start, above⟩ := directory
  obtain ⟨kind, names⟩ := next
  obtain rfl : kind = .relative := relative
  change tree.place? ⟨start, above ++ names⟩ = some place at placed
  induction names using List.reverseRecOn generalizing place with
  | nil => exact absurd rfl below
  | append_singleton names last ih =>
      rw [← List.append_assoc] at placed
      have inner := lookUp?_of_concat placed
      obtain ⟨place', placed', -⟩ := Option.bind_eq_some_iff.mp inner
      rcases List.eq_nil_or_concat names with rfl | ⟨init, name, rfl⟩
      · rw [List.append_nil] at inner
        exact inner
      · exact ih (by simp) placed'

theorem makeDirectory_eq_ok_iff {tree made : FileTree} {path : Path} :
    tree.makeDirectory path = .ok made ↔
      ∃ location, tree.place? path = some (.named location) ∧ tree.entry? location = none ∧
        tree.put location .directory = made := by
  rw [makeDirectory, atPlace_eq_ok_iff]
  constructor
  · rintro ⟨names, place, legal, placed, operated⟩
    cases place with
    | directory location => cases operated
    | named location =>
        simp only [entryAt?] at operated
        split at operated
        next => cases operated
        next free =>
          exact ⟨location, place?_eq_some_iff.mpr ⟨names, legal, placed⟩, free,
            Except.ok.inj operated⟩
  · rintro ⟨location, placed, free, rfl⟩
    obtain ⟨names, legal, placed⟩ := place?_eq_some_iff.mp placed
    refine ⟨names, .named location, legal, placed, ?_⟩
    simp only [entryAt?, free, Place.location]

theorem makeDirectory_of_directory {tree : FileTree} {path : Path}
    (here : tree.lookUp? path = some .directory) :
    tree.makeDirectory path = .error (.refused ⟨.exists, path, none⟩) := by
  obtain ⟨names, place, legal, placed, directory⟩ := lookUp?_eq_directory_iff.mp here
  simp only [makeDirectory, atPlace, legal, placed, directory, Except.bind]

/-- What an attempt to make the directory at a path does to the files. -/
structure Makes (path : Path) (before : FileTree) (outcome : FileTree × Option FileFault) :
    Prop where
  grown : before.Grown outcome.1
  made : outcome.2 = none → outcome.1.lookUp? path = some .directory

theorem Makes.after {path : Path} {before middle : FileTree}
    {outcome : FileTree × Option FileFault} (grown : before.Grown middle)
    (makes : Makes path middle outcome) : Makes path before outcome :=
  ⟨grown.trans makes.grown, makes.made⟩

theorem makes_of_fault {path : Path} (tree : FileTree) (fault : FileFault) :
    Makes path tree (tree, some fault) :=
  ⟨.refl tree, fun done => absurd done (by simp)⟩

theorem makes_of_made {path : Path} {tree made : FileTree}
    (done : tree.makeDirectory path = .ok made) : Makes path tree (made, none) := by
  obtain ⟨location, placed, free, rfl⟩ := makeDirectory_eq_ok_iff.mp done
  have below : location ≠ [] := ne_nil_of_entry?_ne (by rw [free]; simp)
  have grown := grown_put free
  refine ⟨grown, fun _ => ?_⟩
  rw [lookUp?, place?_of_keeps grown.keeps placed, Option.bind_some, entryAt?, entry?_put below,
    if_pos rfl]

theorem makes_existing {path : Path} (tree : FileTree) (fault : FileFault) :
    Makes path tree (existing tree path fault) := by
  unfold existing
  split
  next error =>
    split
    next found => exact ⟨.refl tree, fun _ => isDirectory_eq_true_iff.mp found⟩
    next => exact makes_of_fault tree _
    next => exact makes_of_fault tree _
  next => exact makes_of_fault tree _

theorem existing_of_directory {tree : FileTree} {path : Path}
    (here : tree.lookUp? path = some .directory) (error : FileError) :
    existing tree path (.refused error) = (tree, none) := by
  rw [existing, isDirectory_eq_true_iff.mpr here]

/-- The induction goes outwards: after the directories above were made, the innermost one is tried
again in the grown tree. -/
theorem makes_makeReversed (tree : FileTree) (start : Path.Start) (names : List Text) :
    Makes ⟨start, names.reverse⟩ tree (tree.makeReversed start names) := by
  induction names generalizing tree with
  | nil =>
      rw [makeReversed]
      cases done : tree.makeDirectory ⟨start, []⟩ with
      | ok made => exact makes_of_made done
      | error fault => exact makes_existing tree fault
  | cons name above ih =>
      rw [makeReversed]
      cases done : tree.makeDirectory ⟨start, (name :: above).reverse⟩ with
      | ok made => exact makes_of_made done
      | error fault =>
          by_cases notFound : isNotFound fault = true
          · have outer := ih tree
            simp only [notFound, if_true]
            generalize tree.makeReversed start above = outcome at outer
            obtain ⟨grownTree, _ | fault⟩ := outcome
            · refine Makes.after outer.grown ?_
              dsimp only
              cases done' : grownTree.makeDirectory ⟨start, (name :: above).reverse⟩ with
              | ok made => exact makes_of_made done'
              | error fault =>
                  dsimp only
                  split
                  · exact makes_of_fault grownTree fault
                  · exact makes_existing grownTree fault
            · exact Makes.after outer.grown (makes_of_fault grownTree fault)
          · simp only [if_neg notFound]
            exact makes_existing tree fault

theorem makes_makeDirectories (tree : FileTree) (path : Path) :
    Makes path tree (tree.makeDirectories path) := by
  have makes := makes_makeReversed tree path.start path.names.reverse
  rw [List.reverse_reverse] at makes
  exact makes

/-- A directory that exists is made without any change. -/
theorem makeDirectories_of_directory {tree : FileTree} {path : Path}
    (here : tree.lookUp? path = some .directory) : tree.makeDirectories path = (tree, none) := by
  have refused := makeDirectory_of_directory here
  have exists' := existing_of_directory here ⟨.exists, path, none⟩
  obtain ⟨start, names⟩ := path
  rw [makeDirectories]
  dsimp only
  rcases List.eq_nil_or_concat' names with rfl | ⟨above, name, rfl⟩
  · rw [List.reverse_nil, makeReversed]
    simp only [refused, exists']
  · rw [List.reverse_append, List.reverse_singleton, List.singleton_append, makeReversed]
    simp only [List.reverse_cons, List.reverse_reverse, refused, exists', isNotFound]
    rfl

end Startup.FileTree
