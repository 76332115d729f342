import Startup.Proofs.Files.Legal

/-!
# How far a path leads

A walk along all the names of a path either ends in a directory or stops for a reason. A name that is
missing can still be made. Every other reason is there to stay: a name that is too long, or a file in
the way. So an attempt to make the directory at a path that fails says that no attempt will succeed,
as long as nothing but directories is added to the tree.
-/

namespace Startup.FileTree

/-- The directory in which a walk along all the names of a path ends. -/
def reach (tree : FileTree) (path : Path) : Except FileErrorKind Location :=
  if path.isTooLong then .error .nameTooLong
  else tree.enter (tree.startOf path.start) (path.names.map Path.stored)

/-- Whether something other than a missing name keeps a path from being a directory. -/
def Blocked (tree : FileTree) (path : Path) : Prop :=
  ∃ kind, tree.reach path = .error kind ∧ kind ≠ .notFound

/-- The three ways in which a walk ends. -/
theorem reach_cases (tree : FileTree) (path : Path) :
    (∃ location, tree.reach path = .ok location) ∨ tree.Blocked path ∨
      tree.reach path = .error .notFound := by
  cases reached : tree.reach path with
  | ok location => exact Or.inl ⟨location, rfl⟩
  | error kind =>
      by_cases missing : kind = .notFound
      · exact Or.inr (Or.inr (by rw [missing]))
      · exact Or.inr (Or.inl ⟨kind, reached, missing⟩)

/-! ## The last name -/

/-- Entering one name. -/
theorem enter_singleton (tree : FileTree) (above : Location) (last : Bytes) :
    tree.enter above [last] =
      if last = parentName then .ok above.dropLast
      else if Path.nameLimit < last.length then .error .nameTooLong
      else
        match tree.entry? (above ++ [last]) with
        | some .directory => .ok (above ++ [last])
        | some (.file _) => .error .notDirectory
        | none => .error .notFound := rfl

theorem reach_concat (tree : FileTree) {start : Path.Start} {above : List Text} {last : Text}
    (short : Path.isTooLong ⟨start, above ++ [last]⟩ = false) :
    tree.reach ⟨start, above ++ [last]⟩ =
      (tree.enter (tree.startOf start) (above.map Path.stored)).bind fun location =>
        tree.enter location [Path.stored last] := by
  rw [reach, short, if_neg Bool.false_ne_true, List.map_append, List.map_singleton, enter_append]

theorem reach_start (tree : FileTree) (start : Path.Start) :
    tree.reach ⟨start, []⟩ = .ok (tree.startOf start) := by
  have short : Path.isTooLong ⟨start, []⟩ = false := by cases start <;> decide
  rw [reach, short, if_neg Bool.false_ne_true]
  rfl

/-- A walk that ends at a directory can go on from there. -/
theorem exists_enter_of_walk {tree : FileTree} {start : Location} {names : List Bytes}
    {place : Place} (walked : tree.walk start names = .ok place)
    (here : tree.entryAt? place = some .directory) :
    ∃ location, tree.enter start names = .ok location := by
  rcases List.eq_nil_or_concat' names with rfl | ⟨init, last, rfl⟩
  · exact ⟨start, rfl⟩
  · rw [walk_concat] at walked
    rw [enter_append]
    cases outer : tree.enter start init with
    | error kind =>
        rw [outer] at walked
        cases walked
    | ok above =>
        rw [outer, Except.bind] at walked
        rw [Except.bind, enter_singleton]
        by_cases up : last = parentName
        · rw [if_pos up]
          exact ⟨_, rfl⟩
        rw [if_neg up] at walked ⊢
        by_cases long : Path.nameLimit < last.length
        · rw [if_pos long] at walked
          cases walked
        rw [if_neg long] at walked ⊢
        cases walked
        rw [entryAt?] at here
        rw [here]
        exact ⟨_, rfl⟩

/-- There is a directory at a legal path exactly if a walk along all its names ends. -/
theorem lookUp?_eq_directory_iff_reach {tree : FileTree} {path : Path} (legal : path.Legal) :
    tree.lookUp? path = some .directory ↔ ∃ location, tree.reach path = .ok location := by
  obtain ⟨names, taken⟩ := Path.exists_systemNames_iff.mpr legal
  obtain ⟨-, -, rfl⟩ := Path.systemNames_eq_ok_iff.mp taken
  rw [lookUp?_eq_directory_iff]
  constructor
  · rintro ⟨names', place, taken', placed, here⟩
    obtain rfl := Except.ok.inj (taken.symm.trans taken')
    have short := isTooLong_of_place placed
    rw [FileTree.place, short, if_neg Bool.false_ne_true] at placed
    rw [reach, short, if_neg Bool.false_ne_true]
    exact exists_enter_of_walk placed here
  · rintro ⟨location, reached⟩
    unfold reach at reached
    split at reached
    next => cases reached
    next short =>
      obtain ⟨place, walked, here⟩ := exists_walk_of_enter reached
      exact ⟨_, place, taken, by rw [FileTree.place, if_neg short, walked], here⟩

/-- Where a walk along all the names stops, the walk to the last name stops already, or it leads to
a name at which there is no directory. -/
theorem place_of_stopped {tree : FileTree} {path : Path} {names : List Bytes}
    {kind : FileErrorKind} (taken : path.systemNames = .ok names)
    (stopped : tree.reach path = .error kind) :
    (tree.place path names = .error kind ∧
        (kind = .notFound → tree.reach path.parent = .error .notFound)) ∨
      ∃ location, tree.place path names = .ok (.named location) ∧
        (kind = .notFound ∧ tree.entry? location = none ∨
          kind = .notDirectory ∧ ∃ content, tree.entry? location = some (.file content)) := by
  obtain ⟨start, names'⟩ := path
  obtain ⟨-, -, rfl⟩ := Path.systemNames_eq_ok_iff.mp taken
  rcases List.eq_nil_or_concat' names' with rfl | ⟨above, last, rfl⟩
  · rw [reach_start] at stopped
    cases stopped
  by_cases long : Path.isTooLong ⟨start, above ++ [last]⟩ = true
  · rw [reach, if_pos long] at stopped
    cases stopped
    exact Or.inl ⟨by rw [FileTree.place, if_pos long], fun impossible => by cases impossible⟩
  have short := (Bool.not_eq_true _).mp long
  rw [reach_concat tree short] at stopped
  rw [FileTree.place, if_neg long, List.map_append, List.map_singleton, walk_concat]
  cases outer : tree.enter (tree.startOf start) (above.map Path.stored) with
  | error kind' =>
      rw [outer] at stopped
      cases stopped
      refine Or.inl ⟨rfl, fun missing => ?_⟩
      rw [Path.parent, List.dropLast_concat, reach, (Path.legal_of_concat taken short).2,
        if_neg Bool.false_ne_true, outer, missing]
  | ok location =>
      rw [outer, Except.bind, enter_singleton] at stopped
      rw [Except.bind]
      by_cases up : Path.stored last = parentName
      · rw [if_pos up] at stopped
        cases stopped
      rw [if_neg up] at stopped ⊢
      by_cases tooLong : Path.nameLimit < (Path.stored last).length
      · rw [if_pos tooLong] at stopped ⊢
        cases stopped
        exact Or.inl ⟨rfl, fun impossible => by cases impossible⟩
      rw [if_neg tooLong] at stopped ⊢
      refine Or.inr ⟨_, rfl, ?_⟩
      split at stopped
      next => cases stopped
      next content here =>
        cases stopped
        exact Or.inr ⟨rfl, content, here⟩
      next free =>
        cases stopped
        exact Or.inl ⟨rfl, free⟩

/-! ## What is in the way stays there -/

theorem enter_of_grown {before after : FileTree} (grown : before.Grown after) {names : List Bytes}
    {location : Location} {kind : FileErrorKind} (stopped : before.enter location names = .error kind)
    (other : kind ≠ .notFound) : after.enter location names = .error kind := by
  induction names generalizing location with
  | nil => cases stopped
  | cons name rest ih =>
      rw [enter] at stopped ⊢
      by_cases up : name = parentName
      · rw [if_pos up] at stopped ⊢
        exact ih stopped
      rw [if_neg up] at stopped ⊢
      by_cases long : Path.nameLimit < name.length
      · rw [if_pos long] at stopped ⊢
        exact stopped
      rw [if_neg long] at stopped ⊢
      split at stopped
      next here =>
        rw [grown.keeps.directories _ here]
        exact ih stopped
      next content here =>
        rcases grown.entries (location ++ [name]) with same | ⟨free, -⟩
        · rw [same, here]
          exact stopped
        · rw [here] at free
          cases free
      next =>
        cases stopped
        exact absurd rfl other

theorem Blocked.of_grown {before after : FileTree} (grown : before.Grown after) {path : Path}
    (blocked : before.Blocked path) : after.Blocked path := by
  obtain ⟨kind, stopped, other⟩ := blocked
  have start : after.startOf path.start = before.startOf path.start := by
    cases path.start <;> first | rfl | exact grown.workingDirectory
  refine ⟨kind, ?_, other⟩
  unfold reach at stopped ⊢
  split at stopped
  next long => rw [if_pos long, stopped]
  next short => rw [if_neg short, start, enter_of_grown grown stopped other]

/-- What is in the way of a directory is in the way of everything in it. -/
theorem Blocked.of_parent {tree : FileTree} {path : Path} (legal : path.Legal)
    (blocked : tree.Blocked path.parent) : tree.Blocked path := by
  obtain ⟨kind, stopped, other⟩ := blocked
  obtain ⟨start, names⟩ := path
  obtain ⟨stored, taken⟩ := Path.exists_systemNames_iff.mpr legal
  rcases List.eq_nil_or_concat' names with rfl | ⟨above, last, rfl⟩
  · exact ⟨kind, stopped, other⟩
  by_cases long : Path.isTooLong ⟨start, above ++ [last]⟩ = true
  · exact ⟨.nameTooLong, by rw [reach, if_pos long], by decide⟩
  have short := (Bool.not_eq_true _).mp long
  rw [Path.parent, List.dropLast_concat, reach, (Path.legal_of_concat taken short).2,
    if_neg Bool.false_ne_true] at stopped
  exact ⟨kind, by rw [reach_concat tree short, stopped]; rfl, other⟩

theorem Blocked.not_directory {tree : FileTree} {path : Path} (legal : path.Legal)
    (blocked : tree.Blocked path) : tree.lookUp? path ≠ some .directory := by
  obtain ⟨kind, stopped, -⟩ := blocked
  rw [Ne, lookUp?_eq_directory_iff_reach legal, stopped]
  simp

/-! ## Making one directory -/

section Making

variable {tree : FileTree} {path : Path} (legal : path.Legal)

include legal

theorem makeDirectory_of_blocked (blocked : tree.Blocked path) :
    ∃ kind, kind ≠ .notFound ∧ tree.makeDirectory path = .error (.refused ⟨kind, path, none⟩) := by
  obtain ⟨kind, stopped, other⟩ := blocked
  obtain ⟨names, taken⟩ := Path.exists_systemNames_iff.mpr legal
  rw [makeDirectory, atPlace, taken]
  rcases place_of_stopped taken stopped with ⟨placed, -⟩ | ⟨location, placed, missing | file⟩
  · exact ⟨kind, other, by simp only [placed, Except.bind]⟩
  · exact absurd missing.1 other
  · obtain ⟨-, content, here⟩ := file
    exact ⟨.exists, by decide, by simp only [placed, Except.bind, entryAt?, here]⟩

theorem makeDirectory_of_missing (missing : tree.reach path = .error .notFound) :
    (∃ made, tree.makeDirectory path = .ok made) ∨
      tree.makeDirectory path = .error (.refused ⟨.notFound, path, none⟩) ∧
        tree.reach path.parent = .error .notFound := by
  obtain ⟨names, taken⟩ := Path.exists_systemNames_iff.mpr legal
  rw [makeDirectory, atPlace, taken]
  rcases place_of_stopped taken missing with ⟨placed, above⟩ | ⟨location, placed, free | file⟩
  · exact Or.inr ⟨by simp only [placed, Except.bind], above rfl⟩
  · exact Or.inl ⟨_, by simp only [placed, Except.bind, entryAt?, free.2]; rfl⟩
  · cases file.1

/-- In a directory, only what is in the way keeps another directory from being there or from being
made. -/
theorem makeDirectory_of_parent (above : tree.lookUp? path.parent = some .directory) :
    (∃ made, tree.makeDirectory path = .ok made) ∨ tree.lookUp? path = some .directory ∨
      tree.Blocked path := by
  rcases reach_cases tree path with reached | blocked | missing
  · exact Or.inr (Or.inl ((lookUp?_eq_directory_iff_reach legal).mpr reached))
  · exact Or.inr (Or.inr blocked)
  · rcases makeDirectory_of_missing legal missing with made | ⟨-, missingAbove⟩
    · exact Or.inl made
    · obtain ⟨location, reached⟩ := (lookUp?_eq_directory_iff_reach legal.parent).mp above
      rw [missingAbove] at reached
      cases reached

omit legal in
theorem existing_of_not_directory (none : tree.lookUp? path ≠ some .directory) (error : FileError) :
    ∃ error', existing tree path (.refused error) = (tree, some (.refused error')) := by
  rw [existing]
  cases found : tree.isDirectory path with
  | ok here =>
      cases here with
      | true => exact absurd (isDirectory_eq_true_iff.mp found) none
      | false => exact ⟨error, rfl⟩
  | error fault =>
      obtain ⟨error', rfl⟩ := isRefusal_of_isDirectory found
      exact ⟨error', rfl⟩

end Making

/-! ## Making the directories above -/

theorem makeReversed_eq_makeDirectories (tree : FileTree) (start : Path.Start)
    (names : List Text) :
    tree.makeReversed start names = tree.makeDirectories ⟨start, names.reverse⟩ := by
  rw [makeDirectories, List.reverse_reverse]

/-- Where something is in the way, an attempt fails and changes nothing. -/
theorem makeDirectories_of_blocked {tree : FileTree} {path : Path} (legal : path.Legal)
    (blocked : tree.Blocked path) :
    ∃ error, tree.makeDirectories path = (tree, some (.refused error)) := by
  obtain ⟨kind, other, refused⟩ := makeDirectory_of_blocked legal blocked
  obtain ⟨error, failed⟩ := existing_of_not_directory (blocked.not_directory legal) ⟨kind, path, none⟩
  obtain ⟨start, names⟩ := path
  refine ⟨error, ?_⟩
  rcases List.eq_nil_or_concat' names with rfl | ⟨above, last, rfl⟩
  · rw [makeDirectories, List.reverse_nil, makeReversed, refused]
    exact failed
  · rw [makeDirectories, List.reverse_append, List.reverse_singleton, List.singleton_append,
      makeReversed]
    simp only [List.reverse_cons, List.reverse_reverse, refused, isNotFound, other, decide_false,
      Bool.false_eq_true, if_false]
    exact failed

/-- An attempt that fails leaves a tree in which something is in the way. -/
theorem blocked_of_makeReversed {tree : FileTree} {start : Path.Start} {names : List Text}
    (legal : Path.Legal ⟨start, names.reverse⟩) {fault : FileFault}
    (failed : (tree.makeReversed start names).2 = some fault) :
    Blocked (tree.makeReversed start names).1 ⟨start, names.reverse⟩ := by
  induction names generalizing tree fault with
  | nil =>
      have here := (lookUp?_eq_directory_iff_reach legal).mpr ⟨_, reach_start tree start⟩
      rw [makeReversed_eq_makeDirectories, makeDirectories_of_directory here] at failed
      cases failed
  | cons name above ih =>
      have parent : Path.parent ⟨start, (name :: above).reverse⟩ = ⟨start, above.reverse⟩ := by
        rw [Path.parent, List.reverse_cons, List.dropLast_concat]
      have legalAbove := legal.parent
      rw [parent] at legalAbove
      rcases reach_cases tree ⟨start, (name :: above).reverse⟩ with reached | blocked | missing
      · have here := (lookUp?_eq_directory_iff_reach legal).mpr reached
        rw [makeReversed_eq_makeDirectories, makeDirectories_of_directory here] at failed
        cases failed
      · obtain ⟨error, same⟩ := makeDirectories_of_blocked legal blocked
        rw [makeReversed_eq_makeDirectories, same]
        exact blocked
      rcases makeDirectory_of_missing legal missing with ⟨made, done⟩ | ⟨refused, -⟩
      · rw [makeReversed, done] at failed
        cases failed
      have outer := makes_makeReversed tree start above
      rw [makeReversed] at failed ⊢
      simp only [refused, isNotFound, decide_true, if_true] at failed ⊢
      cases inner : tree.makeReversed start above with
      | mk grown outcome =>
          rw [inner] at outer failed
          cases outcome with
          | some stopped =>
              -- What is in the way of the directory above is in the way here too.
              have blocked := ih legalAbove (by rw [inner])
              rw [inner] at blocked
              exact Blocked.of_parent legal (by rwa [parent])
          | none =>
              -- The second attempt is made in a directory, so it does not fail for a missing name.
              have there := outer.made rfl
              rw [← parent] at there
              rcases makeDirectory_of_parent legal there with ⟨made, done⟩ | here | blocked
              · simp only [done] at failed
                cases failed
              · simp only [makeDirectory_of_directory here, existing_of_directory here, reduceCtorEq,
                  decide_false, Bool.false_eq_true, if_false] at failed
              · obtain ⟨kind, other, refused⟩ := makeDirectory_of_blocked legal blocked
                obtain ⟨error, same⟩ := existing_of_not_directory (blocked.not_directory legal)
                  ⟨kind, ⟨start, (name :: above).reverse⟩, none⟩
                simp only [refused, other, decide_false, Bool.false_eq_true, if_false, same]
                exact blocked

theorem blocked_of_makeDirectories {tree : FileTree} {path : Path} (legal : path.Legal)
    {fault : FileFault} (failed : (tree.makeDirectories path).2 = some fault) :
    Blocked (tree.makeDirectories path).1 path := by
  have stopped : (tree.makeReversed path.start path.names.reverse).2 = some fault := failed
  have blocked := blocked_of_makeReversed (by rwa [List.reverse_reverse]) stopped
  rwa [List.reverse_reverse] at blocked

/-! ## Settled paths -/

/-- Whether it is settled if there is a directory at a path: there is one, or something is in the
way. -/
def Settled (tree : FileTree) (path : Path) : Prop :=
  tree.lookUp? path = some .directory ∨ tree.Blocked path

theorem Settled.of_grown {before after : FileTree} (grown : before.Grown after) {path : Path}
    (settled : before.Settled path) : after.Settled path :=
  settled.imp (lookUp?_directory_of_keeps grown.keeps) (Blocked.of_grown grown)

/-- What has become settled stays as it is. -/
theorem Settled.lookUp?_iff_of_grown {before after : FileTree} (grown : before.Grown after)
    {path : Path} (legal : path.Legal) (settled : before.Settled path) :
    after.lookUp? path = some .directory ↔ before.lookUp? path = some .directory := by
  rcases settled with here | blocked
  · exact iff_of_true (lookUp?_directory_of_keeps grown.keeps here) here
  · exact iff_of_false ((blocked.of_grown grown).not_directory legal) (blocked.not_directory legal)

/-- An attempt settles its path, and says how. -/
theorem settled_makeDirectories (tree : FileTree) {path : Path} (legal : path.Legal) :
    (tree.makeDirectories path).1.Settled path ∧
      ((tree.makeDirectories path).2 = none ↔
        (tree.makeDirectories path).1.lookUp? path = some .directory) := by
  have makes := makes_makeDirectories tree path
  cases outcome : (tree.makeDirectories path).2 with
  | none => exact ⟨Or.inl (makes.made outcome), iff_of_true rfl (makes.made outcome)⟩
  | some fault =>
      have blocked := blocked_of_makeDirectories legal outcome
      exact ⟨Or.inr blocked, iff_of_false (Option.some_ne_none fault) (blocked.not_directory legal)⟩

/-- Where it is settled, an attempt changes nothing. -/
theorem Settled.makeDirectories_fst {tree : FileTree} {path : Path} (legal : path.Legal)
    (settled : tree.Settled path) : (tree.makeDirectories path).1 = tree := by
  rcases settled with here | blocked
  · rw [makeDirectories_of_directory here]
  · obtain ⟨error, same⟩ := makeDirectories_of_blocked legal blocked
    rw [same]

end Startup.FileTree
