import Startup.Proofs.Directories
import Startup.Proofs.Files.Reach

/-!
# Exact initialization

A set-up makes one attempt at the home and one at each place, whatever became of the earlier ones. An
attempt that succeeds leaves a directory and one that fails leaves something in the way, and both
stay so whatever is made afterwards. So the answer says whether all the directories are there at the
end, each failure is reported once, and a second set-up finds everything as the first one left it.
-/

namespace Startup.Directories

/-- The paths at which a set-up attempts to make a directory, the home first. -/
def paths (directories : Directories) : List Path :=
  directories.home :: directories.places.entries.map Prod.snd

def attempted (tree : FileTree) (paths : List Path) : FileTree :=
  paths.foldl (fun tree path => (tree.makeDirectories path).1) tree

def failures (tree : FileTree) : List Path → List (Path × FileFault)
  | [] => []
  | path :: rest =>
      match tree.makeDirectories path with
      | (next, none) => failures next rest
      | (next, some fault) => (path, fault) :: failures next rest

def failureRecord (failure : Path × FileFault) : LogRecord :=
  reporter.record .error
    ("Failed to create directory " ++ failure.1.text ++ ": " ++ failure.2.message)

def successRecord (home : Path) : LogRecord :=
  reporter.record .info ("Directory structure initialized in: " ++ home.text)

theorem Legal.paths {directories : Directories} (legal : directories.Legal) :
    ∀ path ∈ directories.paths, path.Legal :=
  List.forall_mem_cons.mpr ⟨legal.home, List.forall_mem_map.mpr legal.places⟩

theorem grown_attempted (tree : FileTree) (paths : List Path) :
    tree.Grown (attempted tree paths) := by
  induction paths generalizing tree with
  | nil => exact .refl tree
  | cons path rest ih => exact (FileTree.makes_makeDirectories tree path).grown.trans (ih _)

/-- Creating a directory reports the fault of an attempt that is refused. -/
theorem create_eq {path : Path} (legal : path.Legal) (tree : FileTree) :
    create path path.text tree =
      ⟨.ok (decide (failures tree [path] = [])), (tree.makeDirectories path).1,
        (failures tree [path]).map failureRecord⟩ := by
  have refusal := @FileTree.isRefusal_of_makeDirectories tree path legal
  rw [create, failures]
  generalize tree.makeDirectories path = outcome at refusal
  obtain ⟨next, _ | fault⟩ := outcome
  · rfl
  · obtain ⟨error, rfl⟩ := refusal rfl
    rfl

theorem failures_cons (tree : FileTree) (path : Path) (rest : List Path) :
    failures tree (path :: rest) =
      failures tree [path] ++ failures (tree.makeDirectories path).1 rest := by
  rw [failures, failures]
  generalize tree.makeDirectories path = outcome
  obtain ⟨next, _ | fault⟩ := outcome <;> rfl

/-- Preparing the places is one attempt at each of them. -/
theorem prepareAll_eq {paths : List Path} (legal : ∀ path ∈ paths, path.Legal) (tree : FileTree) :
    prepareAll paths tree =
      ⟨.ok (decide (failures tree paths = [])), attempted tree paths,
        (failures tree paths).map failureRecord⟩ := by
  induction paths generalizing tree with
  | nil => rfl
  | cons path rest ih =>
      obtain ⟨here, others⟩ := List.forall_mem_cons.mp legal
      simp only [prepareAll, prepare_eq_create, Task.bind_apply, Task.andThen, create_eq here,
        ih others, Task.pure_apply, List.append_nil, failures_cons tree path rest,
        List.append_eq_nil_iff, Bool.decide_and, List.map_append]
      rfl

/-- What a set-up comes to. -/
theorem setUp_eq {directories : Directories} (legal : directories.Legal) (tree : FileTree) :
    directories.setUp tree =
      ⟨.ok (decide (failures tree directories.paths = [])), attempted tree directories.paths,
        (failures tree directories.paths).map failureRecord ++
          if failures tree directories.paths = [] then [successRecord directories.home] else []⟩ := by
  have places : ∀ path ∈ directories.places.entries.map Prod.snd, path.Legal :=
    List.forall_mem_map.mpr legal.places
  have whole : failures tree directories.paths = failures tree [directories.home] ++
      failures (tree.makeDirectories directories.home).1
        (directories.places.entries.map Prod.snd) := failures_cons ..
  have state : attempted tree directories.paths =
      attempted (tree.makeDirectories directories.home).1
        (directories.places.entries.map Prod.snd) := rfl
  simp only [setUp, Task.bind_apply, Task.andThen, create_eq legal.home, prepareAll_eq places,
    whole, state]
  generalize failures tree [directories.home] = home
  generalize failures (tree.makeDirectories directories.home).1
    (directories.places.entries.map Prod.snd) = others
  by_cases all : home = [] ∧ others = []
  · obtain ⟨rfl, rfl⟩ := all
    rfl
  · have answer : (decide (home = []) && decide (others = [])) = false := by
      rw [← Bool.decide_and, decide_eq_false all]
    rw [← List.append_eq_nil_iff] at all
    simp only [answer, all, Bool.false_eq_true, if_false, decide_false, Task.pure_apply,
      List.append_nil, List.map_append]

/-- Every attempt settles its path for the rest of the set-up. -/
theorem settled_attempted {paths : List Path} (legal : ∀ path ∈ paths, path.Legal)
    (tree : FileTree) : ∀ path ∈ paths, (attempted tree paths).Settled path := by
  induction paths generalizing tree with
  | nil => exact List.forall_mem_nil _
  | cons path rest ih =>
      obtain ⟨here, others⟩ := List.forall_mem_cons.mp legal
      have settled := (FileTree.settled_makeDirectories tree here).1
      exact List.forall_mem_cons.mpr
        ⟨settled.of_grown (grown_attempted _ rest), ih others _⟩

/-- The attempts that fail are those at the paths where there is no directory in the end. -/
theorem map_fst_failures {paths : List Path} (legal : ∀ path ∈ paths, path.Legal)
    (tree : FileTree) :
    (failures tree paths).map Prod.fst =
      paths.filter fun path => (attempted tree paths).lookUp? path ≠ some .directory := by
  induction paths generalizing tree with
  | nil => rfl
  | cons path rest ih =>
      obtain ⟨here, others⟩ := List.forall_mem_cons.mp legal
      obtain ⟨settled, made⟩ := FileTree.settled_makeDirectories tree here
      have kept := settled.lookUp?_iff_of_grown (grown_attempted _ rest) here
      rw [attempted, List.foldl_cons, ← attempted, List.filter_cons, ← ih others, failures]
      rw [← kept] at made
      generalize tree.makeDirectories path = outcome at made
      obtain ⟨next, _ | fault⟩ := outcome
      · rw [if_neg (by simpa using made.mp rfl)]
      · have absent : (attempted next rest).lookUp? path ≠ some .directory := fun there =>
          Option.some_ne_none fault (made.mpr there)
        rw [if_pos (decide_eq_true absent)]
        rfl

/-- Where everything is settled, further attempts change nothing. -/
theorem attempted_of_settled {paths : List Path} (legal : ∀ path ∈ paths, path.Legal)
    {tree : FileTree} (settled : ∀ path ∈ paths, tree.Settled path) :
    attempted tree paths = tree := by
  induction paths with
  | nil => rfl
  | cons path rest ih =>
      obtain ⟨legalHere, legalRest⟩ := List.forall_mem_cons.mp legal
      obtain ⟨here, others⟩ := List.forall_mem_cons.mp settled
      rw [attempted, List.foldl_cons, here.makeDirectories_fst legalHere, ← attempted,
        ih legalRest others]

theorem failures_eq_nil_iff {paths : List Path} (legal : ∀ path ∈ paths, path.Legal)
    (tree : FileTree) :
    failures tree paths = [] ↔
      ∀ path ∈ paths, (attempted tree paths).isDirectory path = .ok true := by
  rw [← List.map_eq_nil_iff (f := Prod.fst), map_fst_failures legal, List.filter_eq_nil_iff]
  simp only [decide_not, Bool.not_eq_true', decide_eq_false_iff_not, not_not,
    FileTree.isDirectory_eq_true_iff]

/-- What a set-up does to the files, and what it reports and answers. -/
structure Initializes (directories : Directories) (before : FileTree) (run : Run FileTree Bool) :
    Prop where
  answer : ∃ answer, run.result = .ok answer ∧
    (answer = true ↔ ∀ path ∈ directories.paths, run.state.isDirectory path = .ok true)
  grown : before.Grown run.state
  attempts : run.state = attempted before directories.paths
  failures : (failures before directories.paths).map Prod.fst =
    directories.paths.filter fun path => run.state.isDirectory path ≠ .ok true
  errors : run.log.filter (·.level = .error) =
    (Directories.failures before directories.paths).map failureRecord
  again : (directories.setUp run.state).result = run.result ∧
    (directories.setUp run.state).state = run.state

/-- Whatever files there are and whichever legal directories are asked for, a set-up is exact, adds
directories only, and can be repeated without effect. -/
theorem initializes_setUp {directories : Directories} (legal : directories.Legal)
    (before : FileTree) : Initializes directories before (directories.setUp before) := by
  have again : attempted (attempted before directories.paths) directories.paths =
      attempted before directories.paths :=
    attempted_of_settled legal.paths (settled_attempted legal.paths before)
  rw [setUp_eq legal]
  refine ⟨⟨_, rfl, ?_⟩, grown_attempted before _, rfl, ?_, ?_, ?_⟩
  · exact decide_eq_true_iff.trans (failures_eq_nil_iff legal.paths before)
  · rw [map_fst_failures legal.paths]
    simp only [ne_eq, FileTree.isDirectory_eq_true_iff]
  · have errors : ((failures before directories.paths).map failureRecord).filter
        (·.level = .error) = (failures before directories.paths).map failureRecord := by
      refine List.filter_eq_self.mpr fun record member => ?_
      obtain ⟨failure, -, rfl⟩ := List.mem_map.mp member
      rfl
    rw [List.filter_append, errors]
    split <;> exact List.append_nil _
  · rw [setUp_eq legal, again]
    simp only [failures_eq_nil_iff legal.paths, again, and_self]

def cluttered : FileTree where
  entries := OrderedMap.ofList
    [([Path.stored "w"], .directory), ([Path.stored "w", Path.stored "data"], .file [1])]
  workingDirectory := [Path.stored "w"]

/-- Directories that lead through a missing one and back, below the file, and into one another. -/
def scattered : Directories where
  name := "app"
  home := Path.ofText "run/../home"
  places := OrderedMap.ofList
    [("data", Path.ofText "data/deep"), ("old", Path.ofText "/w/home/logs/old"),
      ("logs", Path.ofText "home/logs")]

theorem initializes_setUp_scattered :
    (scattered.setUp cluttered).result = .ok false ∧
      (failures cluttered scattered.paths).map Prod.fst = [Path.ofText "data/deep"] ∧
      (scattered.setUp cluttered).state.isDirectory (Path.ofText "run") = .ok true ∧
      (scattered.setUp cluttered).state.read (Path.ofText "data") = .ok [1] ∧
      (scattered.setUp (scattered.setUp cluttered).state).state =
        (scattered.setUp cluttered).state := by
  have legal : scattered.Legal := ⟨by decide, by decide⟩
  have initializes := initializes_setUp legal cluttered
  have before : cluttered.read (Path.ofText "data") = .ok [1] := by decide +kernel
  refine ⟨?_, ?_, by decide +kernel, initializes.grown.read before, initializes.again.2⟩
  · obtain ⟨answer, result, all⟩ := initializes.answer
    have absent : (scattered.setUp cluttered).state.isDirectory (Path.ofText "data/deep") ≠
        .ok true := by decide +kernel
    have failed : answer ≠ true := fun success => absent (all.mp success _ (by decide))
    rw [result, Bool.eq_false_iff.mpr failed]
  · rw [initializes.failures]
    decide +kernel

end Startup.Directories
