import Startup.Directories
import Startup.Proofs.Files.Legal
import Startup.Proofs.OrderedMap

/-!
# Setting up directories

The directories of a program are legal paths when what they are made from is legal: the command line,
the environment and the working directory. Setting them up then comes to an answer, and whatever the
answer is, the files have at most become more by directories.
-/

namespace Startup

/-- An environment that the system can give: no value holds a zero. -/
def Environment.Legal (environment : Environment) : Prop :=
  ∀ entry ∈ environment.entries, 0 ∉ entry.2

theorem Environment.Legal.find {environment : Environment} (legal : environment.Legal)
    {name value : Text} (found : environment.find name = .ok (some value)) : value.Legal := by
  unfold Environment.find at found
  split at found
  · cases found
  next key _ =>
    obtain ⟨bytes, stored, rfl⟩ := Option.map_eq_some_iff.mp (Except.ok.inj found)
    exact Utf8.legal_decode (legal _ ((OrderedMap.mem_entries_iff _ key bytes).mpr stored))

namespace Directories

structure Legal (directories : Directories) : Prop where
  home : directories.home.Legal
  places : ∀ entry ∈ directories.places.entries, entry.2.Legal

theorem legal_under (name : Text) {home : Path} (legal : home.Legal) : (under name home).Legal := by
  have relative : ∀ place ∈ standardPlaces, place.2.Legal := by decide
  refine ⟨legal, fun entry member => ?_⟩
  rcases OrderedMap.mem_of_mem_insertAll member with standard | impossible
  · obtain ⟨place, known, rfl⟩ := List.mem_map.mp standard
    exact legal.append (relative place known)
  · cases impossible

theorem legal_of_find {name : Text} {base? : Option Text} {environment : Environment}
    {workingPath : Path} {directories : Directories} (base : ∀ text, base? = some text → text.Legal)
    (given : environment.Legal) (working : workingPath.Legal)
    (found : find name base? environment workingPath = .ok directories) : directories.Legal := by
  cases base? with
  | some text =>
      rw [← Except.ok.inj found]
      exact legal_under name (Path.legal_ofText (base text rfl))
  | none =>
      simp only [find, environmentHome] at found
      cases value : environment.find (homeVariable name) with
      | error place =>
          rw [value] at found
          cases found
      | ok text? =>
          rw [value] at found
          rw [← Except.ok.inj found]
          apply legal_under
          cases text? with
          | none => exact working
          | some text => exact Path.legal_ofText (given.find value)

theorem legal_standard {base? : Option Text} {environment : Environment} {workingPath : Path}
    (base : ∀ text, base? = some text → text.Legal) (given : environment.Legal)
    (working : workingPath.Legal) : (standard base? environment workingPath).Legal := by
  unfold standard
  split
  next found => exact legal_of_find base given working found
  next => exact legal_under _ working

theorem settingsPlace_eq_ok_iff {directories : Directories} {place : Path} :
    directories.settingsPlace = .ok place ↔ directories.places.get? "config" = some place := by
  unfold settingsPlace
  cases directories.places.get? "config" <;> simp

theorem Legal.settingsPlace {directories : Directories} (legal : directories.Legal) {place : Path}
    (known : directories.settingsPlace = .ok place) : place.Legal :=
  legal.places _ ((OrderedMap.mem_entries_iff _ _ place).mpr (settingsPlace_eq_ok_iff.mp known))

theorem exists_settingsPlace_under (name : Text) (home : Path) :
    ∃ place, (under name home).settingsPlace = .ok place := by
  have nodup : ((standardPlaces.map fun place => (place.1, home ++ place.2)).map
      Prod.fst).Nodup := by
    rw [List.map_map]
    exact (by decide : (standardPlaces.map Prod.fst).Nodup)
  refine ⟨home ++ ⟨.relative, ["config"]⟩, settingsPlace_eq_ok_iff.mpr ?_⟩
  rw [under, setHome, OrderedMap.get?_insertAll nodup]
  rfl

theorem exists_settingsPlace_standard (base? : Option Text) (environment : Environment)
    (workingPath : Path) :
    ∃ place, (standard base? environment workingPath).settingsPlace = .ok place := by
  unfold standard
  split
  next directories found =>
    cases base? with
    | some base =>
        cases found
        exact exists_settingsPlace_under _ _
    | none =>
        simp only [find] at found
        cases given : environmentHome defaultName environment with
        | error place =>
            rw [given] at found
            cases found
        | ok home? =>
            rw [given] at found
            cases found
            exact exists_settingsPlace_under _ _
  next => exact exists_settingsPlace_under _ _

end Directories

def Task.Expands {α : Type} (task : Task FileTree α) : Prop :=
  ∀ tree, (∃ answer, (task tree).result = .ok answer) ∧ tree.Grown (task tree).state

namespace Task

theorem expands_pure {α : Type} (answer : α) : Expands (pure answer : Task FileTree α) :=
  fun tree => ⟨⟨answer, rfl⟩, .refl tree⟩

theorem expands_report (record : LogRecord) : Expands (report record : Task FileTree Unit) :=
  fun tree => ⟨⟨(), rfl⟩, .refl tree⟩

theorem Expands.bind {α β : Type} {task : Task FileTree α} {next : α → Task FileTree β}
    (early : task.Expands) (late : ∀ answer, (next answer).Expands) : (task >>= next).Expands := by
  intro tree
  obtain ⟨⟨answer, result⟩, grown⟩ := early tree
  obtain ⟨answered, grown'⟩ := late answer (task tree).state
  rw [bind_apply, andThen, result]
  exact ⟨answered, grown.trans grown'⟩

end Task

namespace Directories

theorem expands_create {path : Path} (legal : path.Legal) (shown : Text) :
    (create path shown).Expands := by
  intro tree
  have makes := FileTree.makes_makeDirectories tree path
  have refusal := @FileTree.isRefusal_of_makeDirectories tree path legal
  rw [create]
  generalize tree.makeDirectories path = outcome at makes refusal
  obtain ⟨made, _ | fault⟩ := outcome
  · exact ⟨⟨true, rfl⟩, makes.grown⟩
  · obtain ⟨error, rfl⟩ := refusal rfl
    exact ⟨⟨false, rfl⟩, makes.grown⟩

/-- A directory that was made can be written to, so the check after it finds nothing. -/
theorem prepare_eq_create (path : Path) : prepare path = create path path.text := by
  funext tree
  have makes := FileTree.makes_makeDirectories tree path
  simp only [prepare, Task.bind_apply, Task.andThen, create]
  generalize tree.makeDirectories path = outcome at makes
  obtain ⟨made, _ | fault⟩ := outcome
  · have there := FileTree.isDirectory_eq_true_iff.mpr (makes.made rfl)
    simp only [if_true, Task.bind_apply, Task.andThen, isWritable, there, Task.pure_apply,
      List.nil_append]
  · cases fault <;> simp [Task.pure_apply]

theorem expands_prepareAll {paths : List Path} (legal : ∀ path ∈ paths, path.Legal) :
    (prepareAll paths).Expands := by
  induction paths with
  | nil => exact Task.expands_pure true
  | cons path rest ih =>
      obtain ⟨here, others⟩ := List.forall_mem_cons.mp legal
      have first : (prepare path).Expands := by
        rw [prepare_eq_create]
        exact expands_create here path.text
      apply first.bind
      intro made
      apply (ih others).bind
      intro remaining
      exact Task.expands_pure (made && remaining)

/-- Setting up legal directories comes to an answer and at most adds directories. -/
theorem Legal.expands_setUp {directories : Directories} (legal : directories.Legal) :
    directories.setUp.Expands := by
  have places : ∀ path ∈ directories.places.entries.map Prod.snd, path.Legal :=
    List.forall_mem_map.mpr legal.places
  apply (expands_create legal.home _).bind
  intro home
  apply (expands_prepareAll places).bind
  intro others
  by_cases all : (home && others) = true
  · simp only [all, if_true]
    exact (Task.expands_report _).bind fun _ => Task.expands_pure true
  · simp only [if_neg all]
    exact (Task.expands_pure ()).bind fun _ => Task.expands_pure _

end Directories

end Startup
