import Startup.Proofs.Settings.Reopening
import Startup.Settings.Snapshot
import Startup.Settings.Typed

/-!
# The life cycle of a store

A store is set up, changed, loaded, saved and closed in any order, also set up again for another file
or set up in vain. What it knows about its file and whether it is open follow from the set-ups that
succeeded and from the closings after them. Each operation is inspected once; a history of any
length follows by induction on it.
-/

namespace Startup

/-! ## Misuse -/

/-- Whether a result reports that settings were misused. -/
def Misuse {α : Type} (result : Except Fault α) : Prop :=
  ∃ error, result = .error (.settings error)

namespace Settings

theorem not_misuse_loadFrom (settings : Settings) (path : Path) (tree : FileTree) :
    ¬Misuse (settings.loadFrom path tree).result := by
  rintro ⟨error, failed⟩
  unfold loadFrom at failed
  split at failed
  · cases failed
  · split at failed <;> cases failed
  · cases failed

/-- A saving without a temporary file is none, and changes nothing. -/
theorem saveTo_of_nameless {settings : Settings} {target : Path} (named : temporary? target = none)
    (tree : FileTree) :
    (settings.saveTo target tree).state = tree ∧
      ((settings.saveTo target tree).result = .ok false ∨
        (settings.saveTo target tree).result = .error (.file (.nameless target))) := by
  unfold saveTo
  rw [named]
  split
  · exact ⟨rfl, Or.inl rfl⟩
  · exact ⟨rfl, Or.inr rfl⟩

theorem not_misuse_saveTo (settings : Settings) (target : Path) (tree : FileTree) :
    ¬Misuse (settings.saveTo target tree).result := by
  rintro ⟨error, failed⟩
  cases named : temporary? target with
  | some temporary =>
      have ending : Ending settings target temporary tree (settings.saveTo target tree).result
          (settings.saveTo target tree).state := ending_saveTo named
      obtain ⟨-, obstacle, -, -, file⟩ := (ending.eq_error_iff _).mp failed
      cases file
  | none =>
      rcases (@saveTo_of_nameless settings target named tree).2 with result | result
      · rw [result] at failed
        cases failed
      · rw [result] at failed
        cases failed

theorem workingDirectory_saveTo (settings : Settings) (target : Path) (tree : FileTree) :
    (settings.saveTo target tree).state.workingDirectory = tree.workingDirectory := by
  cases named : temporary? target with
  | some temporary =>
      have ending : Ending settings target temporary tree (settings.saveTo target tree).result
          (settings.saveTo target tree).state := ending_saveTo named
      exact ending.keeps.workingDirectory
  | none => rw [(saveTo_of_nameless named tree).1]

end Settings

namespace Store

/-! ## Operations -/

inductive Edit where
  | text (sectionName key content : Text)
  | value (sectionName key : Text) (content : Value)
  | integer (sectionName key : Text) (content : Value)
  | truth (sectionName key : Text) (content : Value)
  | real (sectionName key : Text) (content : Value)
  | remove (sectionName key : Text)
  | defaults
  | reset
  | snapshot (library : SnapshotLibrary) (content : library.Snapshot)

/-- The store with settings that may have failed to come about; it keeps its own then. -/
def keepOr {ε : Type} (store : Store) : Except ε Settings → Store
  | .ok settings => store.withSettings settings
  | .error _ => store

def Edit.apply (store : Store) : Edit → Store
  | text sectionName key content =>
      store.withSettings (store.settings.store sectionName key content)
  | value sectionName key content =>
      store.keepOr (store.settings.storeValue sectionName key content)
  | integer sectionName key content =>
      store.keepOr (store.settings.storeInteger sectionName key content)
  | truth sectionName key content =>
      store.withSettings (store.settings.storeTruth sectionName key content)
  | real sectionName key content => store.keepOr (store.settings.storeReal sectionName key content)
  | remove sectionName key => store.withSettings (store.settings.remove sectionName key)
  | defaults => store.withSettings store.settings.storeDefaults
  | reset => store.reset
  | snapshot library content =>
      store.withSettings (store.settings.loadSnapshot library content).state

inductive Operation where
  | setUp (environment : Environment) (directory? : Option Path) (fileName : Text)
  | close
  | load (path? : Option Text)
  | save (path? : Option Text)
  | edit (edit : Edit)

def Operation.closes : Operation → Bool
  | close => true
  | _ => false

def Operation.Legal : Operation → Prop
  | setUp environment directory? fileName =>
      environment.Legal ∧ (∀ directory ∈ directory?, directory.Legal) ∧ fileName.Legal
  | _ => True

/-- The session after an operation, whatever the operation results in. -/
def next (session : Session) : Operation → Session
  | .setUp environment directory? fileName => (setUp environment directory? fileName session).state
  | .close => (close session).state
  | .load path? => (load path? session).state
  | .save path? => (save path? session).state
  | .edit edit => { session with store := edit.apply session.store }

structure Occasion where
  session : Session
  operation : Operation

/-- The settings file that a set-up chooses, if the operation is a set-up that succeeds. -/
def Occasion.opened? (occasion : Occasion) : Option Path :=
  match occasion.operation with
  | .setUp environment directory? fileName =>
      if (setUp environment directory? fileName occasion.session).result = .ok true then
        (chosen occasion.session environment directory?).toOption.map (·.join [fileName])
      else none
  | _ => none

def after (session : Session) (operations : List Operation) : Session :=
  operations.foldl next session

def history (session : Session) : List Operation → List Occasion
  | [] => []
  | operation :: rest => ⟨session, operation⟩ :: history (next session operation) rest

theorem after_concat (session : Session) (operations : List Operation) (operation : Operation) :
    after session (operations ++ [operation]) = next (after session operations) operation :=
  List.foldl_concat ..

theorem history_concat (session : Session) (operations : List Operation) (operation : Operation) :
    history session (operations ++ [operation]) =
      history session operations ++ [⟨after session operations, operation⟩] := by
  induction operations generalizing session with
  | nil => rfl
  | cons first rest ih =>
      rw [List.cons_append, history, ih, history, List.cons_append, after, after, List.foldl_cons]

/-! ## One operation -/

/-- A session in which a set-up cannot meet an illegal path of its own. -/
structure Legal (session : Session) : Prop where
  directories : ∀ directories ∈ session.store.directories?, directories.Legal
  files : session.files.Legal

section Directories

variable {session : Session} {environment : Environment}

theorem legal_directoriesIn (legal : Legal session) (known : environment.Legal) :
    (directoriesIn session environment).Legal := by
  unfold directoriesIn
  cases given : session.store.directories? with
  | some directories => exact legal.directories directories given
  | none =>
      exact Directories.legal_standard (fun text given => absurd given (Option.not_mem_none text))
        known legal.files.workingPath

theorem legal_chosen (legal : Legal session) (known : environment.Legal)
    {directory? : Option Path} (given : ∀ directory ∈ directory?, directory.Legal)
    {directory : Path} (chose : chosen session environment directory? = .ok directory) :
    directory.Legal := by
  cases directory? with
  | none => exact (legal_directoriesIn legal known).settingsPlace chose
  | some other =>
      cases chose
      exact given directory rfl

end Directories

theorem exists_withSettings_of_edit (store : Store) (edit : Edit) :
    ∃ settings, edit.apply store = store.withSettings settings := by
  have kept : ∀ {ε : Type} (changed : Except ε Settings),
      ∃ settings, store.keepOr changed = store.withSettings settings := by
    intro ε changed
    cases changed with
    | ok settings => exact ⟨settings, rfl⟩
    | error fault => exact ⟨store.settings, rfl⟩
  cases edit with
  | text | truth | remove | defaults | reset | snapshot => exact ⟨_, rfl⟩
  | value | integer | real => exact kept _

theorem load_of_unresolved {session : Session} {path? : Option Text} {fault : Fault}
    (unresolved : session.store.resolve path? = .error fault) :
    load path? session = ⟨.error fault, session, []⟩ := by
  simp only [load, Task.bind_apply, Task.andThen, Task.get, Task.ofExcept, unresolved,
    List.append_nil]

/-- Loading changes the settings and nothing else. -/
theorem load_of_resolved {session : Session} {path? : Option Text} {path : Path}
    (resolved : session.store.resolve path? = .ok path) :
    (load path? session).result =
        (session.store.settings.loadFrom path session.files).result.map Prod.snd ∧
      ∃ settings, (load path? session).state =
        ⟨session.store.withSettings settings, session.files⟩ := by
  have same := Settings.loadFrom_state session.store.settings path session.files
  simp only [load, Task.bind_apply, Task.andThen, Task.get, Task.ofExcept, resolved,
    Session.onFiles, Task.within, Session.updateStore, Task.modify]
  cases read : (session.store.settings.loadFrom path session.files).result with
  | error fault =>
      simp only [same]
      exact ⟨rfl, session.store.settings, rfl⟩
  | ok loaded =>
      simp only [same]
      exact ⟨rfl, loaded.1, rfl⟩

theorem save_of_unresolved {session : Session} {path? : Option Text} {fault : Fault}
    (unresolved : session.store.resolve path? = .error fault) :
    save path? session = ⟨.error fault, session, []⟩ := by
  simp only [save, Task.bind_apply, Task.andThen, Task.get, Task.ofExcept, unresolved,
    List.append_nil]

theorem exists_withSettings_of_load (path? : Option Text) (session : Session) :
    ∃ settings, (load path? session).state =
      ⟨session.store.withSettings settings, session.files⟩ := by
  cases resolved : session.store.resolve path? with
  | error fault =>
      rw [load_of_unresolved resolved]
      exact ⟨session.store.settings, rfl⟩
  | ok path => exact (load_of_resolved resolved).2

/-- Saving changes files and nothing else. -/
theorem exists_files_of_save (path? : Option Text) (session : Session) :
    ∃ files, files.workingDirectory = session.files.workingDirectory ∧
      (save path? session).state = ⟨session.store, files⟩ := by
  cases resolved : session.store.resolve path? with
  | error fault =>
      rw [save_of_unresolved resolved]
      exact ⟨session.files, rfl, rfl⟩
  | ok path =>
      rw [save_eq resolved]
      exact ⟨_, Settings.workingDirectory_saveTo session.store.settings path session.files, rfl⟩

/-- What an operation does to the fields that tie a store to its file: a set-up that succeeds gives
the file and opens the store, a closing closes it, and nothing else touches either. -/
structure Advances (occasion : Occasion) (after : Session) : Prop where
  legal : Legal after
  file : after.store.file? = occasion.opened?.or occasion.session.store.file?
  isOpen : after.store.isOpen = if occasion.operation.closes then false
    else occasion.opened?.isSome || occasion.session.store.isOpen

/-- An operation that is neither a set-up nor a closing. -/
theorem advances_of_kept {session after : Session} {operation : Operation} (legal : Legal session)
    (stays : operation.closes = false) (opens : Occasion.opened? ⟨session, operation⟩ = none)
    {settings : Settings} (store : after.store = session.store.withSettings settings)
    (files : after.files.workingDirectory = session.files.workingDirectory) :
    Advances ⟨session, operation⟩ after where
  legal := by
    refine ⟨?_, legal.files.of_same files⟩
    rw [store]
    exact legal.directories
  file := by
    rw [store, opens]
    rfl
  isOpen := by
    rw [store, opens, stays]
    rfl

theorem advances_setUp {session : Session} {environment : Environment} {directory? : Option Path}
    {fileName : Text} (legal : Legal session) (known : environment.Legal)
    (given : ∀ directory ∈ directory?, directory.Legal) (named : fileName.Legal) :
    Advances ⟨session, .setUp environment directory? fileName⟩
      (setUp environment directory? fileName session).state := by
  have directories :
      ∀ directories ∈ some (directoriesIn session environment), directories.Legal := by
    intro directories same
    rw [← Option.some.inj same]
    exact legal_directoriesIn legal known
  cases chose : chosen session environment directory? with
  | error fault =>
      obtain ⟨result, state⟩ := @setUp_of_unplaced _ _ _ fileName _ chose
      have opens : Occasion.opened? ⟨session, .setUp environment directory? fileName⟩ = none := by
        apply if_neg
        rw [result]
        exact nofun
      rw [state]
      exact ⟨⟨directories, legal.files⟩, by rw [opens]; rfl, by rw [opens]; rfl⟩
  | ok directory =>
      obtain ⟨made, grown, opened⟩ := setUp_cases chose (legal_chosen legal known given chose) named
      have files := legal.files.of_same grown.workingDirectory
      rcases opened with ⟨settings, result, state⟩ | ⟨result, state⟩
      · have opens : Occasion.opened? ⟨session, .setUp environment directory? fileName⟩ =
            some (directory.join [fileName]) := by
          simp only [Occasion.opened?, if_pos result, chose, Except.toOption, Option.map_some]
        rw [state]
        exact ⟨⟨directories, files⟩, by rw [opens]; rfl, by rw [opens]; rfl⟩
      · have opens : Occasion.opened? ⟨session, .setUp environment directory? fileName⟩ = none := by
          apply if_neg
          rw [result]
          decide
        rw [state]
        exact ⟨⟨directories, files⟩, by rw [opens]; rfl, by rw [opens]; rfl⟩

theorem advances_close {session : Session} (legal : Legal session)
    (file : session.store.isOpen = true → session.store.file?.isSome = true) :
    Advances ⟨session, .close⟩ (close session).state := by
  cases opened : session.store.isOpen with
  | false =>
      rw [close_of_closed opened]
      exact ⟨legal, rfl, opened⟩
  | true =>
      obtain ⟨file, known⟩ := Option.isSome_iff_exists.mp (file opened)
      rw [close_of_open opened known]
      have same := Settings.workingDirectory_saveTo session.store.settings file session.files
      exact ⟨⟨legal.directories, legal.files.of_same same⟩, rfl, rfl⟩

/-- Every operation advances the history. -/
theorem advances_next {session : Session} {operation : Operation} (legal : Legal session)
    (file : session.store.isOpen = true → session.store.file?.isSome = true)
    (named : operation.Legal) : Advances ⟨session, operation⟩ (next session operation) := by
  cases operation with
  | setUp environment directory? fileName =>
      exact advances_setUp legal named.1 named.2.1 named.2.2
  | close => exact advances_close legal file
  | load path? =>
      obtain ⟨settings, state⟩ := exists_withSettings_of_load path? session
      have store : (next session (.load path?)).store = session.store.withSettings settings := by
        rw [next, state]
      have files : (next session (.load path?)).files = session.files := by rw [next, state]
      exact advances_of_kept legal rfl rfl store (congrArg FileTree.workingDirectory files)
  | save path? =>
      obtain ⟨files, same, state⟩ := exists_files_of_save path? session
      have store : (next session (.save path?)).store =
          session.store.withSettings session.store.settings := by
        rw [next, state]
        rfl
      have saved : (next session (.save path?)).files = files := by rw [next, state]
      exact advances_of_kept legal rfl rfl store
        ((congrArg FileTree.workingDirectory saved).trans same)
  | edit edit =>
      obtain ⟨settings, store⟩ := exists_withSettings_of_edit session.store edit
      exact advances_of_kept legal rfl rfl store rfl

/-! ## Histories -/

/-- The settings file of the latest set-up that succeeded. -/
def latest? (occasions : List Occasion) : Option Path :=
  (occasions.filterMap Occasion.opened?).getLast?

/-- Whether some set-up succeeded and the store was not closed after it. -/
def Standing (occasions : List Occasion) : Prop :=
  ∃ early occasion late, occasions = early ++ occasion :: late ∧ occasion.opened?.isSome = true ∧
    ∀ later ∈ late, later.operation.closes = false

theorem latest?_concat (occasions : List Occasion) (occasion : Occasion) :
    latest? (occasions ++ [occasion]) = occasion.opened?.or (latest? occasions) := by
  rw [latest?, List.filterMap_append, List.getLast?_append, latest?]
  cases opened : occasion.opened? with
  | none => simp [opened]
  | some file => simp [opened]

theorem latest?_eq_none_iff {occasions : List Occasion} :
    latest? occasions = none ↔ ∀ occasion ∈ occasions, occasion.opened? = none := by
  rw [latest?, List.getLast?_eq_none_iff, List.filterMap_eq_nil_iff]

theorem not_standing_nil : ¬Standing [] := by
  rintro ⟨early, occasion, late, shape, -⟩
  simp at shape

theorem standing_concat {occasions : List Occasion} {occasion : Occasion} :
    Standing (occasions ++ [occasion]) ↔
      occasion.opened?.isSome = true ∨ occasion.operation.closes = false ∧ Standing occasions := by
  constructor
  · rintro ⟨early, opening, late, shape, opened, stays⟩
    rcases List.eq_nil_or_concat' late with rfl | ⟨others, last, rfl⟩
    · obtain ⟨-, same⟩ := List.append_inj' shape rfl
      rw [(List.cons.inj same).1]
      exact Or.inl opened
    · rw [← List.cons_append, ← List.append_assoc] at shape
      obtain ⟨rfl, same⟩ := List.append_inj' shape rfl
      obtain ⟨others', last'⟩ := List.forall_mem_append.mp stays
      rw [(List.cons.inj same).1]
      exact Or.inr ⟨last' last (List.mem_singleton_self last), early, opening, others, rfl, opened,
        others'⟩
  · rintro (opened | ⟨stays, early, opening, late, rfl, opened, others⟩)
    · exact ⟨occasions, occasion, [], rfl, opened, List.forall_mem_nil _⟩
    · exact ⟨early, opening, late ++ [occasion], by simp, opened,
        List.forall_mem_append.mpr ⟨others, List.forall_mem_singleton.mpr stays⟩⟩

theorem Standing.exists_latest? {occasions : List Occasion} (standing : Standing occasions) :
    (latest? occasions).isSome = true := by
  obtain ⟨early, opening, late, rfl, opened, -⟩ := standing
  rw [Option.isSome_iff_ne_none, ne_eq, latest?_eq_none_iff]
  intro never
  rw [never opening (by simp)] at opened
  cases opened

/-- A session that fits what happened before. -/
structure Fits (occasions : List Occasion) (session : Session) : Prop where
  legal : Legal session
  file : session.store.file? = latest? occasions
  isOpen : session.store.isOpen = true ↔ Standing occasions

theorem Fits.file_of_open {occasions : List Occasion} {session : Session}
    (fits : Fits occasions session) (opened : session.store.isOpen = true) :
    session.store.file?.isSome = true := by
  rw [fits.file]
  exact (fits.isOpen.mp opened).exists_latest?

theorem Fits.next {occasions : List Occasion} {session : Session} {operation : Operation}
    (fits : Fits occasions session) (named : operation.Legal) :
    Fits (occasions ++ [⟨session, operation⟩]) (next session operation) := by
  have advances := advances_next fits.legal fits.file_of_open named
  refine ⟨advances.legal, ?_, ?_⟩
  · rw [advances.file, latest?_concat, fits.file]
  · rw [advances.isOpen, standing_concat, ← fits.isOpen]
    cases operation with
    | close => simp [Operation.closes, Occasion.opened?]
    | setUp | load | save | edit => simp [Operation.closes]

theorem fits_history {session : Session} (start : Fits [] session) {operations : List Operation}
    (named : ∀ operation ∈ operations, operation.Legal) :
    Fits (history session operations) (after session operations) := by
  induction operations using List.reverseRecOn with
  | nil => exact start
  | append_singleton operations operation ih =>
      obtain ⟨before, last⟩ := List.forall_mem_append.mp named
      rw [history_concat, after_concat]
      exact (ih before).next (last operation (List.mem_singleton_self operation))

/-! ## Operations after a history -/

theorem not_misuse_map {α β : Type} {result : Except Fault α} (fine : ¬Misuse result)
    (change : α → β) : ¬Misuse (result.map change) := by
  rintro ⟨error, failed⟩
  cases result with
  | ok value => cases failed
  | error fault => exact fine ⟨error, by rw [Except.error.inj failed]⟩

section Absent

variable {path? : Option Text} (absent : path?.getD [] = [])

include absent

theorem resolve_of_absent (store : Store) :
    store.resolve path? =
      match store.file? with
      | some file => .ok file
      | none => .error (.settings .noFile) := by
  match path? with
  | none => rfl
  | some [] => rfl
  | some (_ :: _) => cases absent

/-- Without a path, loading is misuse exactly when no file is known. -/
theorem misuse_load_iff (session : Session) :
    Misuse (load path? session).result ↔ session.store.file? = none := by
  have resolved := resolve_of_absent absent session.store
  cases known : session.store.file? with
  | none =>
      rw [known] at resolved
      rw [load_of_unresolved resolved]
      exact iff_of_true ⟨.noFile, rfl⟩ rfl
  | some file =>
      rw [known] at resolved
      rw [(load_of_resolved resolved).1]
      have fine := Settings.not_misuse_loadFrom session.store.settings file session.files
      exact iff_of_false (not_misuse_map fine Prod.snd) (Option.some_ne_none file)

/-- Without a path, saving is misuse exactly when no file is known. -/
theorem misuse_save_iff (session : Session) :
    Misuse (save path? session).result ↔ session.store.file? = none := by
  have resolved := resolve_of_absent absent session.store
  cases known : session.store.file? with
  | none =>
      rw [known] at resolved
      rw [save_of_unresolved resolved]
      exact iff_of_true ⟨.noFile, rfl⟩ rfl
  | some file =>
      rw [known] at resolved
      rw [save_eq resolved]
      have fine := Settings.not_misuse_saveTo session.store.settings file session.files
      exact iff_of_false fine (Option.some_ne_none file)

end Absent

/-- Whether a closing is a saving of the settings to a file, with the store closed before. -/
def ClosesInto (session : Session) (file : Path) : Prop :=
  close session =
    ⟨(session.store.settings.saveTo file session.files).result.map fun _ => (),
      ⟨{ session.store with isOpen := false },
        (session.store.settings.saveTo file session.files).state⟩,
      (session.store.settings.saveTo file session.files).log⟩

/-- What a history says about a store. -/
structure Obeys (occasions : List Occasion) (session : Session) : Prop where
  load : ∀ path? : Option Text, path?.getD [] = [] →
    (Misuse (Store.load path? session).result ↔
      ∀ occasion ∈ occasions, occasion.opened? = none)
  save : ∀ path? : Option Text, path?.getD [] = [] →
    (Misuse (Store.save path? session).result ↔
      ∀ occasion ∈ occasions, occasion.opened? = none)
  isOpen : session.store.isOpen = true ↔ Standing occasions
  close : ¬Misuse (Store.close session).result
  closeOpen : session.store.isOpen = true →
    ∃ file, latest? occasions = some file ∧ ClosesInto session file
  closeClosed : session.store.isOpen = false → Store.close session = ⟨.ok (), session, []⟩
  closeAgain : (∃ early first late, occasions = early ++ first :: late ∧
      first.operation.closes = true ∧ ∀ later ∈ late, later.opened? = none) →
    Store.close session = ⟨.ok (), session, []⟩

theorem opened?_of_closes {occasion : Occasion} (closes : occasion.operation.closes = true) :
    occasion.opened? = none := by
  obtain ⟨session, operation⟩ := occasion
  cases operation with
  | close => rfl
  | setUp | load | save | edit => cases closes

/-- A closing ends the time in which the store is open. -/
theorem not_standing_of_closes {early late : List Occasion} {first : Occasion}
    (closes : first.operation.closes = true) (rest : ∀ later ∈ late, later.opened? = none) :
    ¬Standing (early ++ first :: late) := by
  induction late using List.reverseRecOn with
  | nil => simp [standing_concat, closes, opened?_of_closes closes]
  | append_singleton late last ih =>
      obtain ⟨others, last'⟩ := List.forall_mem_append.mp rest
      have unopened := last' last (List.mem_singleton_self last)
      rw [← List.cons_append, ← List.append_assoc, standing_concat, unopened]
      rintro (opened | ⟨-, standing⟩)
      · cases opened
      · exact ih others standing

theorem Fits.obeys {occasions : List Occasion} {session : Session}
    (fits : Fits occasions session) : Obeys occasions session where
  load path? absent := by rw [misuse_load_iff absent, fits.file, latest?_eq_none_iff]
  save path? absent := by rw [misuse_save_iff absent, fits.file, latest?_eq_none_iff]
  isOpen := fits.isOpen
  close := by
    cases opened : session.store.isOpen with
    | false =>
        rw [close_of_closed opened]
        rintro ⟨error, failed⟩
        cases failed
    | true =>
        obtain ⟨file, known⟩ := Option.isSome_iff_exists.mp (fits.file_of_open opened)
        rw [close_of_open opened known]
        exact not_misuse_map (Settings.not_misuse_saveTo _ file session.files) _
  closeOpen opened := by
    obtain ⟨file, known⟩ := Option.isSome_iff_exists.mp (fits.file_of_open opened)
    exact ⟨file, fits.file.symm.trans known, close_of_open opened known⟩
  closeClosed := close_of_closed
  closeAgain := by
    rintro ⟨early, first, late, rfl, closes, rest⟩
    apply close_of_closed
    rw [← Bool.not_eq_true, fits.isOpen]
    exact not_standing_of_closes closes rest

/-- After any operations, a store that began empty obeys its history. The names of the set-ups are
legal; loading and saving may be given any path and may fail. -/
theorem obeys_history (directories? : Option Directories) (files : FileTree)
    (operations : List Operation) (known : ∀ directories ∈ directories?, directories.Legal)
    (possible : files.Legal) (named : ∀ operation ∈ operations, operation.Legal) :
    Obeys (history ⟨.empty directories?, files⟩ operations)
      (after ⟨.empty directories?, files⟩ operations) := by
  have start : Fits [] ⟨.empty directories?, files⟩ :=
    ⟨⟨known, possible⟩, rfl, iff_of_false Bool.false_ne_true not_standing_nil⟩
  exact (fits_history start named).obeys

def blocked : FileTree where
  entries := OrderedMap.ofList [([Path.stored "f"], .file [])]
  workingDirectory := []

/-- A set-up, another one that fails since its directory is a file, and a change. -/
def setUpTwice : List Operation :=
  [.setUp ∅ (some (Path.ofText "d")) "a.conf", .setUp ∅ (some (Path.ofText "f")) "b.conf",
    .edit (.text "web" "port" "1")]

/-- The set-up that failed leaves the store open for the file of the first one. -/
theorem obeys_history_setUpTwice :
    ClosesInto (after ⟨.empty none, blocked⟩ setUpTwice) (Path.ofText "d/a.conf") := by
  have known : ∀ directories ∈ (none : Option Directories), directories.Legal :=
    fun directories impossible => absurd impossible (Option.not_mem_none directories)
  have possible : blocked.Legal := fun name impossible => absurd impossible List.not_mem_nil
  have nothing : Environment.Legal ∅ := fun entry impossible => absurd impossible List.not_mem_nil
  have named : ∀ operation ∈ setUpTwice, operation.Legal := by
    have names : (Path.ofText "d").Legal ∧ (Path.ofText "f").Legal ∧ Text.Legal "a.conf" ∧
        Text.Legal "b.conf" := by decide
    simp [setUpTwice, Operation.Legal, nothing, names]
  have obeys := obeys_history none blocked setUpTwice known possible named
  obtain ⟨file, latest, closes⟩ := obeys.closeOpen (by decide +kernel)
  have first : latest? (history ⟨.empty none, blocked⟩ setUpTwice) =
      some (Path.ofText "d/a.conf") := by decide +kernel
  rw [first] at latest
  rw [Option.some.inj latest]
  exact closes

end Store

end Startup
