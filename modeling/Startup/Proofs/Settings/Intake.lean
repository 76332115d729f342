import Startup.Proofs.Settings.LifeCycle
import Startup.Proofs.Settings.Snapshot

/-!
# Taking settings from a snapshot

In a snapshot, good sections may stand before and after bad ones. A number that is not finite,
wherever it is, stops the reading; after that a section that is no structure of texts stops the
checks. Only a snapshot without such things is taken, and then as a whole. In which order the fields
of its structures come makes no difference to that.
-/

namespace Startup.SnapshotLibrary

variable {library : SnapshotLibrary} {node node' : library.Node}
  {snapshot other : library.Snapshot}

section Errors

variable {fields : List (Text × Value)} {error : SettingsError}

theorem exists_of_textsOf_eq_error {sectionName : Text}
    (failed : Settings.textsOf sectionName fields = .error error) :
    ∃ key value, (key, value) ∈ fields ∧ (∀ content, value ≠ .text content) ∧
      error = .notText sectionName key := by
  induction fields with
  | nil => cases failed
  | cons field rest ih =>
      obtain ⟨key, value⟩ := field
      cases value with
      | text content =>
          rw [Settings.textsOf] at failed
          rcases bind_eq_error_iff.mp failed with later | ⟨_, -, impossible⟩
          · obtain ⟨key', value', inside, other, same⟩ := ih later
            exact ⟨key', value', List.mem_cons_of_mem _ inside, other, same⟩
          · cases impossible
      | _ =>
          cases failed
          exact ⟨key, _, List.mem_cons_self, by simp, rfl⟩

theorem exists_of_sectionsOf_eq_error (failed : Settings.sectionsOf fields = .error error) :
    ∃ name value, (name, value) ∈ fields ∧
      (((∀ inner, value ≠ .record inner) ∧ error = .notStructure name) ∨
        ∃ inner key content, value = .record inner ∧ (key, content) ∈ inner ∧
          (∀ text, content ≠ .text text) ∧ error = .notText name key) := by
  induction fields with
  | nil => cases failed
  | cons field rest ih =>
      obtain ⟨name, value⟩ := field
      cases value with
      | record inner =>
          rw [Settings.sectionsOf] at failed
          rcases bind_eq_error_iff.mp failed with refused | ⟨_, -, later⟩
          · obtain ⟨key, content, inside, other, same⟩ := exists_of_textsOf_eq_error refused
            exact ⟨name, .record inner, List.mem_cons_self,
              .inr ⟨inner, key, content, rfl, inside, other, same⟩⟩
          · rcases bind_eq_error_iff.mp later with later | ⟨_, -, impossible⟩
            · obtain ⟨name', value', inside, defect⟩ := ih later
              exact ⟨name', value', List.mem_cons_of_mem _ inside, defect⟩
            · cases impossible
      | _ =>
          cases failed
          exact ⟨name, _, List.mem_cons_self, .inl ⟨by simp, rfl⟩⟩

end Errors

def AllFinite (snapshot : library.Snapshot) : Prop :=
  ∀ name node x, (library.fields snapshot).get? name = some node → library.Occurs x node →
    x.isFinite = true

/-- What a snapshot is refused for. A number that is not finite comes before everything else. -/
inductive Objection (snapshot : library.Snapshot) : Fault → Prop where
  | notFinite {name : Text} {node : library.Node} {x : Real}
      (found : (library.fields snapshot).get? name = some node) (occurs : library.Occurs x node)
      (infinite : x.isFinite = false) : Objection snapshot (.notFinite x)
  | notStructure {name : Text} {node : library.Node} (finite : AllFinite snapshot)
      (found : (library.fields snapshot).get? name = some node)
      (other : ∀ inner, library.content node ≠ .structure inner) :
      Objection snapshot (.settings (.notStructure name))
  | notText {name key : Text} {node field : library.Node} {inner : library.Snapshot}
      (finite : AllFinite snapshot) (found : (library.fields snapshot).get? name = some node)
      (structured : library.content node = .structure inner)
      (inside : (library.fields inner).get? key = some field)
      (other : ∀ text, library.content field ≠ .text text) :
      Objection snapshot (.settings (.notText name key))

/-- What the checks object to in the record of a snapshot is there in the snapshot. -/
theorem Lawful.objection_of_sectionsOf (lawful : library.Lawful) {record : List (Text × Value)}
    {error : SettingsError} (read : library.toRecord snapshot = .ok record)
    (failed : Settings.sectionsOf record = .error error) :
    Objection snapshot (.settings error) := by
  have finite : AllFinite snapshot := fun _ _ _ found occurs => lawful.finite read found occurs
  obtain ⟨name, value, member, defect⟩ := exists_of_sectionsOf_eq_error failed
  obtain ⟨node, found, reads⟩ := lawful.exists_reads read member
  rcases defect with ⟨other, rfl⟩ | ⟨record, key, content, rfl, within, other, rfl⟩
  · refine .notStructure finite found fun inner structured => ?_
    obtain ⟨record, same, -⟩ := reads.exists_record structured
    exact other record same
  · obtain ⟨inner, structured, recorded⟩ := reads.exists_structure
    obtain ⟨field, inside, reads⟩ := lawful.exists_reads recorded within
    exact .notText finite found structured inside fun text textual =>
      other text (reads.eq_text textual)

/-- A snapshot that is refused is objected to, and the settings stay. -/
theorem Lawful.objection (lawful : library.Lawful) {settings : Settings} {fault : Fault}
    (failed : (settings.loadSnapshot library snapshot).result = .error fault) :
    Objection snapshot fault ∧ (settings.loadSnapshot library snapshot).state = settings := by
  have loads := Settings.loads_loadSnapshot library snapshot settings
  generalize settings.loadSnapshot library snapshot = run at loads failed ⊢
  cases loads with
  | unread unread =>
      cases failed
      obtain ⟨name, node, x, found, occurs, infinite, rfl⟩ := lawful.notFinite unread
      exact ⟨.notFinite found occurs infinite, rfl⟩
  | refused read refused =>
      cases failed
      exact ⟨lawful.objection_of_sectionsOf read refused, rfl⟩
  | taken => cases failed

/-- Whether two nodes hold the same, apart from the order of fields at any depth. -/
inductive Alike : library.Node → library.Node → Prop where
  | absent {node node' : library.Node} (holds : library.content node = .absent)
      (holds' : library.content node' = .absent) : Alike node node'
  | number {node node' : library.Node} {x : Real} (holds : library.content node = .number x)
      (holds' : library.content node' = .number x) : Alike node node'
  | text {node node' : library.Node} {content : Text}
      (holds : library.content node = .text content)
      (holds' : library.content node' = .text content) : Alike node node'
  | truth {node node' : library.Node} {content : Bool}
      (holds : library.content node = .truth content)
      (holds' : library.content node' = .truth content) : Alike node node'
  | sequence {node node' : library.Node} {items items' : List library.Node}
      (holds : library.content node = .sequence items)
      (holds' : library.content node' = .sequence items')
      (inside : List.Forall₂ Alike items items') : Alike node node'
  | structure {node node' : library.Node} {inner inner' : library.Snapshot}
      (holds : library.content node = .structure inner)
      (holds' : library.content node' = .structure inner')
      (inside : ∀ name,
        Option.Rel Alike ((library.fields inner).get? name) ((library.fields inner').get? name)) :
      Alike node node'

/-- Whether two snapshots hold the same, apart from the order of fields at any depth. -/
def Reordered (snapshot other : library.Snapshot) : Prop :=
  ∀ name, Option.Rel Alike ((library.fields snapshot).get? name) ((library.fields other).get? name)

theorem Alike.content_eq_text_iff (alike : Alike node node') {text : Text} :
    library.content node = .text text ↔ library.content node' = .text text := by
  cases alike <;> simp_all

theorem isTexts_iff_of_rel {inner inner' : library.Snapshot} (reordered : Reordered inner inner')
    {texts : OrderedMap Text Text} : library.IsTexts inner texts ↔ library.IsTexts inner' texts := by
  refine forall_congr' fun key => ?_
  have related := reordered key
  generalize (library.fields inner).get? key = field? at related ⊢
  generalize (library.fields inner').get? key = field'? at related ⊢
  cases related with
  | none => rfl
  | some alike =>
      cases texts.get? key with
      | none => simp
      | some text => simpa using alike.content_eq_text_iff

theorem Alike.holdsTexts_iff (alike : Alike node node') {texts : OrderedMap Text Text} :
    library.HoldsTexts node texts ↔ library.HoldsTexts node' texts := by
  cases alike with
  | «structure» holds holds' inside =>
      simp only [HoldsTexts, holds, holds', Content.structure.injEq, exists_eq_left']
      exact isTexts_iff_of_rel inside
  | absent holds holds' | number holds holds' | text holds holds' | truth holds holds'
  | sequence holds holds' => simp [HoldsTexts, holds, holds']

theorem sectioned_iff_of_reordered (reordered : Reordered snapshot other) :
    library.Sectioned snapshot ↔ library.Sectioned other := by
  constructor
  · intro sectioned name node' found'
    have related := reordered name
    rw [found'] at related
    obtain ⟨node, found, alike⟩ := Entries.exists_of_rel_some related
    obtain ⟨texts, holds⟩ := sectioned name node found
    exact ⟨texts, alike.holdsTexts_iff.mp holds⟩
  · intro sectioned name node found
    have related := reordered name
    rw [found] at related
    obtain ⟨node', found', alike⟩ := Entries.exists_of_some_rel related
    obtain ⟨texts, holds⟩ := sectioned name node' found'
    exact ⟨texts, alike.holdsTexts_iff.mpr holds⟩

/-- From snapshots that differ in the order of fields only, settings take the same. -/
theorem Replaced.same_of_reordered {settings loaded loaded' : Settings}
    (replaced : library.Replaced settings snapshot loaded)
    (replaced' : library.Replaced settings other loaded') (reordered : Reordered snapshot other) :
    loaded.Same loaded' := by
  refine .of_rel fun name => ?_
  have related := reordered name
  cases found : (library.fields snapshot).get? name with
  | none =>
      rw [found] at related
      rw [replaced.others name found, replaced'.others name (Entries.eq_none_of_none_rel related)]
      cases OrderedMap.get? settings name with
      | none => exact .none
      | some values => exact .some fun _ => rfl
  | some node =>
      rw [found] at related
      obtain ⟨node', found', alike⟩ := Entries.exists_of_some_rel related
      obtain ⟨values, stored, holds⟩ := replaced.sections name node found
      obtain ⟨values', stored', holds'⟩ := replaced'.sections name node' found'
      rw [stored, stored']
      exact .some (holds.get?_eq (alike.holdsTexts_iff.mpr holds'))

/-- A store takes all the sections of a snapshot or nothing. It takes them exactly if they are
structures of texts: these sections are replaced, keys and all, and every other one stays. If not,
the fault names what is objected to, and the store is the one it was. The order of the fields, at
any depth, makes no difference to that nor to what the settings hold then. -/
theorem loadSnapshot_all_or_nothing {library : SnapshotLibrary} (lawful : library.Lawful)
    (store : Store) (snapshot : library.Snapshot) :
    (library.Sectioned snapshot →
      (store.settings.loadSnapshot library snapshot).result = .ok () ∧
        library.Replaced store.settings snapshot
          ((Store.Edit.snapshot library snapshot).apply store).settings) ∧
      (¬library.Sectioned snapshot → ∃ fault,
        (store.settings.loadSnapshot library snapshot).result = .error fault ∧
          Objection snapshot fault ∧ (Store.Edit.snapshot library snapshot).apply store = store) ∧
      ∀ other, Reordered snapshot other →
        ((store.settings.loadSnapshot library snapshot).result = .ok () ↔
          (store.settings.loadSnapshot library other).result = .ok ()) ∧
        ((store.settings.loadSnapshot library snapshot).result = .ok () →
          ((Store.Edit.snapshot library snapshot).apply store).settings.Same
            ((Store.Edit.snapshot library other).apply store).settings) := by
  refine ⟨fun sectioned => ?_, fun defective => ?_, fun other reordered => ?_⟩
  · have success : (store.settings.loadSnapshot library snapshot).result = .ok () :=
      lawful.loadSnapshot_iff.mpr sectioned
    exact ⟨success, lawful.replaced success⟩
  · cases failed : (store.settings.loadSnapshot library snapshot).result with
    | ok done => exact absurd (lawful.loadSnapshot_iff.mp failed) defective
    | error fault =>
        obtain ⟨objection, kept⟩ := lawful.objection failed
        refine ⟨fault, rfl, objection, ?_⟩
        rw [Store.Edit.apply, kept]
        rfl
  · have iff : (store.settings.loadSnapshot library snapshot).result = .ok () ↔
        (store.settings.loadSnapshot library other).result = .ok () := by
      rw [lawful.loadSnapshot_iff, lawful.loadSnapshot_iff]
      exact sectioned_iff_of_reordered reordered
    refine ⟨iff, fun success => ?_⟩
    exact (lawful.replaced success).same_of_reordered (lawful.replaced (iff.mp success)) reordered

def matched : trees.Snapshot :=
  (trees.update Tree.Fields.empty [("web", .ofTexts [("port", "81"), ("host", "h")]),
    ("ocr", .ofTexts [("mode", "1")])]).1

/-- The same, with the sections and the keys of one of them the other way round. -/
def swapped : trees.Snapshot :=
  (trees.update Tree.Fields.empty [("ocr", .ofTexts [("mode", "1")]),
    ("web", .ofTexts [("host", "h"), ("port", "81")])]).1

def mixed : trees.Snapshot :=
  (trees.update Tree.Fields.empty
    [("ocr", .ofTexts [("mode", "1")]), ("log", .record [("on", .boolean true)])]).1

theorem rel_get?_swap {α β : Type} {related : α → β → Prop} {first second : α} {first' second' : β}
    {key key' : Text} (distinct : key ≠ key') (early : related first first')
    (late : related second second') (name : Text) :
    Option.Rel related (Entries.get? name [(key, first), (key', second)])
      (Entries.get? name [(key', second'), (key, first')]) := by
  simp only [Entries.get?]
  by_cases here : key = name
  · rw [if_pos here, if_neg (here ▸ Ne.symm distinct), if_pos here]
    exact .some early
  · by_cases there : key' = name
    · rw [if_neg here, if_pos there, if_pos there]
      exact .some late
    · rw [if_neg here, if_neg there, if_neg there, if_neg here]
      exact .none

theorem reordered_swapped : Reordered matched swapped := by
  have web : "port" ≠ ("host" : Text) := by decide
  have distinct : "web" ≠ ("ocr" : Text) := by decide
  refine rel_get?_swap distinct (.structure rfl rfl ?_) (.structure rfl rfl ?_)
  · exact rel_get?_swap web (.text rfl rfl) (.text rfl rfl)
  · exact Entries.rel_get? (.cons ⟨rfl, .text rfl rfl⟩ .nil)

theorem loadSnapshot_matched_mixed :
    ((stocked.loadSnapshot trees matched).result = .ok () ∧
      (stocked.loadSnapshot trees swapped).result = .ok () ∧
      (stocked.loadSnapshot trees matched).state.Same (stocked.loadSnapshot trees swapped).state ∧
      OrderedMap.get? (stocked.loadSnapshot trees matched).state "log" =
        OrderedMap.get? stocked "log") ∧
      ∃ fault, (stocked.loadSnapshot trees mixed).result = .error fault ∧
        Objection mixed fault := by
  let store : Store := (Store.empty none).withSettings stocked
  obtain ⟨taken, -, reordering⟩ := loadSnapshot_all_or_nothing Tree.lawful_trees store matched
  obtain ⟨-, refused, -⟩ := loadSnapshot_all_or_nothing Tree.lawful_trees store mixed
  constructor
  · have sectioned : trees.Sectioned matched := by
      intro name node found
      rcases List.mem_cons.mp ((OrderedMap.mem_entries_iff ..).mpr found) with first | second
      · cases first
        exact ⟨OrderedMap.ofList [("port", "81"), ("host", "h")], Tree.holdsTexts_of_eq rfl⟩
      · cases List.mem_singleton.mp second
        exact ⟨OrderedMap.ofList [("mode", "1")], Tree.holdsTexts_of_eq rfl⟩
    obtain ⟨success, replaced⟩ := taken sectioned
    obtain ⟨iff, same⟩ := reordering swapped reordered_swapped
    exact ⟨success, iff.mp success, same success, replaced.others "log" rfl⟩
  · have defective : ¬trees.Sectioned mixed := by
      intro sectioned
      obtain ⟨texts, inner, structured, same⟩ := sectioned "log" _ rfl
      cases structured
      have stored : some (Content.truth true) = (texts.get? "on").map .text := same "on"
      obtain ⟨text, -, impossible⟩ := Option.map_eq_some_iff.mp stored.symm
      cases impossible
    obtain ⟨fault, failed, objection, -⟩ := refused defective
    exact ⟨fault, failed, objection⟩

end Startup.SnapshotLibrary
