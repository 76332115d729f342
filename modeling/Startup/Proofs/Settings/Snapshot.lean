import Startup.Proofs.Settings.Content
import Startup.Proofs.Settings.Trees

/-!
# Settings in a snapshot

A snapshot into which settings were saved holds their sections and else what it held before, and
settings that load it get these sections; the loading fails exactly when something else in the
snapshot is no structure of texts.
-/

namespace Startup

/-! ## Entries one by one -/

namespace Entries

variable {κ α β : Type} {related : α → β → Prop} {entries : List (κ × α)} {others : List (κ × β)}

theorem exists_of_rel_some {left : Option α} {right : β}
    (rel : Option.Rel related left (some right)) :
    ∃ value, left = some value ∧ related value right := by
  cases rel with
  | some inside => exact ⟨_, rfl, inside⟩

theorem exists_of_some_rel {left : α} {right : Option β}
    (rel : Option.Rel related (some left) right) :
    ∃ value, right = some value ∧ related left value := by
  cases rel with
  | some inside => exact ⟨_, rfl, inside⟩

theorem eq_none_of_rel {left : Option α} (rel : Option.Rel related left none) : left = none := by
  cases rel
  rfl

theorem eq_none_of_none_rel {right : Option β}
    (rel : Option.Rel related (none : Option α) right) : right = none := by
  cases rel
  rfl

theorem keys_eq_of_forall₂
    (all : List.Forall₂ (fun entry other => entry.1 = other.1 ∧ related entry.2 other.2)
      entries others) : entries.map Prod.fst = others.map Prod.fst := by
  induction all with
  | nil => rfl
  | cons first _ ih => rw [List.map_cons, List.map_cons, first.1, ih]

theorem rel_get? [DecidableEq κ]
    (all : List.Forall₂ (fun entry other => entry.1 = other.1 ∧ related entry.2 other.2)
      entries others) (key : κ) : Option.Rel related (get? key entries) (get? key others) := by
  induction all with
  | nil => exact .none
  | cons first _ ih =>
      rw [get?, get?, first.1]
      split
      · exact .some first.2
      · exact ih

end Entries

namespace Settings

/-! ## Records of texts -/

theorem textsOf_eq_ok_iff {sectionName : Text} {fields : List (Text × Value)}
    {texts : List (Text × Text)} :
    textsOf sectionName fields = .ok texts ↔
      fields = texts.map fun pair => (pair.1, .text pair.2) := by
  induction fields generalizing texts with
  | nil => cases texts <;> simp [textsOf]
  | cons field rest ih =>
      obtain ⟨name, value⟩ := field
      cases value with
      | text content =>
          simp only [textsOf, bind_eq_ok_iff, pure, Except.pure, Except.ok.injEq, ih]
          cases texts with
          | nil => simp
          | cons pair others => simp [Prod.ext_iff, eq_comm, and_comm]
      | _ => cases texts <;> simp [textsOf]

theorem sectionsOf_eq_ok_iff {fields : List (Text × Value)}
    {sections : List (Text × OrderedMap Text Text)} :
    sectionsOf fields = .ok sections ↔
      ∃ groups : List (Text × List (Text × Text)),
        fields = groups.map (fun group => (group.1, Value.ofTexts group.2)) ∧
          sections = groups.map fun group => (group.1, OrderedMap.ofList group.2) := by
  induction fields generalizing sections with
  | nil =>
      rw [sectionsOf, Except.ok.injEq]
      constructor
      · rintro rfl
        exact ⟨[], rfl, rfl⟩
      · rintro ⟨groups, empty, rfl⟩
        rw [List.map_eq_nil_iff.mp empty.symm]
        rfl
  | cons field rest ih =>
      obtain ⟨name, value⟩ := field
      cases value with
      | record fields =>
          simp only [sectionsOf, bind_eq_ok_iff, pure, Except.pure, Except.ok.injEq,
            textsOf_eq_ok_iff, ih]
          constructor
          · rintro ⟨texts, rfl, _, ⟨groups, rfl, rfl⟩, rfl⟩
            exact ⟨(name, texts) :: groups, rfl, rfl⟩
          · rintro ⟨groups, same, rfl⟩
            obtain ⟨⟨_, texts⟩, others, rfl, first, rfl⟩ := List.map_eq_cons_iff.mp same.symm
            cases first
            exact ⟨texts, rfl, _, ⟨others, rfl, rfl⟩, rfl⟩
      | _ =>
          refine iff_of_false (by simp [sectionsOf]) ?_
          rintro ⟨groups, same, -⟩
          obtain ⟨group, others, rfl, first, -⟩ := List.map_eq_cons_iff.mp same.symm
          cases first

/-! ## How loading ends -/

theorem storeSections_eq (sections : List (Text × OrderedMap Text Text)) (settings : Settings) :
    storeSections sections settings = ⟨.ok (), OrderedMap.insertAll settings sections, []⟩ := by
  induction sections generalizing settings with
  | nil => rfl
  | cons group rest ih =>
      simp only [storeSections, Task.bind_apply, Task.andThen, Task.modify, ih, List.append_nil]
      rfl

/-- The ways in which the loading of a snapshot can end. -/
inductive Loads (library : SnapshotLibrary) (snapshot : library.Snapshot) (settings : Settings) :
    Run Settings Unit → Prop where
  | unread {fault : Fault} (unread : library.toRecord snapshot = .error fault) :
      Loads library snapshot settings ⟨.error fault, settings, []⟩
  | refused {record : List (Text × Value)} {error : SettingsError}
      (read : library.toRecord snapshot = .ok record) (refused : sectionsOf record = .error error) :
      Loads library snapshot settings ⟨.error (.settings error), settings, []⟩
  | taken {record : List (Text × Value)} {sections : List (Text × OrderedMap Text Text)}
      (read : library.toRecord snapshot = .ok record) (checked : sectionsOf record = .ok sections) :
      Loads library snapshot settings ⟨.ok (), OrderedMap.insertAll settings sections, []⟩

theorem loads_loadSnapshot (library : SnapshotLibrary) (snapshot : library.Snapshot)
    (settings : Settings) :
    Loads library snapshot settings (loadSnapshot library snapshot settings) := by
  simp only [loadSnapshot, Task.bind_apply, Task.andThen, Task.ofExcept]
  cases read : library.toRecord snapshot with
  | error fault => exact .unread read
  | ok record =>
      cases checked : sectionsOf record with
      | error error =>
          simp only [checked, Except.mapError]
          exact .refused read checked
      | ok sections =>
          simp only [checked, Except.mapError, storeSections_eq, List.append_nil]
          exact .taken read checked

end Settings

namespace SnapshotLibrary

variable {library : SnapshotLibrary} {node : library.Node} {snapshot : library.Snapshot}
  {texts texts' : OrderedMap Text Text} {value : Value} {record : List (Text × Value)}

/-! ## Structures of texts -/

theorem HoldsTexts.get?_eq (holds : library.HoldsTexts node texts)
    (holds' : library.HoldsTexts node texts') (key : Text) : texts.get? key = texts'.get? key := by
  obtain ⟨inner, structured, same⟩ := holds
  obtain ⟨inner', structured', same'⟩ := holds'
  obtain rfl := Content.structure.inj (structured.symm.trans structured')
  have injective : Function.Injective fun text : Text =>
      (Content.text text : Content library.Snapshot library.Node) := fun _ _ => Content.text.inj
  exact Option.map_injective injective ((same key).symm.trans (same' key))

theorem HoldsTexts.not_occurs (holds : library.HoldsTexts node texts) (x : Real) :
    ¬library.Occurs x node := by
  obtain ⟨inner, structured, same⟩ := holds
  intro occurs
  cases occurs with
  | here number => cases structured.symm.trans number
  | item sequenced => cases structured.symm.trans sequenced
  | @field _ field _ name structured' found inside =>
      obtain rfl := Content.structure.inj (structured.symm.trans structured')
      have stored := same name
      rw [found] at stored
      obtain ⟨text, -, textual⟩ := Option.map_eq_some_iff.mp stored.symm
      cases inside with
      | here number => cases textual.trans number
      | item sequenced => cases textual.trans sequenced
      | field structured => cases textual.trans structured

theorem Reads.eq_text {text : Text} (reads : library.Reads node value)
    (textual : library.content node = .text text) : value = .text text := by
  cases reads with
  | text holds =>
      cases textual.symm.trans holds
      rfl
  | absent holds | number holds | truth holds | sequence holds | «structure» holds =>
      cases textual.symm.trans holds

theorem Reads.content_eq {text : Text} (reads : library.Reads node (.text text)) :
    library.content node = .text text := by
  cases reads with
  | text holds => exact holds

theorem Reads.exists_structure (reads : library.Reads node (.record record)) :
    ∃ inner, library.content node = .structure inner ∧ library.toRecord inner = .ok record := by
  cases reads with
  | «structure» holds read => exact ⟨_, holds, read⟩

theorem Reads.exists_record {inner : library.Snapshot} (reads : library.Reads node value)
    (structured : library.content node = .structure inner) :
    ∃ record, value = .record record ∧ library.toRecord inner = .ok record := by
  cases reads with
  | «structure» holds read =>
      cases structured.symm.trans holds
      exact ⟨_, rfl, read⟩
  | absent holds | number holds | text holds | truth holds | sequence holds =>
      cases structured.symm.trans holds

def Sectioned (snapshot : library.Snapshot) : Prop :=
  ∀ name node, (library.fields snapshot).get? name = some node →
    ∃ texts, library.HoldsTexts node texts

/-- What settings hold after they took the sections of a snapshot: its sections with just their keys
and values, and else what they held before. -/
structure Replaced (settings : Settings) (snapshot : library.Snapshot) (loaded : Settings) :
    Prop where
  sections : ∀ name node, (library.fields snapshot).get? name = some node →
    ∃ values, OrderedMap.get? loaded name = some values ∧ library.HoldsTexts node values
  others : ∀ name, (library.fields snapshot).get? name = none →
    OrderedMap.get? loaded name = OrderedMap.get? settings name

section Load

variable (lawful : library.Lawful)

include lawful

/-! ## What is read -/

theorem Lawful.nodup (read : library.toRecord snapshot = .ok record) :
    (record.map Prod.fst).Nodup := by
  rw [← Entries.keys_eq_of_forall₂ (lawful.reads read)]
  exact (library.fields snapshot).nodup

theorem Lawful.rel_get? (read : library.toRecord snapshot = .ok record) (name : Text) :
    Option.Rel library.Reads ((library.fields snapshot).get? name) (Entries.get? name record) :=
  Entries.rel_get? (lawful.reads read) name

theorem Lawful.exists_reads (read : library.toRecord snapshot = .ok record) {name : Text}
    (member : (name, value) ∈ record) :
    ∃ node, (library.fields snapshot).get? name = some node ∧ library.Reads node value := by
  have related := lawful.rel_get? read name
  rw [(Entries.get?_eq_some_iff (lawful.nodup read) name value).mpr member] at related
  exact Entries.exists_of_rel_some related

/-- A record of texts is read from a structure of them. -/
theorem Lawful.holdsTexts {pairs : List (Text × Text)}
    (reads : library.Reads node (.ofTexts pairs)) : library.HoldsTexts node (.ofList pairs) := by
  obtain ⟨inner, structured, read⟩ := reads.exists_structure
  have nodup := lawful.nodup read
  rw [Entries.keys_map] at nodup
  have lookup : ∀ key, (OrderedMap.ofList pairs).get? key = Entries.get? key pairs := by
    intro key
    rw [OrderedMap.get?, OrderedMap.entries_ofList nodup]
  refine ⟨inner, structured, fun key => ?_⟩
  have related := lawful.rel_get? read key
  rw [Entries.get?_map] at related
  rw [lookup]
  cases found : Entries.get? key pairs with
  | none =>
      rw [found] at related
      rw [Entries.eq_none_of_rel related]
      rfl
  | some text =>
      rw [found] at related
      obtain ⟨field, stored, reads⟩ := Entries.exists_of_rel_some related
      rw [stored, Option.map_some, reads.content_eq]
      rfl

/-- From a structure of texts a record of texts is read. -/
theorem Lawful.exists_eq_ofTexts (reads : library.Reads node value)
    (holds : library.HoldsTexts node texts) : ∃ pairs, value = .ofTexts pairs := by
  obtain ⟨inner, structured, same⟩ := holds
  obtain ⟨record, rfl, read⟩ := reads.exists_record structured
  have textual : ∀ key value, (key, value) ∈ record → ∃ text, value = Value.text text := by
    intro key value member
    obtain ⟨field, found, reads⟩ := lawful.exists_reads read member
    have stored := same key
    rw [found] at stored
    obtain ⟨text, -, textual⟩ := Option.map_eq_some_iff.mp stored.symm
    exact ⟨text, reads.eq_text textual.symm⟩
  obtain ⟨pairs, rfl⟩ := Entries.exists_eq_map textual
  exact ⟨pairs, rfl⟩

/-- The sections that pass the checks are the structures in the snapshot, with their texts. -/
theorem Lawful.sections (read : library.toRecord snapshot = .ok record)
    {sections : List (Text × OrderedMap Text Text)}
    (checked : Settings.sectionsOf record = .ok sections) :
    (sections.map Prod.fst).Nodup ∧
      ∀ name, Option.Rel library.HoldsTexts ((library.fields snapshot).get? name)
        (Entries.get? name sections) := by
  obtain ⟨groups, rfl, rfl⟩ := Settings.sectionsOf_eq_ok_iff.mp checked
  have nodup := lawful.nodup read
  rw [Entries.keys_map] at nodup
  refine ⟨by rwa [Entries.keys_map], fun name => ?_⟩
  have related := lawful.rel_get? read name
  rw [Entries.get?_map] at related ⊢
  cases found : Entries.get? name groups with
  | none =>
      rw [found] at related
      rw [Entries.eq_none_of_rel related]
      exact .none
  | some pairs =>
      rw [found] at related
      obtain ⟨node, stored, reads⟩ := Entries.exists_of_rel_some related
      rw [stored]
      exact .some (lawful.holdsTexts reads)

theorem Lawful.exists_sectionsOf (sectioned : library.Sectioned snapshot)
    (read : library.toRecord snapshot = .ok record) :
    ∃ sections, Settings.sectionsOf record = .ok sections := by
  have grouped : ∀ name value, (name, value) ∈ record → ∃ pairs, value = Value.ofTexts pairs := by
    intro name value member
    obtain ⟨node, found, reads⟩ := lawful.exists_reads read member
    obtain ⟨texts, holds⟩ := sectioned name node found
    exact lawful.exists_eq_ofTexts reads holds
  obtain ⟨groups, same⟩ := Entries.exists_eq_map grouped
  exact ⟨_, Settings.sectionsOf_eq_ok_iff.mpr ⟨groups, same, rfl⟩⟩

/-- No number stands in the way of reading structures of texts. -/
theorem Lawful.exists_toRecord (sectioned : library.Sectioned snapshot) :
    ∃ record, library.toRecord snapshot = .ok record := by
  cases read : library.toRecord snapshot with
  | ok record => exact ⟨record, rfl⟩
  | error fault =>
      obtain ⟨name, node, x, found, occurs, -⟩ := lawful.notFinite read
      obtain ⟨texts, holds⟩ := sectioned name node found
      exact absurd occurs (holds.not_occurs x)

/-! ## Loading a snapshot -/

theorem Lawful.replaced {settings : Settings}
    (success : (settings.loadSnapshot library snapshot).result = .ok ()) :
    library.Replaced settings snapshot (settings.loadSnapshot library snapshot).state := by
  have loads := Settings.loads_loadSnapshot library snapshot settings
  generalize settings.loadSnapshot library snapshot = run at loads success ⊢
  cases loads with
  | unread | refused => cases success
  | @taken record sections read checked =>
      obtain ⟨nodup, related⟩ := lawful.sections read checked
      have lookup : ∀ name, OrderedMap.get? (OrderedMap.insertAll settings sections) name =
          (Entries.get? name sections).or (OrderedMap.get? settings name) :=
        OrderedMap.get?_insertAll nodup
      constructor
      · intro name node found
        have rel := related name
        rw [found] at rel
        obtain ⟨values, stored, holds⟩ := Entries.exists_of_some_rel rel
        exact ⟨values, by rw [lookup, stored, Option.some_or], holds⟩
      · intro name absent
        have rel := related name
        rw [absent] at rel
        rw [lookup, Entries.eq_none_of_none_rel rel, Option.none_or]

/-- Settings are loaded from a snapshot exactly when it holds structures of texts only. -/
theorem Lawful.loadSnapshot_iff {settings : Settings} :
    (settings.loadSnapshot library snapshot).result = .ok () ↔ library.Sectioned snapshot := by
  constructor
  · intro success name node found
    obtain ⟨values, -, holds⟩ := (lawful.replaced success).sections name node found
    exact ⟨values, holds⟩
  · intro sectioned
    obtain ⟨record, read⟩ := lawful.exists_toRecord sectioned
    obtain ⟨sections, checked⟩ := lawful.exists_sectionsOf sectioned read
    have loads := Settings.loads_loadSnapshot library snapshot settings
    generalize settings.loadSnapshot library snapshot = run at loads ⊢
    cases loads with
    | unread unread => cases read.symm.trans unread
    | refused read' refused =>
        obtain rfl := Except.ok.inj (read.symm.trans read')
        cases checked.symm.trans refused
    | taken => rfl

end Load

/-! ## Saving into a snapshot -/

/-- What a snapshot holds after settings were saved into it: each section as the structure of its
texts, and else what it held before. -/
structure Holds (settings : Settings) (before saved : library.Snapshot) : Prop where
  sections : ∀ name values, OrderedMap.get? settings name = some values →
    ∃ node, (library.fields saved).get? name = some node ∧ library.HoldsTexts node values
  others : ∀ name, OrderedMap.get? settings name = none →
    (library.fields saved).get? name = (library.fields before).get? name

/-- What settings hold after they loaded such a snapshot: the sections that were saved, the other
structures of the snapshot, and else what they held before. -/
structure Takes (settings : Settings) (before : library.Snapshot) (target loaded : Settings) :
    Prop where
  sections : ∀ name values, OrderedMap.get? settings name = some values →
    ∃ values', OrderedMap.get? loaded name = some values' ∧
      ∀ key, values'.get? key = values.get? key
  others : ∀ name node, OrderedMap.get? settings name = none →
    (library.fields before).get? name = some node →
      ∃ values, OrderedMap.get? loaded name = some values ∧ library.HoldsTexts node values
  remaining : ∀ name, OrderedMap.get? settings name = none →
    (library.fields before).get? name = none →
      OrderedMap.get? loaded name = OrderedMap.get? target name

section Save

variable (lawful : library.Lawful)

include lawful

/-- Records of texts under distinct names are stored one after the other. -/
theorem Lawful.exists_update {groups : List (Text × OrderedMap Text Text)}
    (nodup : (groups.map Prod.fst).Nodup)
    (plain : ∀ group ∈ groups, Utf8.Plain group.1 ∧
      ∀ pair ∈ group.2.entries, Utf8.Plain pair.1 ∧ Utf8.Plain pair.2)
    (before : library.Snapshot) :
    ∃ saved, library.update before
        (groups.map fun group => (group.1, .ofTexts group.2.entries)) = (saved, none) ∧
      (∀ name values, Entries.get? name groups = some values →
        ∃ node, (library.fields saved).get? name = some node ∧ library.HoldsTexts node values) ∧
      ∀ name, Entries.get? name groups = none →
        (library.fields saved).get? name = (library.fields before).get? name := by
  induction groups generalizing before with
  | nil => exact ⟨before, lawful.update_nil before, by simp [Entries.get?], fun _ _ => rfl⟩
  | cons group rest ih =>
      obtain ⟨name, values⟩ := group
      rw [List.map_cons, List.nodup_cons] at nodup
      obtain ⟨⟨plainName, plainTexts⟩, plainRest⟩ := List.forall_mem_cons.mp plain
      obtain ⟨next, node, updated, stored, holds, kept⟩ :=
        lawful.update_texts before name values plainName plainTexts
      obtain ⟨saved, continued, sections, others⟩ := ih nodup.2 plainRest next
      refine ⟨saved, ?_, ?_, ?_⟩
      · exact (lawful.update_cons before _ _ next updated).trans continued
      · intro other values' found
        rw [Entries.get?] at found
        split at found
        next same =>
          cases found
          refine ⟨node, ?_, holds⟩
          rw [← same, others _ ((Entries.get?_eq_none_iff name rest).mpr nodup.1)]
          exact stored
        next => exact sections other values' found
      · intro other absent
        rw [Entries.get?] at absent
        split at absent
        next => cases absent
        next distinct => exact (others other absent).trans (kept other (Ne.symm distinct))

theorem Lawful.exists_saveSnapshot {settings : Settings} (plain : settings.AllTexts Utf8.Plain)
    (before : library.Snapshot) :
    ∃ saved, settings.saveSnapshot library before = (saved, none) ∧
      library.Holds settings before saved := by
  obtain ⟨saved, updated, sections, others⟩ := lawful.exists_update settings.nodup plain before
  exact ⟨saved, updated, sections, others⟩

/-! ## Saving, then loading -/

section Round

variable {settings : Settings} {before saved : library.Snapshot}
  (holds : library.Holds settings before saved)

include holds

/-- What was saved never stands in the way of loading. -/
theorem Lawful.loadSnapshot_iff_others (target : Settings) :
    (target.loadSnapshot library saved).result = .ok () ↔
      ∀ name node, OrderedMap.get? settings name = none →
        (library.fields before).get? name = some node →
          ∃ texts, library.HoldsTexts node texts := by
  rw [lawful.loadSnapshot_iff]
  constructor
  · intro sectioned name node absent found
    exact sectioned name node ((holds.others name absent).trans found)
  · intro others name node found
    cases stored : OrderedMap.get? settings name with
    | some values =>
        obtain ⟨node', found', textual⟩ := holds.sections name values stored
        obtain rfl := Option.some.inj (found.symm.trans found')
        exact ⟨values, textual⟩
    | none => exact others name node stored ((holds.others name stored).symm.trans found)

theorem Lawful.takes {target : Settings}
    (success : (target.loadSnapshot library saved).result = .ok ()) :
    library.Takes settings before target (target.loadSnapshot library saved).state := by
  have replaced := lawful.replaced success
  constructor
  · intro name values stored
    obtain ⟨node, found, textual⟩ := holds.sections name values stored
    obtain ⟨values', loaded, textual'⟩ := replaced.sections name node found
    exact ⟨values', loaded, textual'.get?_eq textual⟩
  · intro name node absent found
    exact replaced.sections name node ((holds.others name absent).trans found)
  · intro name absent missing
    exact replaced.others name ((holds.others name absent).trans missing)

end Round

end Save

/-- Settings without surrogates can be saved into every snapshot, which then holds their sections in
place of what it held under their names. Other settings can load it exactly when all else in it are
structures of texts, and then they have all these sections, and keep only what is under other names.
Through an empty snapshot, empty settings become the ones that were saved. -/
theorem loadSnapshot_saveSnapshot {library : SnapshotLibrary} (lawful : library.Lawful)
    {settings : Settings} (plain : settings.AllTexts Utf8.Plain) (before : library.Snapshot)
    (target : Settings) :
    ∃ saved, settings.saveSnapshot library before = (saved, none) ∧
      library.Holds settings before saved ∧
      ((target.loadSnapshot library saved).result = .ok () ↔
        ∀ name node, OrderedMap.get? settings name = none →
          (library.fields before).get? name = some node →
            ∃ texts, library.HoldsTexts node texts) ∧
      ((target.loadSnapshot library saved).result = .ok () →
        library.Takes settings before target (target.loadSnapshot library saved).state) ∧
      (library.fields before = ∅ → target = ∅ →
        (target.loadSnapshot library saved).result = .ok () ∧
          (target.loadSnapshot library saved).state.Same settings) := by
  obtain ⟨saved, updated, holds⟩ := lawful.exists_saveSnapshot plain before
  have loads := lawful.loadSnapshot_iff_others holds target
  have takes : (target.loadSnapshot library saved).result = .ok () →
      library.Takes settings before target (target.loadSnapshot library saved).state :=
    lawful.takes holds
  refine ⟨saved, updated, holds, loads, takes, ?_⟩
  intro empty blank
  have missing : ∀ name, (library.fields before).get? name = none := by
    intro name
    rw [empty]
    rfl
  have success : (target.loadSnapshot library saved).result = .ok () := by
    refine loads.mpr fun name node _ found => ?_
    cases (missing name).symm.trans found
  refine ⟨success, .of_rel fun name => ?_⟩
  cases stored : OrderedMap.get? settings name with
  | none =>
      rw [(takes success).remaining name stored (missing name), blank]
      exact .none
  | some values =>
      obtain ⟨values', loaded, same⟩ := (takes success).sections name values stored
      rw [loaded]
      exact .some same

/-- Settings with an empty section, a section without a name, and an empty text. -/
def sparse : Settings :=
  OrderedMap.ofList
    [("web", OrderedMap.ofList [("port", "81")]), ([], OrderedMap.ofList [([], [])]), ("log", ∅)]

/-- A snapshot that was used before, with two of these sections and another one. -/
def used : trees.Snapshot :=
  (trees.update Tree.Fields.empty
    [("web", .ofTexts [("port", "80"), ("host", "h")]), ("log", .boolean true),
      ("ocr", .ofTexts [("mode", "1")])]).1

def stocked : Settings :=
  OrderedMap.ofList
    [("log", OrderedMap.ofList [("level", "info")]), ("ocr", OrderedMap.ofList [("gpu", "true")]),
      ("ai", ∅)]

theorem loadSnapshot_used :
    ∃ saved, sparse.saveSnapshot trees used = (saved, none) ∧
      (stocked.loadSnapshot trees saved).result = .ok () ∧
      trees.Takes sparse used stocked (stocked.loadSnapshot trees saved).state := by
  have plain : sparse.AllTexts Utf8.Plain := by decide
  obtain ⟨saved, written, -, loadable, takes, -⟩ :=
    loadSnapshot_saveSnapshot Tree.lawful_trees plain used stocked
  have others : ∀ name node, OrderedMap.get? sparse name = none →
      (trees.fields used).get? name = some node → ∃ texts, trees.HoldsTexts node texts := by
    intro name node absent found
    rcases List.mem_cons.mp ((OrderedMap.mem_entries_iff ..).mpr found) with same | member
    · cases same
      exact absurd absent (by decide)
    rcases List.mem_cons.mp member with same | member
    · cases same
      exact absurd absent (by decide)
    · cases List.mem_singleton.mp member
      exact ⟨OrderedMap.ofList [("mode", "1")], Tree.holdsTexts_of_eq rfl⟩
  have success := loadable.mpr others
  exact ⟨saved, written, success, takes success⟩

end SnapshotLibrary

end Startup
