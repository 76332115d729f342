import Startup.Proofs.Settings.LifeCycle
import Startup.Proofs.Settings.Saving
import Startup.Proofs.Text.Order

/-!
# One file for each table

The file of a table depends on what the table holds and on nothing else: the order in which sections
and keys came in is forgotten. There is exactly one way to list the sections of a table in strictly
increasing order, each with its entries in strictly increasing order of their keys, and the file
writes down that list.
-/

namespace Startup.Settings

section Sorted

variable {α : Type}

theorem increasing_sorted (map : OrderedMap Text α) : Text.Increasing (sorted map) := by
  have inOrder : (sorted map).Pairwise fun left right => Text.ble left.1 right.1 = true :=
    List.pairwise_mergeSort (fun first second third => Text.ble_trans first.1 second.1 third.1)
      (fun first second => Text.ble_total first.1 second.1) map.entries
  have nodup : ((sorted map).map Prod.fst).Nodup :=
    ((List.mergeSort_perm ..).map Prod.fst).nodup_iff.mpr map.nodup
  have distinct := List.pairwise_map.mp nodup
  exact List.pairwise_map.mpr
    ((inOrder.and distinct).imp fun both => Text.before_of_ble_of_ne both.1 both.2)

theorem mem_sorted_iff_get? (map : OrderedMap Text α) (key : Text) (value : α) :
    (key, value) ∈ sorted map ↔ map.get? key = some value := by
  rw [mem_sorted, OrderedMap.mem_entries_iff]

end Sorted

/-- A list of sections with their entries that holds what a table holds, in strictly increasing
order of the section names and, within a section, of the keys. -/
structure Arranges (groups : List (Text × List (Text × Text))) (settings : Settings) : Prop where
  sections : Text.Increasing groups
  keys : ∀ group ∈ groups, Text.Increasing group.2
  contains_iff : ∀ name, OrderedMap.contains settings name = true ↔
    ∃ entries, (name, entries) ∈ groups
  value?_iff : ∀ name entries, (name, entries) ∈ groups → ∀ key value,
    settings.value? name key = some value ↔ (key, value) ∈ entries

/-- The sections of a table with their entries, as the file has them. -/
def arranged (settings : Settings) : List (Text × List (Text × Text)) :=
  (sorted settings).map fun group => (group.1, sorted group.2)

theorem mem_arranged {settings : Settings} {name : Text} {entries : List (Text × Text)} :
    (name, entries) ∈ settings.arranged ↔
      ∃ group, OrderedMap.get? settings name = some group ∧ sorted group = entries := by
  rw [arranged, List.mem_map]
  constructor
  · rintro ⟨⟨other, group⟩, member, same⟩
    obtain ⟨rfl, rfl⟩ := Prod.mk.inj same
    exact ⟨group, (mem_sorted_iff_get? settings other group).mp member, rfl⟩
  · rintro ⟨group, found, rfl⟩
    exact ⟨(name, group), (mem_sorted_iff_get? settings name group).mpr found, rfl⟩

theorem arranges_arranged (settings : Settings) : Arranges settings.arranged settings where
  sections := by
    rw [Text.Increasing, arranged, List.map_map]
    exact increasing_sorted settings
  keys group member := by
    obtain ⟨values, -, same⟩ := mem_arranged.mp member
    rw [← same]
    exact increasing_sorted values
  contains_iff name := by
    rw [OrderedMap.contains, Option.isSome_iff_exists]
    constructor
    · rintro ⟨group, found⟩
      exact ⟨sorted group, mem_arranged.mpr ⟨group, found, rfl⟩⟩
    · rintro ⟨entries, member⟩
      obtain ⟨group, found, -⟩ := mem_arranged.mp member
      exact ⟨group, found⟩
  value?_iff name entries member key value := by
    obtain ⟨group, found, rfl⟩ := mem_arranged.mp member
    rw [mem_sorted_iff_get?, value?, values, OrderedMap.getD, found, Option.getD_some]

/-- What one list of sections holds is in any other list for the same content. -/
theorem Arranges.mem_of_same {groups others : List (Text × List (Text × Text))}
    {left right : Settings} (arranges : Arranges groups left) (arranges' : Arranges others right)
    (same : left.Same right) {group : Text × List (Text × Text)} (member : group ∈ groups) :
    group ∈ others := by
  obtain ⟨name, entries⟩ := group
  have present : OrderedMap.contains right name = true := by
    rw [← (same name).1, arranges.contains_iff]
    exact ⟨entries, member⟩
  obtain ⟨entries', member'⟩ := (arranges'.contains_iff name).mp present
  have equal : entries = entries' := by
    apply (arranges.keys _ member).eq_of_mem_iff (arranges'.keys _ member')
    rintro ⟨key, value⟩
    rw [← arranges.value?_iff name entries member, (same name).2 key,
      arranges'.value?_iff name entries' member']
  rw [equal]
  exact member'

/-- Tables with the same content are listed in one way. -/
theorem Arranges.unique {groups others : List (Text × List (Text × Text))} {left right : Settings}
    (arranges : Arranges groups left) (arranges' : Arranges others right)
    (same : left.Same right) : groups = others :=
  arranges.sections.eq_of_mem_iff arranges'.sections fun _ =>
    ⟨arranges.mem_of_same arranges' same, arranges'.mem_of_same arranges same.symm⟩

/-- The lines of a section: an empty one, the name in brackets, and one for each entry. -/
def groupLines (group : Text × List (Text × Text)) : List Text :=
  [] :: ("[" ++ group.1 ++ "]") :: group.2.map assignmentLine

/-- The text of a file: the comments at its top and the sections. -/
def fileText (groups : List (Text × List (Text × Text))) : Text :=
  Text.unlines (fileHeader ++ groups.flatMap groupLines)

theorem join_concat_nil (pieces : List Text) :
    Text.join ['\n'] (pieces ++ [[]]) = Text.unlines pieces := by
  induction pieces with
  | nil => rfl
  | cons piece rest ih =>
      cases rest with
      | nil => simp [Text.join, Text.unlines]
      | cons next others =>
          rw [List.cons_append] at ih
          rw [List.cons_append, List.cons_append, Text.join, ih]
          rfl

/-- The empty line that ends a section begins the next one. -/
theorem cons_flatMap_concat {α : Type} (body : α → List Text) (groups : List α) :
    [] :: groups.flatMap (fun group => body group ++ [[]]) =
      groups.flatMap (fun group => [] :: body group) ++ [[]] := by
  induction groups with
  | nil => rfl
  | cons group rest ih =>
      rw [List.flatMap_cons, List.flatMap_cons, List.append_assoc, List.singleton_append, ih]
      simp only [List.cons_append, List.append_assoc]

theorem lines_eq (settings : Settings) :
    settings.lines = fileHeader ++ settings.arranged.flatMap groupLines ++ [[]] := by
  rw [List.append_assoc, arranged, List.flatMap_map, lines]
  exact congrArg (fileHeader ++ ·) (cons_flatMap_concat _ (sorted settings))

/-- The file writes down the table in order. -/
theorem render_eq_fileText (settings : Settings) :
    settings.render = fileText settings.arranged := by
  rw [render, lines_eq, join_concat_nil, fileText]

/-- Whether every section and every entry of a table is one of another table too. -/
def Within (left right : Settings) : Prop :=
  ∀ group ∈ left.entries, OrderedMap.contains right group.1 = true ∧
    ∀ entry ∈ group.2.entries, right.value? group.1 entry.1 = some entry.2

instance (left right : Settings) : Decidable (left.Within right) :=
  inferInstanceAs (Decidable (∀ _ ∈ _, _))

theorem within_iff {left right : Settings} :
    left.Within right ↔
      (∀ name, OrderedMap.contains left name = true → OrderedMap.contains right name = true) ∧
        ∀ name key value, left.value? name key = some value →
          right.value? name key = some value := by
  constructor
  · intro within
    constructor
    · intro name present
      obtain ⟨group, grouped, rfl⟩ := (contains_eq_true_iff left name).mp present
      exact (within group grouped).1
    · intro name key value found
      obtain ⟨group, grouped, inner⟩ := value?_eq_some_iff.mp found
      exact (within _ grouped).2 _ inner
  · rintro ⟨sections, entries⟩ group grouped
    exact ⟨sections _ ((contains_eq_true_iff left _).mpr ⟨group, grouped, rfl⟩),
      fun entry inner => entries group.1 entry.1 entry.2
        (value?_eq_some_iff.mpr ⟨group.2, grouped, inner⟩)⟩

theorem same_iff_within {left right : Settings} :
    left.Same right ↔ left.Within right ∧ right.Within left := by
  rw [within_iff, within_iff]
  constructor
  · intro same
    refine ⟨⟨fun name present => ?_, fun name key value found => ?_⟩,
      fun name present => ?_, fun name key value found => ?_⟩
    · rwa [← (same name).1]
    · rwa [← (same name).2 key]
    · rwa [(same name).1]
    · rwa [(same name).2 key]
  · rintro ⟨⟨sections, entries⟩, sections', entries'⟩ name
    exact ⟨Bool.eq_iff_iff.mpr ⟨sections name, sections' name⟩,
      fun key => Option.ext fun value => ⟨entries name key value, entries' name key value⟩⟩

instance (left right : Settings) : Decidable (left.Same right) :=
  decidable_of_iff _ same_iff_within.symm

theorem saveTo_eq_of_render_eq {left right : Settings} (same : left.render = right.render)
    (target : Path) : left.saveTo target = right.saveTo target := by
  funext tree
  unfold saveTo bytes?
  rw [same]

/-- Two tables with the same content, whatever was done to reach them, are saved alike, and the file
that is written has every section and every entry once, in strictly increasing order. -/
theorem saveTo_canonical {left right : Settings} (same : left.Same right) :
    (∀ target, left.saveTo target = right.saveTo target) ∧
      ∃ groups, Arranges groups left ∧ Arranges groups right ∧
        ∀ target tree, (left.saveTo target tree).result = .ok true →
          ∃ bytes, Utf8.encode? (fileText groups) = some bytes ∧
            (left.saveTo target tree).state.read target = .ok bytes ∧
            (right.saveTo target tree).state.read target = .ok bytes := by
  have equal : left.arranged = right.arranged :=
    (arranges_arranged left).unique (arranges_arranged right) same
  have text : left.render = right.render := by
    rw [render_eq_fileText, render_eq_fileText, equal]
  refine ⟨saveTo_eq_of_render_eq text, left.arranged, arranges_arranged left, ?_, ?_⟩
  · rw [equal]
    exact arranges_arranged right
  · intro target tree saved
    obtain ⟨bytes, encoded, stored⟩ := read_saveTo saved
    rw [bytes?, render_eq_fileText] at encoded
    refine ⟨bytes, encoded, stored, ?_⟩
    rw [← saveTo_eq_of_render_eq text]
    exact stored

/-- The settings after some operations on an empty store without files. -/
def reached (operations : List Store.Operation) : Settings :=
  (Store.after ⟨.empty none, ⟨∅, []⟩⟩ operations).store.settings

/-- The defaults, then a section of its own whose first value is removed and stored again. -/
def defaultsFirst : List Store.Operation :=
  [.edit .reset, .edit (.text "z" "k" "1"), .edit (.text "z" "a" ""), .edit (.remove "z" "k"),
    .edit (.text "z" "k" "\n")]

def defaultsLast : List Store.Operation :=
  [.edit (.text "z" "k" "\n"), .edit (.text "z" "a" ""), .edit .defaults]

theorem saveTo_reached :
    reached defaultsFirst ≠ reached defaultsLast ∧
      ∀ target, (reached defaultsFirst).saveTo target = (reached defaultsLast).saveTo target :=
  ⟨by decide +kernel, (saveTo_canonical (show Same _ _ by decide +kernel)).1⟩

end Startup.Settings
