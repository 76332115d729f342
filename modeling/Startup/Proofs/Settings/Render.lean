import Startup.Proofs.Settings.Size
import Startup.Proofs.Text.Pieces

/-!
# The file that is written for a table

The comments and the empty lines of the file are skipped, so a section gives its header and one line
for each entry. When every entry is legible, loading the file stores each entry with what its line
keeps of the value, and nothing else. In general the lines add no more than the entries hold.
-/

namespace Startup.Settings

theorem mem_sorted {α : Type} {map : OrderedMap Text α} {entry : Text × α} :
    entry ∈ sorted map ↔ entry ∈ map.entries :=
  List.mem_mergeSort

/-- What the lines of the file are. -/
theorem mem_lines_cases {settings : Settings} {line : Text} (member : line ∈ settings.lines) :
    line ∈ fileHeader ∨ line = [] ∨ (∃ group ∈ settings.entries, line = "[" ++ group.1 ++ "]") ∨
      ∃ group ∈ settings.entries, ∃ entry ∈ group.2.entries, line = assignmentLine entry := by
  rcases List.mem_append.mp member with header | rest
  · exact Or.inl header
  rcases List.mem_cons.mp rest with empty | inSections
  · exact Or.inr (Or.inl empty)
  obtain ⟨group, grouped, inGroup⟩ := List.mem_flatMap.mp inSections
  have grouped := mem_sorted.mp grouped
  rw [sectionLines, List.cons_append, List.mem_cons, List.mem_append, List.mem_singleton] at inGroup
  rcases inGroup with opened | assigned | empty
  · exact Or.inr (Or.inr (Or.inl ⟨group, grouped, opened⟩))
  · obtain ⟨entry, inner, same⟩ := List.mem_map.mp assigned
    exact Or.inr (Or.inr (Or.inr ⟨group, grouped, entry, mem_sorted.mp inner, same.symm⟩))
  · exact Or.inr (Or.inl empty)

def OnLines : Settings → Prop :=
  Everywhere OnLine fun key _ => OnLine key

theorem onLine_of_mem_lines {settings : Settings} (onLines : settings.OnLines) {line : Text}
    (member : line ∈ settings.lines) : OnLine line := by
  have comments : ∀ comment ∈ fileHeader, OnLine comment := by decide
  rcases mem_lines_cases member with header | rfl | ⟨group, grouped, rfl⟩ |
    ⟨group, grouped, ⟨key, value⟩, inner, rfl⟩
  · exact comments line header
  · exact List.not_mem_nil
  · have name : OnLine group.1 := (onLines group grouped).1
    unfold OnLine at name ⊢
    simp only [List.mem_append, not_or]
    exact ⟨⟨by decide, name⟩, by decide⟩
  · have keyOnLine : OnLine key := (onLines group grouped).2 _ inner
    have valueOnLine := newline_notMem_escape value
    unfold OnLine at keyOnLine ⊢
    rw [assignmentLine_eq]
    simp only [List.mem_append, List.mem_cons, not_or]
    exact ⟨keyOnLine, by decide, by decide, by decide, valueOnLine⟩

/-- Splitting the file gives the lines that were written. -/
theorem split_render {settings : Settings} (onLines : settings.OnLines) :
    Text.split '\n' settings.render = settings.lines :=
  Text.split_join (by simp [lines]) fun _ member => onLine_of_mem_lines onLines member

/-- How the lines of a section are read. -/
theorem map_read_sectionLines (group : Text × OrderedMap Text Text) :
    (sectionLines group).map Line.read =
      .header group.1 :: (sorted group.2).map (fun entry => Line.read (assignmentLine entry)) ++
        [.skipped] := by
  rw [sectionLines, List.map_append, List.map_cons, read_headerLine, List.map_map]
  rfl

/-- How the lines of the file are read. -/
theorem map_read_lines (settings : Settings) :
    settings.lines.map Line.read =
      .skipped :: .skipped :: .skipped ::
        (sorted settings).flatMap fun group => (sectionLines group).map Line.read := by
  have comments : fileHeader.map Line.read = [.skipped, .skipped] := by decide
  have empty : Line.read [] = .skipped := rfl
  rw [lines, List.map_append, comments, List.map_cons, empty, List.map_flatMap]
  rfl

theorem effects_render_eq {settings : Settings} (onLines : settings.OnLines) :
    effects settings.render =
      effectsFrom []
        ((sorted settings).flatMap fun group => (sectionLines group).map Line.read) := by
  rw [effects, split_render onLines, map_read_lines]
  rfl

/-- A table of which a file keeps every section and entry. -/
def Legible : Settings → Prop :=
  Everywhere OnLine LegibleEntry

theorem Legible.onLines {settings : Settings} (legible : settings.Legible) : settings.OnLines :=
  Everywhere.imp legible (fun _ name => name) fun _ _ entry => entry.plainKey.newline

def groupEffects (group : Text × OrderedMap Text Text) : List Effect :=
  .opened group.1 ::
    (sorted group.2).map fun entry => .stored group.1 entry.1 (keptValue entry.2)

theorem effectsFrom_assignmentLines {name : Text} {entries : List (Text × Text)}
    (legible : ∀ entry ∈ entries, LegibleEntry entry.1 entry.2) (rest : List Line) :
    effectsFrom name (entries.map (fun entry => Line.read (assignmentLine entry)) ++ rest) =
      entries.map (fun entry => .stored name entry.1 (keptValue entry.2)) ++
        effectsFrom name rest := by
  induction entries with
  | nil => rfl
  | cons entry others ih =>
      obtain ⟨here, there⟩ := List.forall_mem_cons.mp legible
      rw [List.map_cons, List.cons_append, here.read_assignmentLine, effectsFrom]
      simp only [if_true, unescape_escape, ih there, List.map_cons, List.cons_append]

/-- No value reaches beyond its own entry: the section at hand is always the one that was opened. -/
theorem effects_render {settings : Settings} (legible : settings.Legible) :
    effects settings.render = (sorted settings).flatMap groupEffects := by
  have entries : ∀ group ∈ sorted settings, ∀ entry ∈ sorted group.2,
      LegibleEntry entry.1 entry.2 := fun group grouped entry inner =>
    (legible group (mem_sorted.mp grouped)).2 entry (mem_sorted.mp inner)
  rw [effects_render_eq legible.onLines]
  -- The section at hand before a header does not matter.
  generalize ([] : Text) = current
  generalize sorted settings = groups at entries
  induction groups generalizing current with
  | nil => rfl
  | cons group others ih =>
      obtain ⟨here, there⟩ := List.forall_mem_cons.mp entries
      rw [List.flatMap_cons, map_read_sectionLines, List.cons_append, List.cons_append,
        effectsFrom, List.append_assoc, effectsFrom_assignmentLines here, List.singleton_append,
        effectsFrom, ih _ there]
      rfl

theorem sectionName_mem_groupEffects {groups : List (Text × OrderedMap Text Text)} {name : Text} :
    (∃ effect ∈ groups.flatMap groupEffects, effect.sectionName = name) ↔
      ∃ group ∈ groups, group.1 = name := by
  constructor
  · rintro ⟨effect, member, rfl⟩
    obtain ⟨group, grouped, inner⟩ := List.mem_flatMap.mp member
    refine ⟨group, grouped, ?_⟩
    rcases List.mem_cons.mp inner with rfl | assigned
    · rfl
    · obtain ⟨entry, -, rfl⟩ := List.mem_map.mp assigned
      rfl
  · rintro ⟨group, grouped, rfl⟩
    exact ⟨.opened group.1, List.mem_flatMap.mpr ⟨group, grouped, List.mem_cons_self⟩, rfl⟩

theorem stored_mem_groupEffects {settings : Settings} {name key value : Text} :
    .stored name key value ∈ (sorted settings).flatMap groupEffects ↔
      (settings.value? name key).map keptValue = some value := by
  rw [List.mem_flatMap, Option.map_eq_some_iff]
  constructor
  · rintro ⟨group, grouped, inner⟩
    rcases List.mem_cons.mp inner with impossible | assigned
    · cases impossible
    · obtain ⟨entry, member, same⟩ := List.mem_map.mp assigned
      cases same
      exact ⟨entry.2, value?_eq_some_iff.mpr ⟨group.2, mem_sorted.mp grouped, mem_sorted.mp member⟩,
        rfl⟩
  · rintro ⟨whole, found, rfl⟩
    obtain ⟨group, grouped, member⟩ := value?_eq_some_iff.mp found
    exact ⟨(name, group), mem_sorted.mpr grouped, List.mem_cons_of_mem _
      (List.mem_map.mpr ⟨(key, whole), mem_sorted.mpr member, rfl⟩)⟩

/-- A legible table comes back with its sections. -/
theorem contains_load_render {settings : Settings} (legible : settings.Legible) (name : Text) :
    OrderedMap.contains (load ∅ settings.render) name = OrderedMap.contains settings name := by
  rw [Bool.eq_iff_iff, load_eq_applyAll, contains_applyAll, effects_render legible,
    sectionName_mem_groupEffects, contains_eq_true_iff settings]
  simp only [mem_sorted]
  exact or_iff_left Bool.false_ne_true

/-- A legible table comes back with its keys, and with what the lines keep of the values. -/
theorem value?_load_render {settings : Settings} (legible : settings.Legible) (name key : Text) :
    (load ∅ settings.render).value? name key = (settings.value? name key).map keptValue := by
  rw [load_eq_applyAll, value?_applyAll, effects_render legible, value?_empty, Option.or_none]
  exact lastValue?_eq_of_mem_iff fun _ => stored_mem_groupEffects

def written (settings : Settings) : List (Text × Text × Text) :=
  (sorted settings).flatMap fun group =>
    (sorted group.2).map fun entry => (group.1, entry.1, entry.2)

theorem written_perm (settings : Settings) : settings.written.Perm settings.triples :=
  (List.mergeSort_perm ..).flatMap fun _ _ => (List.mergeSort_perm ..).map _

/-- The lines of the file add what the lines for the single entries add. -/
theorem sum_weight_lines (settings : Settings) :
    ((settings.lines.map Line.read).map Line.weight).sum =
      (settings.triples.map fun triple => (Line.read (assignmentLine triple.2)).weight).sum := by
  rw [← (settings.written_perm.map _).sum_eq, map_read_lines, written]
  simp only [List.map_cons, List.sum_cons, Line.weight, Nat.zero_add]
  induction sorted settings with
  | nil => rfl
  | cons group others ih =>
      rw [List.flatMap_cons, List.flatMap_cons, List.map_append, List.map_append, List.sum_append,
        List.sum_append, ih, map_read_sectionLines]
      simp [Line.weight, Function.comp_def]

/-- A table comes back smaller unless each of its entries can be read back. -/
theorem plainEntry_or_size_lt {settings : Settings}
    (free : settings.Everywhere OnLine fun key _ => OnLine key ∧ CodePoint.ofChar '=' ∉ key) :
    settings.Everywhere OnLine PlainEntry ∨ (load ∅ settings.render).size < settings.size := by
  have onLines : settings.OnLines := free.imp (fun _ name => name) fun _ _ key => key.1
  have each : ∀ triple ∈ settings.triples, PlainEntry triple.2.1 triple.2.2 ∨
      (Line.read (assignmentLine triple.2)).weight < entryWeight triple.2.1 triple.2.2 := by
    rintro ⟨name, key, value⟩ member
    obtain ⟨newline, equals⟩ := (everywhere_iff.mp free).2 name key value (mem_triples.mp member)
    exact plainEntry_or_weight_lt newline equals value
  by_cases plain : ∀ triple ∈ settings.triples, PlainEntry triple.2.1 triple.2.2
  · left
    exact everywhere_iff.mpr ⟨(everywhere_iff.mp free).1,
      fun name key value found => plain (name, key, value) (mem_triples.mpr found)⟩
  · right
    push Not at plain
    obtain ⟨lost, member, notPlain⟩ := plain
    have loaded : (load ∅ settings.render).size ≤
        (settings.triples.map fun triple => (Line.read (assignmentLine triple.2)).weight).sum := by
      rw [← sum_weight_lines, ← split_render onLines, ← sum_weight_effectsFrom [], load_eq_applyAll]
      exact size_applyAll_le _
    have less := (each lost member).resolve_left notPlain
    refine loaded.trans_lt (List.sum_lt_sum _ (fun triple => entryWeight triple.2.1 triple.2.2)
      (fun triple inside => ?_) ⟨lost, member, less⟩)
    rcases each triple inside with whole | less
    · rw [whole.legibleEntry.read_assignmentLine, Line.weight, unescape_escape,
        whole.plainValue.keptValue]
    · exact less.le

end Startup.Settings
