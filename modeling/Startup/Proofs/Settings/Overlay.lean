import Startup.Proofs.OrderedMap
import Startup.Proofs.Settings.Assignments
import Startup.Proofs.Settings.SettingUp
import Startup.Proofs.Text.Pieces
import Startup.Proofs.Text.Stable

/-!
# Files laid over settings

Loading a file is laying the table of the file over the settings: nothing that the settings hold has
an influence on what a line means, and nothing is removed. So a file in two parts is loaded by
loading one part after the other, as long as the second part does not begin in a section that the
first one has left open. The lines that are invalid are those of both parts.
-/

namespace Startup.Settings

/-- The table with a section added, and with all values of that section stored. -/
def lay (lower : Settings) (group : Text × OrderedMap Text Text) : Settings :=
  group.2.entries.foldl (fun settings entry => settings.store group.1 entry.1 entry.2)
    (lower.addSection group.1)

def overlay (lower upper : Settings) : Settings :=
  upper.entries.foldl lay lower

/-- The values of a section that is laid over one that may be missing. -/
def layered (below : Option (OrderedMap Text Text)) (values : OrderedMap Text Text) :
    OrderedMap Text Text :=
  (below.getD ∅).insertAll values.entries

/-- A section that is added holds what it held before. -/
theorem addSection_eq (settings : Settings) (name : Text) :
    settings.addSection name = OrderedMap.insert settings name (settings.values name) := by
  unfold addSection OrderedMap.insertIfNew OrderedMap.contains values OrderedMap.getD
  cases found : OrderedMap.get? settings name with
  | none => rfl
  | some values => exact (OrderedMap.insert_of_get? found).symm

theorem lay_eq (lower : Settings) (group : Text × OrderedMap Text Text) :
    lower.lay group =
      OrderedMap.insert lower group.1 ((lower.values group.1).insertAll group.2.entries) := by
  rw [lay, addSection_eq]
  generalize lower.values group.1 = values
  induction group.2.entries generalizing values with
  | nil => rfl
  | cons entry rest ih =>
      have stored : store (OrderedMap.insert lower group.1 values) group.1 entry.1 entry.2 =
          OrderedMap.insert lower group.1 (values.insert entry.1 entry.2) := by
        rw [store, Settings.values, OrderedMap.getD, OrderedMap.get?_insert, if_pos rfl,
          OrderedMap.insert_insert_self]
        rfl
      rw [List.foldl_cons, stored, ih]
      rfl

theorem overlay_eq (lower upper : Settings) :
    lower.overlay upper = OrderedMap.combineAll layered lower upper.entries :=
  congrArg (fun put => upper.entries.foldl put lower) (funext₂ lay_eq)

theorem get?_overlay (lower upper : Settings) (name : Text) :
    OrderedMap.get? (lower.overlay upper) name =
      ((OrderedMap.get? upper name).map (layered (OrderedMap.get? lower name))).or
        (OrderedMap.get? lower name) := by
  rw [overlay_eq, OrderedMap.get?_combineAll layered upper.nodup]
  rfl

theorem values_overlay (lower upper : Settings) (name : Text) :
    (lower.overlay upper).values name =
      (lower.values name).insertAll (upper.values name).entries := by
  simp only [values, OrderedMap.getD, get?_overlay]
  cases OrderedMap.get? upper name <;> rfl

/-- Laying the same table over the settings again changes nothing. -/
theorem overlay_overlay_self (lower upper : Settings) :
    (lower.overlay upper).overlay upper = lower.overlay upper := by
  rw [overlay_eq (lower.overlay upper)]
  refine OrderedMap.combineAll_of_absorbed layered fun group member => ?_
  refine ⟨layered (OrderedMap.get? lower group.1) group.2, ?_,
    OrderedMap.insertAll_insertAll_self _ group.2⟩
  rw [get?_overlay, (OrderedMap.mem_entries_iff upper group.1 group.2).mp member]
  rfl

def Effect.change (values : OrderedMap Text Text) : Effect → OrderedMap Text Text
  | opened _ => values
  | stored _ key value => values.insert key value

theorem Effect.apply_eq (settings : Settings) (effect : Effect) :
    effect.apply settings = OrderedMap.insert settings effect.sectionName
      (effect.change (settings.values effect.sectionName)) := by
  cases effect with
  | opened name => exact addSection_eq settings name
  | stored name key value => rfl

theorem Effect.insertAll_change (below above : OrderedMap Text Text) (effect : Effect) :
    below.insertAll (effect.change above).entries =
      effect.change (below.insertAll above.entries) := by
  cases effect with
  | opened name => rfl
  | stored name key value => exact OrderedMap.insertAll_insert below above key value

/-- An effect on the upper table is one on the whole. -/
theorem overlay_apply (lower upper : Settings) (effect : Effect) :
    lower.overlay (effect.apply upper) = effect.apply (lower.overlay upper) := by
  rw [Effect.apply_eq, Effect.apply_eq, values_overlay, ← Effect.insertAll_change, overlay_eq,
    overlay_eq]
  exact OrderedMap.combineAll_insert layered lower effect.sectionName _ upper.nodup

theorem overlay_applyAll (lower upper : Settings) (effects : List Effect) :
    lower.overlay (upper.applyAll effects) = (lower.overlay upper).applyAll effects := by
  induction effects generalizing upper with
  | nil => rfl
  | cons effect rest ih =>
      rw [applyAll, List.foldl_cons, ← applyAll, ih, overlay_apply]
      rfl

/-- Loading a file is laying over the settings what the file makes of none. -/
theorem load_eq_overlay (settings : Settings) (content : Text) :
    settings.load content = settings.overlay (load ∅ content) := by
  rw [load_eq_applyAll, load_eq_applyAll, overlay_applyAll]
  rfl

def Line.isEffective : Line → Bool
  | header _ => true
  | assignment _ => true
  | _ => false

def NamesFirst (lines : List Line) : Prop :=
  ∀ line ∈ lines.find? Line.isEffective, line.section?.isSome = true

instance (lines : List Line) : Decidable (NamesFirst lines) :=
  inferInstanceAs (Decidable (∀ _ ∈ _, _))

theorem current_foldl_step (lines : List Line) (loading : Loading) :
    (lines.foldl Loading.step loading).current = sectionAfter loading.current lines := by
  induction lines generalizing loading with
  | nil => rfl
  | cons line rest ih =>
      rw [List.foldl_cons, ih, sectionAfter_cons]
      cases line with
      | skipped => rfl
      | invalid text => rfl
      | header name => rfl
      | assignment found =>
          by_cases unnamed : found.sectionName = [] <;>
            simp [Loading.step, Line.section?, unnamed]

/-- Lines that name a section first have the same effects in every section. -/
theorem effectsFrom_of_namesFirst {lines : List Line} (named : NamesFirst lines)
    (current other : Text) : effectsFrom current lines = effectsFrom other lines := by
  induction lines with
  | nil => rfl
  | cons line rest ih =>
      cases line with
      | skipped => exact ih named
      | invalid text => exact ih named
      | header name => rfl
      | assignment found =>
          have section? : (Line.section? (.assignment found)).isSome = true := named _ rfl
          have named : found.sectionName ≠ [] := by
            intro unnamed
            rw [Line.section?, if_pos unnamed] at section?
            cases section?
          rw [effectsFrom, effectsFrom, if_neg named, if_neg named]

def newline : UInt8 := 10

/-- Two files, one after the other, with a newline between them. -/
def joined (first second : Bytes) : Bytes :=
  first ++ newline :: second

/-- Whether the second file means the same behind the first one as it does alone. -/
def Apart (first second : Bytes) : Prop :=
  (((linesOf first).foldl Loading.step ⟨∅, []⟩).current = []) ∨ NamesFirst (linesOf second)

instance (first second : Bytes) : Decidable (Apart first second) :=
  inferInstanceAs (Decidable (_ ∨ _))

theorem linesOf_joined (first second : Bytes) :
    linesOf (joined first second) = linesOf first ++ linesOf second := by
  have plain : (CodePoint.ofChar '\n').isSurrogate = false := rfl
  have decoded := Utf8.decode_append_sequence plain first second
  unfold linesOf joined
  rw [← List.map_append, ← Text.split_append_cons, ← decoded]
  rfl

theorem load_joined {first second : Bytes} (apart : Apart first second) (settings : Settings) :
    settings.load (Utf8.decode (joined first second)) =
      (settings.load (Utf8.decode first)).overlay (load ∅ (Utf8.decode second)) := by
  have alone : effectsFrom (sectionAfter [] (linesOf first)) (linesOf second) =
      effectsFrom [] (linesOf second) := by
    rcases apart with ended | named
    · rw [current_foldl_step] at ended
      rw [ended]
    · exact effectsFrom_of_namesFirst named _ _
  rw [← load_eq_overlay, load_eq_applyAll, load_eq_applyAll, load_eq_applyAll, effects, ← linesOf,
    linesOf_joined, effectsFrom_append, alone, applyAll, List.foldl_append]
  rfl

/-- The invalid lines of both files stand in the joined one, those of the second file behind all
lines of the first one. -/
theorem invalidLines_joined (first second : Bytes) :
    invalidLines (Utf8.decode (joined first second)) =
      invalidLines (Utf8.decode first) ++
        (invalidLines (Utf8.decode second)).map fun line =>
          (line.1 + (linesOf first).length, line.2) := by
  have lines := linesOf_joined first second
  unfold linesOf at lines
  rw [invalidLines, lines, List.zipIdx_append, List.filterMap_append, invalidLines, invalidLines,
    Nat.zero_add, List.zipIdx_eq_map_add (i := List.length _), List.filterMap_map,
    List.map_filterMap]
  congr 2
  funext ⟨line, place⟩
  cases line with
  | invalid text =>
      simp only [Function.comp_apply, Option.map_some, Option.some.injEq, Prod.mk.injEq, and_true,
        linesOf, List.length_map]
      omega
  | _ => rfl

def invalidLineWarning (line : Nat × Text) : LogRecord :=
  reporter.record .warning ("Invalid config line " ++ Text.ofNat line.1 ++ ": " ++ line.2)

def warnings (records : List LogRecord) : List LogRecord :=
  records.filter fun record => record.level = .warning

/-- A file that is loaded is warned of where it is invalid, and nowhere else. -/
theorem warnings_loadFrom {tree : FileTree} {path : Path} {content : Bytes}
    (found : tree.read path = .ok content) (settings : Settings) :
    warnings (settings.loadFrom path tree).log =
      (invalidLines (Utf8.decode content)).map invalidLineWarning := by
  have kept : warnings (lineWarnings (Utf8.decode content)) = lineWarnings (Utf8.decode content) := by
    refine List.filter_eq_self.mpr fun record member => ?_
    obtain ⟨line, -, rfl⟩ := List.mem_map.mp member
    rfl
  have others : ∀ loaded : Settings, warnings
      (reporter.record .info ("Configuration loaded from: " ++ path.text) :: loaded.validate.2) =
        [] := by
    intro loaded
    refine List.filter_eq_nil_iff.mpr fun record member => ?_
    rcases List.mem_cons.mp member with rfl | problem
    · exact Bool.false_ne_true
    · obtain ⟨problem, -, rfl⟩ := List.mem_map.mp problem
      exact Bool.false_ne_true
  rw [loadFrom, found]
  dsimp only
  rw [warnings, List.filter_append, ← warnings, kept]
  exact (congrArg (_ ++ ·) (others _)).trans (List.append_nil _)

/-- How settings change when a file is laid over them. -/
structure Overlaid (settings : Settings) (content : Bytes) (loaded : Settings) : Prop where
  overlay : loaded = settings.overlay (load ∅ (Utf8.decode content))
  sections : ∀ name, OrderedMap.contains settings name = true →
    OrderedMap.contains loaded name = true
  keys : ∀ name key, (settings.value? name key).isSome = true →
    (loaded.value? name key).isSome = true
  again : loaded.load (Utf8.decode content) = loaded
  parts : ∀ first second, content = joined first second → Apart first second →
    loaded = (settings.load (Utf8.decode first)).overlay (load ∅ (Utf8.decode second))

theorem overlaid_load (settings : Settings) (content : Bytes) :
    Overlaid settings content (settings.load (Utf8.decode content)) where
  overlay := load_eq_overlay settings _
  sections name present := by rw [contains_load_over, present, Bool.or_true]
  keys name key present := by
    rw [value?_load_over, Option.isSome_or, present, Bool.or_true]
  again := by
    rw [load_eq_overlay settings, load_eq_overlay, overlay_overlay_self]
  parts first second same apart := by rw [same, load_joined apart]

/-- A file that can be read is laid over the settings, and loading it once more changes nothing. If
it consists of two files with a newline between them, the invalid lines of both are warned of, with
their numbers in the whole. -/
theorem loadFrom_overlaid {tree : FileTree} {path : Path} {content : Bytes}
    (found : tree.read path = .ok content) (settings : Settings) :
    ∃ loaded valid, (settings.loadFrom path tree).result = .ok (loaded, valid) ∧
      Overlaid settings content loaded ∧ (loaded.loadFrom path tree).result = .ok (loaded, valid) ∧
      ∀ first second, content = joined first second →
        warnings (settings.loadFrom path tree).log =
          (invalidLines (Utf8.decode first) ++ (invalidLines (Utf8.decode second)).map fun line =>
            (line.1 + (linesOf first).length, line.2)).map invalidLineWarning := by
  have overlaid := overlaid_load settings content
  refine ⟨_, _, result_loadFrom settings found, overlaid, ?_, ?_⟩
  · rw [result_loadFrom _ found, overlaid.again]
  · rintro first second rfl
    rw [warnings_loadFrom found, invalidLines_joined]

def openEnded : Bytes :=
  (Utf8.encode? "[web]\nport = 1\nbad").getD []

def selfContained : Bytes :=
  (Utf8.encode? "= 3\nweb.host = h\nport = 2").getD []

def withJoined : FileTree where
  entries := OrderedMap.ofList [([Path.stored "a.conf"], .file (joined openEnded selfContained))]
  workingDirectory := []

/-- The port of the second part is stored over that of the first one, since both are in the same
section; another section stays as it was. -/
theorem loadFrom_overlaid_withJoined :
    ∃ loaded valid,
      (loadFrom (OrderedMap.ofList [("log", ∅)]) (Path.ofText "a.conf") withJoined).result =
        .ok (loaded, valid) ∧
      loaded = (load (OrderedMap.ofList [("log", ∅)]) (Utf8.decode openEnded)).overlay
        (load ∅ (Utf8.decode selfContained)) ∧
      OrderedMap.contains loaded "log" = true ∧
      loaded.value? "web" "port" = some (Text.ofString "2") ∧
      warnings (loadFrom (OrderedMap.ofList [("log", ∅)]) (Path.ofText "a.conf") withJoined).log =
        [invalidLineWarning (3, "bad"), invalidLineWarning (4, "= 3")] := by
  have found : withJoined.read (Path.ofText "a.conf") = .ok (joined openEnded selfContained) := by
    decide +kernel
  have apart : Apart openEnded selfContained := by decide +kernel
  obtain ⟨loaded, valid, result, overlaid, -, warned⟩ :=
    loadFrom_overlaid found (OrderedMap.ofList [("log", ∅)])
  have parts := overlaid.parts _ _ rfl apart
  refine ⟨loaded, valid, result, parts, overlaid.sections _ (by decide), ?_, ?_⟩
  · rw [parts]
    decide +kernel
  · rw [warned _ _ rfl]
    decide +kernel

end Startup.Settings
