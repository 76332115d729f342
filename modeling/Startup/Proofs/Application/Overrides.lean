import Startup.Application.Overrides
import Startup.Proofs.Arguments.Given
import Startup.Proofs.Number.Integer
import Startup.Proofs.Settings.Effects
import Startup.Settings.Defaults

/-!
# Overriding settings from the command line

Five options override a setting each. The text that is stored follows from the value that the option
was given last, and that value passed the test of the option when the command line was read. So
nothing can go wrong with it afterwards, and settings of options that are absent stay as they are.
-/

namespace Startup.Application

open Arguments Settings

/-- An option that overrides a setting, with the text that is stored for a value of the option. -/
structure Override where
  option : Descriptor
  text : Text → Text

def portText (given : Text) : Text :=
  Text.ofNat (Text.digitsValue (given.filter CodePoint.isDigit))

def modeText (mode : Text) : Text :=
  Text.ofNat (recognitionModes.idxOf mode)

/-- The settings that can be overridden: section, key, and the option that overrides it. -/
def overrideTable : List ((Text × Text) × Override) :=
  [(("web", "port"), ⟨portOption, portText⟩),
    (("ocr", "default_mode"), ⟨recognitionOption, modeText⟩),
    (("ai", "model_path"), ⟨modelOption, id⟩),
    (("application", "log_level"), ⟨logLevelOption, id⟩),
    (("application", "no_gui"), ⟨windowlessOption, fun _ => "true"⟩)]

/-- The text that the last occurrence of an option gives to its setting. -/
def Override.text? (override : Override) (items : List Item) : Option Text :=
  (lastValueOf? override.option items).map override.text

/-- The text that a command line gives to a setting, if it overrides that setting. -/
def overrideText? (items : List Item) (sectionName key : Text) : Option Text :=
  (Entries.get? (sectionName, key) overrideTable).bind fun override => override.text? items

/-- The entry that a row of the table leads to, if its option is given. -/
def entryOf? (items : List Item) (row : (Text × Text) × Override) : Option Entry :=
  (row.2.text? items).map fun text => ⟨row.1.1, row.1.2, text⟩

def Entry.effect (entry : Entry) : Effect :=
  .stored entry.sectionName entry.key entry.text

def overridden (items : List Item) : List Entry :=
  overrideTable.filterMap (entryOf? items)

theorem nodup_standardKeys : (standardSchema.map Descriptor.key).Nodup := by decide

theorem nodup_overridePlaces : (overrideTable.map Prod.fst).Nodup := by decide

theorem lt_of_le_ports {n : Nat} (small : n ≤ 65535) : n < 10 ^ Integer.digitLimit :=
  lt_of_le_of_lt small (lt_of_lt_of_le (by decide : 65535 < 10 ^ 5)
    (Nat.pow_le_pow_right (by decide) (by decide)))

theorem integerText_natCast {n : Nat} (small : n < 10 ^ Integer.digitLimit) :
    integerText n = .ok (Text.ofNat n) := by
  have written : canonical (.integer n) = .ok (Text.ofNat n) := by
    change Value.quoted (.integer n) = .ok (Text.ofNat n)
    rw [Value.quoted, Integer.write?_natCast small]
  rw [integerText, written]

theorem portText_of_denotes {given : Text} {port : Nat} (denotes : Integer.Denotes given port) :
    portText given = Text.ofNat port := by
  rw [portText, ← denotes.natAbs_eq, Int.natAbs_natCast]

theorem denotes_of_isPort {given : Text} (accepted : isPort given = true) :
    ∃ port : Nat, Integer.Denotes given port ∧ 1 ≤ port ∧ port ≤ 65535 := by
  unfold isPort at accepted
  cases read : Integer.read (Text.trimBlanks given) with
  | error error =>
      rw [read] at accepted
      cases accepted
  | ok n =>
      rw [read] at accepted
      simp only [Bool.and_eq_true, decide_eq_true_eq] at accepted
      obtain ⟨port, rfl⟩ := Int.eq_ofNat_of_zero_le (Int.le_trans (by decide) accepted.1)
      exact ⟨port, Integer.read_trimBlanks_eq_ok_iff.mp read, by omega, by omega⟩

theorem modeNumber_of_mem {mode : Text} (known : mode ∈ recognitionModes) :
    modeNumber mode = .ok (recognitionModes.idxOf mode : Nat) := by
  have found : recognitionModes.findIdx? (· == mode) = some (recognitionModes.idxOf mode) := by
    exact List.findIdx?_eq_some_of_exists (p := fun other => other == mode)
      ⟨mode, known, beq_self_eq_true mode⟩
  rw [modeNumber, found]

section Rows

variable {interface : Interface} {items : List Item}
  (fits : ∀ item ∈ items, item.Fits standardSchema)
  (collected : interface.collected = meaning items)

include fits in
theorem accepts_of_given {option : Descriptor} (known : option ∈ standardSchema)
    (takesValue : option.takesValue = true) {value : Text}
    (given : lastValueOf? option items = some value) : option.accepts value = true := by
  have admits := admits_of_mem_valuesOf nodup_standardKeys fits known (List.mem_of_getLast? given)
  rw [Descriptor.Admits, if_pos takesValue] at admits
  exact admits

include collected in
theorem valueOf_of_given {option : Descriptor} {value : Text}
    (given : lastValueOf? option items = some value) : valueOf interface option = value :=
  value_of_given collected option given []

/-- Whether an option is that of a row and leads to the entry of the row. -/
structure Agrees (interface : Interface) (items : List Item)
    (pair : Descriptor × Except Fault Entry) (row : (Text × Text) × Override) : Prop where
  option : pair.1 = row.2.option
  entry : ∀ value, lastValueOf? row.2.option items = some value →
    pair.2 = .ok ⟨row.1.1, row.1.2, row.2.text value⟩

include fits collected

theorem portEntry_of_given {value : Text} (given : lastValueOf? portOption items = some value) :
    portEntry interface = .ok ⟨"web", "port", portText value⟩ := by
  have accepted : isPort value = true := accepts_of_given fits (by simp [standardSchema]) rfl given
  obtain ⟨port, denotes, -, small⟩ := denotes_of_isPort accepted
  have read : interface.integer? portOption.key = some (port : Int) := by
    rw [Interface.integer?, value_of_given collected portOption given,
      Integer.read_trimBlanks_eq_ok_iff.mpr denotes]
    rfl
  rw [portEntry, read, Option.getD_some, integerText_natCast (lt_of_le_ports small),
    portText_of_denotes denotes]
  rfl

theorem recognitionEntry_of_given {value : Text}
    (given : lastValueOf? recognitionOption items = some value) :
    recognitionEntry interface = .ok ⟨"ocr", "default_mode", modeText value⟩ := by
  have accepted : isRecognitionMode value = true :=
    accepts_of_given fits (by simp [standardSchema]) rfl given
  have known : value ∈ recognitionModes := List.contains_iff_mem.mp accepted
  have place : recognitionModes.idxOf value < recognitionModes.length :=
    List.idxOf_lt_length_of_mem known
  have limited : recognitionModes.idxOf value < 10 ^ Integer.digitLimit :=
    lt_of_le_ports (place.le.trans (by decide))
  rw [recognitionEntry, valueOf_of_given collected given, modeNumber_of_mem known]
  simp only [bind, Except.bind, integerText_natCast limited]
  rfl

theorem agrees_overriding :
    List.Forall₂ (Agrees interface items) (overriding interface) overrideTable := by
  refine .cons ⟨rfl, fun value given => ?_⟩ (.cons ⟨rfl, fun value given => ?_⟩
    (.cons ⟨rfl, fun value given => ?_⟩ (.cons ⟨rfl, fun value given => ?_⟩
      (.cons ⟨rfl, fun value given => rfl⟩ .nil))))
  · exact portEntry_of_given fits collected given
  · exact recognitionEntry_of_given fits collected given
  · rw [modelEntry, valueOf_of_given collected given]
    rfl
  · rw [logLevelEntry, valueOf_of_given collected given]
    rfl

omit fits

theorem applyEach_eq {pairs : List (Descriptor × Except Fault Entry)}
    {rows : List ((Text × Text) × Override)}
    (agree : List.Forall₂ (Agrees interface items) pairs rows) (settings : Settings) :
    applyEach interface pairs settings =
      ⟨.ok (), settings.applyAll ((rows.filterMap (entryOf? items)).map Entry.effect), []⟩ := by
  induction agree generalizing settings with
  | nil => rfl
  | @cons pair row pairs rows agrees _ ih =>
      have present : given interface pair.1 = (lastValueOf? row.2.option items).isSome := by
        rw [given, agrees.option, has_eq_isSome collected]
      simp only [applyEach, present]
      cases last : lastValueOf? row.2.option items with
      | none =>
          have absent : entryOf? items row = none := by
            rw [entryOf?, Override.text?, last]
            rfl
          rw [List.filterMap_cons_none absent]
          simp only [Option.isSome_none, Bool.false_eq_true, if_false, ih]
      | some value =>
          have entry : entryOf? items row = some ⟨row.1.1, row.1.2, row.2.text value⟩ := by
            rw [entryOf?, Override.text?, last]
            rfl
          rw [List.filterMap_cons_some entry]
          simp only [Option.isSome_some, if_true, storeEntry, Task.bind_apply, Task.andThen,
            Task.ofExcept, Task.modify, agrees.entry value last, ih, List.append_nil]
          rfl

end Rows

def overrideEffects (items : List Item) : List Effect :=
  (overridden items).map Entry.effect

/-- An accepted command line leads to settings without a fault. Its options tell them, and the
schema that the interface has by then does not matter. -/
theorem applyOverrides_eq {interface : Interface} {items : List Item}
    (fits : ∀ item ∈ items, item.Fits standardSchema)
    (collected : interface.collected = meaning items) (settings : Settings) :
    applyOverrides interface settings =
      ⟨.ok (), settings.applyAll (overrideEffects items), []⟩ :=
  applyEach_eq collected (agrees_overriding fits collected) settings

theorem stored_mem_overrideEffects {items : List Item} {sectionName key text : Text} :
    .stored sectionName key text ∈ overrideEffects items ↔
      overrideText? items sectionName key = some text := by
  rw [overrideText?, Option.bind_eq_some_iff, overrideEffects, List.mem_map]
  simp only [Entries.get?_eq_some_iff nodup_overridePlaces]
  constructor
  · rintro ⟨entry, member, same⟩
    obtain ⟨⟨place, override⟩, known, gives⟩ := List.mem_filterMap.mp member
    obtain ⟨text', given, rfl⟩ := Option.map_eq_some_iff.mp gives
    cases same
    exact ⟨override, known, given⟩
  · rintro ⟨override, known, given⟩
    refine ⟨⟨sectionName, key, text⟩, List.mem_filterMap.mpr ⟨_, known, ?_⟩, rfl⟩
    rw [entryOf?, given]
    rfl

/-- Overriding texts come first, and the table holds what it held under all other keys. -/
theorem value?_overridden (items : List Item) (settings : Settings) (sectionName key : Text) :
    (settings.applyAll (overrideEffects items)).value? sectionName key =
      (overrideText? items sectionName key).or (settings.value? sectionName key) := by
  rw [value?_applyAll, lastValue?_eq_of_mem_iff fun _ => stored_mem_overrideEffects]

/-- A setting has the text of its option if that is given. -/
theorem value?_overridden_of_given {items : List Item} (override : Override)
    {sectionName key given : Text} (row : ((sectionName, key), override) ∈ overrideTable)
    (last : lastValueOf? override.option items = some given) (settings : Settings) :
    (settings.applyAll (overrideEffects items)).value? sectionName key =
      some (override.text given) := by
  have found : Entries.get? (sectionName, key) overrideTable = some override :=
    (Entries.get?_eq_some_iff nodup_overridePlaces _ _).mpr row
  rw [value?_overridden, overrideText?, found, Option.bind_some, Override.text?, last]
  rfl

theorem contains_overridden (items : List Item) (settings : Settings) (name : Text) :
    OrderedMap.contains (settings.applyAll (overrideEffects items)) name = true ↔
      (∃ key text, overrideText? items name key = some text) ∨
        OrderedMap.contains settings name = true := by
  rw [contains_applyAll]
  refine or_congr_left ?_
  constructor
  · rintro ⟨effect, member, rfl⟩
    obtain ⟨entry, -, rfl⟩ := List.mem_map.mp member
    exact ⟨entry.key, entry.text, stored_mem_overrideEffects.mp member⟩
  · rintro ⟨key, text, given⟩
    exact ⟨_, stored_mem_overrideEffects.mpr given, rfl⟩

/-- A setting that no given option overrides has no overriding text. -/
theorem overrideText?_eq_none {items : List Item} {sectionName key : Text}
    (absent : ∀ override, ((sectionName, key), override) ∈ overrideTable →
      lastValueOf? override.option items = none) : overrideText? items sectionName key = none := by
  rw [overrideText?, Option.bind_eq_none_iff]
  intro override found
  rw [Override.text?, absent override ((Entries.get?_eq_some_iff nodup_overridePlaces _ _).mp found)]
  rfl

theorem overridden_eq_nil {items : List Item}
    (absent : ∀ row ∈ overrideTable, lastValueOf? row.2.option items = none) :
    overridden items = [] := by
  rw [overridden, List.filterMap_eq_nil_iff]
  intro row known
  rw [entryOf?, Override.text?, absent row known]
  rfl

theorem problems_of_port {settings : Settings} {port : Nat} (positive : 1 ≤ port)
    (small : port ≤ 65535) (stored : settings.value? "web" "port" = some (Text.ofNat port))
    (n : Int) : Problem.badPort n ∉ settings.problems := by
  have denotes := Integer.denotes_ofNat (lt_of_le_ports small)
  have read : settings.webPort = port := by
    rw [webPort, integer?, stored, Option.bind_some,
      Integer.read_trimBlanks_eq_ok_iff.mpr denotes]
    rfl
  rw [problems, read]
  intro reported
  simp only [List.mem_append, List.mem_map, reduceCtorEq, and_false, exists_false, false_or]
    at reported
  rw [if_pos (by omega)] at reported
  split at reported <;> simp at reported

/-- What a command line does to settings when it overrides them safely. -/
structure OverridesSafely (items : List Item) (before after : Settings) : Prop where
  port : ∀ given, lastValueOf? portOption items = some given →
    ∃ port : Nat, Integer.Denotes given port ∧ 1 ≤ port ∧ port ≤ 65535 ∧
      after.value? "web" "port" = some (Text.ofNat port) ∧
      ∀ n, Problem.badPort n ∉ after.problems
  recognition : ∀ mode, lastValueOf? recognitionOption items = some mode →
    ∃ number : Nat, recognitionModes[number]? = some mode ∧
      after.value? "ocr" "default_mode" = some (Text.ofNat number)
  logLevel : ∀ level, lastValueOf? logLevelOption items = some level →
    level ∈ logLevels ∧ after.value? "application" "log_level" = some level
  values : ∀ sectionName key,
    (∀ override, ((sectionName, key), override) ∈ overrideTable →
      lastValueOf? override.option items = none) →
    after.value? sectionName key = before.value? sectionName key
  sections : ∀ name,
    (∀ key override, ((name, key), override) ∈ overrideTable →
      lastValueOf? override.option items = none) →
    OrderedMap.contains after name = OrderedMap.contains before name
  unchanged : (∀ row ∈ overrideTable, lastValueOf? row.2.option items = none) → after = before

theorem overridesSafely_applyAll {items : List Item} (fits : ∀ item ∈ items, item.Fits standardSchema)
    (settings : Settings) :
    OverridesSafely items settings (settings.applyAll (overrideEffects items)) where
  port given last := by
    have accepted : isPort given = true :=
      accepts_of_given fits (by simp [standardSchema]) rfl last
    obtain ⟨port, denotes, positive, small⟩ := denotes_of_isPort accepted
    have stored : (settings.applyAll (overrideEffects items)).value? "web" "port" =
        some (portText given) :=
      value?_overridden_of_given ⟨portOption, portText⟩ (.head _) last settings
    rw [portText_of_denotes denotes] at stored
    exact ⟨port, denotes, positive, small, stored, problems_of_port positive small stored⟩
  recognition mode last := by
    have accepted : isRecognitionMode mode = true :=
      accepts_of_given fits (by simp [standardSchema]) rfl last
    have known : mode ∈ recognitionModes := List.contains_iff_mem.mp accepted
    exact ⟨recognitionModes.idxOf mode, List.getElem?_idxOf known,
      value?_overridden_of_given ⟨recognitionOption, modeText⟩ (.tail _ (.head _)) last settings⟩
  logLevel level last := by
    have accepted : isLogLevel level = true :=
      accepts_of_given fits (by simp [standardSchema]) rfl last
    exact ⟨List.contains_iff_mem.mp accepted,
      value?_overridden_of_given ⟨logLevelOption, id⟩ (.tail _ (.tail _ (.tail _ (.head _)))) last
        settings⟩
  values sectionName key absent := by
    rw [value?_overridden, overrideText?_eq_none absent, Option.none_or]
  sections name absent := by
    rw [Bool.eq_iff_iff, contains_overridden]
    apply or_iff_right
    rintro ⟨key, text, given⟩
    rw [overrideText?_eq_none (absent key)] at given
    cases given
  unchanged absent := by
    rw [overrideEffects, overridden_eq_nil absent]
    rfl

/-- Whatever the command line accepts, the overrides are safe to apply. -/
theorem applyOverrides_of_accepted (arguments : List Text) (path? : Option Text)
    (accepted : (standardInterface.parse arguments path?).error? = none) (settings : Settings) :
    ∃ items changed, Derives standardSchema items arguments ∧
      applyOverrides (standardInterface.parse arguments path?) settings = ⟨.ok (), changed, []⟩ ∧
      OverridesSafely items settings changed := by
  obtain ⟨items, derives, collected⟩ := exists_derivation_of_parse accepted
  exact ⟨items, _, derives, applyOverrides_eq derives.fits collected settings,
    overridesSafely_applyAll derives.fits settings⟩

def spelledPort : List Text :=
  ["--web-port=1", "-vp", " +080\t"]

theorem applyOverrides_spelledPort :
    (standardInterface.parse spelledPort none).error? = none ∧
      ∃ changed, applyOverrides (standardInterface.parse spelledPort none) ∅ = ⟨.ok (), changed, []⟩ ∧
        changed.value? "web" "port" = some "80" := by
  have accepted : (standardInterface.parse spelledPort none).error? = none := by decide
  obtain ⟨items, changed, derives, applied, safe⟩ :=
    applyOverrides_of_accepted spelledPort none accepted ∅
  obtain ⟨others, derives', collected⟩ := exists_derivation_of_parse accepted
  -- A command line is derived in one way only, so these are the options that were collected.
  obtain rfl := derives.unique derives'
  have last : lastValueOf? portOption items = some " +080\t" := by
    rw [lastValueOf?, ← get?_meaning, ← collected]
    decide
  obtain ⟨port, denotes, -, -, stored, -⟩ := safe.port _ last
  have eighty : port = 80 := denotes.natAbs_eq
  rw [eighty] at stored
  exact ⟨accepted, changed, applied, stored⟩

end Startup.Application
