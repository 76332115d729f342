import Startup.Proofs.Settings.Effects
import Startup.Settings.Defaults

/-!
# The defaults as a layer

Storing the defaults puts the canonical text of a default under its section and key, and leaves
everything else.
-/

namespace Startup.Settings

/-- The canonical text of the default for a key of a section, if there is one. -/
def defaultText? (sectionName key : Text) : Option Text :=
  (Entries.get? sectionName defaults).bind fun group =>
    (Entries.get? key group).bind fun value => (canonical value).toOption

def defaultEffects : List Effect :=
  defaultEntries.map fun entry => .stored entry.1 entry.2.1 entry.2.2

theorem storeDefaults_eq_applyAll (settings : Settings) :
    settings.storeDefaults = settings.applyAll defaultEffects := by
  rw [applyAll, defaultEffects, List.foldl_map]
  rfl

theorem nodup_defaultSections : (defaults.map Prod.fst).Nodup := by decide

theorem nodup_defaultKeys : ∀ group ∈ defaults, (group.2.map Prod.fst).Nodup := by decide

/-- Every default has a canonical text. -/
theorem isSome_canonical : ∀ group ∈ defaults, ∀ entry ∈ group.2,
    (canonical entry.2).toOption.isSome = true := by
  decide +kernel

theorem stored_mem_defaultEffects {sectionName key text : Text} :
    .stored sectionName key text ∈ defaultEffects ↔
      defaultText? sectionName key = some text := by
  rw [defaultText?, Option.bind_eq_some_iff, defaultEffects, defaultEntries, List.mem_map]
  simp only [Entries.get?_eq_some_iff nodup_defaultSections]
  constructor
  · rintro ⟨entry, member, same⟩
    obtain ⟨group, grouped, inner⟩ := List.mem_flatMap.mp member
    obtain ⟨⟨key', value⟩, known, rfl⟩ := List.mem_map.mp inner
    cases same
    refine ⟨group.2, grouped, ?_⟩
    rw [Option.bind_eq_some_iff]
    obtain ⟨text, written⟩ := Option.isSome_iff_exists.mp (isSome_canonical group grouped _ known)
    refine ⟨value, (Entries.get?_eq_some_iff (nodup_defaultKeys group grouped) _ _).mpr known, ?_⟩
    rw [written]
    rfl
  · rintro ⟨group, grouped, found⟩
    obtain ⟨value, known, written⟩ := Option.bind_eq_some_iff.mp found
    rw [Entries.get?_eq_some_iff (nodup_defaultKeys _ grouped)] at known
    refine ⟨(sectionName, key, text), List.mem_flatMap.mpr ⟨_, grouped, ?_⟩, rfl⟩
    refine List.mem_map.mpr ⟨_, known, ?_⟩
    rw [written]
    rfl

theorem value?_storeDefaults (settings : Settings) (sectionName key : Text) :
    settings.storeDefaults.value? sectionName key =
      (defaultText? sectionName key).or (settings.value? sectionName key) := by
  rw [storeDefaults_eq_applyAll, value?_applyAll,
    lastValue?_eq_of_mem_iff fun _ => stored_mem_defaultEffects]

theorem value?_defaultSettings (sectionName key : Text) :
    defaultSettings.value? sectionName key = defaultText? sectionName key := by
  rw [defaultSettings, value?_storeDefaults, value?_empty, Option.or_none]

end Startup.Settings
