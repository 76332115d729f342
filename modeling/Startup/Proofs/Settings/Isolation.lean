import Startup.Proofs.Settings.Reload

/-!
# Values stay in their place

Under guarded section names and keys no value can disturb the file, not even one that looks like a
header, a comment, an assignment or several lines: escaping keeps it on its line, and the line
begins with the key. So each value comes back, up to what its line keeps of it, and changing one
value changes nothing else.
-/

namespace Startup.Settings

/-- A key that no line takes for anything else, whatever value follows. -/
@[mk_iff]
structure GuardedKey (key : Text) : Prop where
  plainKey : PlainKey key
  opening : Text.beginsWith isOpening key = false

instance (key : Text) : Decidable (GuardedKey key) :=
  decidable_of_iff _ (guardedKey_iff key).symm

/-- A table with guarded section names and keys and with any values that are stable. -/
@[mk_iff]
structure Guarded (settings : Settings) : Prop where
  keys : settings.Everywhere OnLine fun key _ => GuardedKey key
  stable : settings.AllTexts Utf8.Stable

instance (settings : Settings) : Decidable settings.Guarded :=
  decidable_of_iff _ (guarded_iff settings).symm

theorem GuardedKey.legibleEntry {key : Text} (guarded : GuardedKey key) (value : Text) :
    LegibleEntry key value :=
  ⟨guarded.plainKey, by rw [guarded.opening, Bool.false_and]⟩

theorem Guarded.legible {settings : Settings} (guarded : settings.Guarded) : settings.Legible :=
  guarded.keys.imp (fun _ name => name) fun _ value key => key.legibleEntry value

/-- Two tables with the same sections and keys, and with the same values but for one entry. -/
def SameBut (name key : Text) (left right : Settings) : Prop :=
  ∀ other, OrderedMap.contains left other = OrderedMap.contains right other ∧
    ∀ otherKey, (left.value? other otherKey).isSome = (right.value? other otherKey).isSome ∧
      ((other, otherKey) ≠ (name, key) → left.value? other otherKey = right.value? other otherKey)

/-- Loading gives every guarded table back, each value as what its line keeps of it. -/
theorem Guarded.load_render {settings : Settings} (guarded : settings.Guarded) :
    (∀ name, OrderedMap.contains (load ∅ settings.render) name =
      OrderedMap.contains settings name) ∧
      ∀ name key, (load ∅ settings.render).value? name key =
        (settings.value? name key).map keptValue :=
  ⟨contains_load_render guarded.legible, value?_load_render guarded.legible⟩

/-- A difference in one value stays a difference in that value. -/
theorem SameBut.load_render {settings other : Settings} {name key : Text}
    (same : settings.SameBut name key other) (guarded : settings.Guarded)
    (guarded' : other.Guarded) :
    (load ∅ settings.render).SameBut name key (load ∅ other.render) := by
  obtain ⟨sections, values⟩ := guarded.load_render
  obtain ⟨sections', values'⟩ := guarded'.load_render
  intro sectionName
  obtain ⟨present, entries⟩ := same sectionName
  refine ⟨by rw [sections, sections', present], fun otherKey => ?_⟩
  obtain ⟨stored, equal⟩ := entries otherKey
  rw [values, values', Option.isSome_map, Option.isSome_map]
  exact ⟨stored, fun elsewhere => by rw [equal elsewhere]⟩

/-- Values cannot disturb a saved file: a guarded table comes back with its sections and keys, each
value without a final carriage return and without spaces at its ends, and a table that differs from
it in one value comes back with a difference in that value at most. -/
theorem reload?_of_guarded {settings : Settings} (guarded : settings.Guarded) :
    ∃ loaded, settings.reload? = some loaded ∧
      (∀ name, OrderedMap.contains loaded name = OrderedMap.contains settings name) ∧
      (∀ name key, loaded.value? name key = (settings.value? name key).map keptValue) ∧
      ∀ other : Settings, other.Guarded → ∀ name key, settings.SameBut name key other →
        ∃ loaded', other.reload? = some loaded' ∧ loaded.SameBut name key loaded' := by
  obtain ⟨sections, values⟩ := guarded.load_render
  refine ⟨_, reload?_of_stable guarded.stable, sections, values, ?_⟩
  intro other guarded' name key same
  exact ⟨_, reload?_of_stable guarded'.stable, same.load_render guarded guarded'⟩

def imitating : Settings :=
  OrderedMap.ofList [("a", OrderedMap.ofList [("k", "1\n[b]\nk = 2 \r"), ("l", "#")]), ("b", ∅)]

theorem reload?_imitating :
    ∃ loaded, imitating.reload? = some loaded ∧
      loaded.value? "a" "k" = some (Text.ofString "1\n[b]\nk = 2") ∧
      loaded.value? "b" "k" = none := by
  obtain ⟨loaded, reloaded, -, values, -⟩ :=
    reload?_of_guarded (show imitating.Guarded by decide)
  refine ⟨loaded, reloaded, ?_, ?_⟩
  · rw [values]
    decide
  · rw [values]
    decide

end Startup.Settings
