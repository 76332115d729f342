import Startup.Proofs.Settings.Content
import Mathlib.Data.List.Basic

/-!
# What the lines of a file do to a table

A file opens sections and stores values, one effect for each line that counts. A look-up in the
table that results gives the value that was stored last under its section and key, and else what the
table held before; a section is there when it was there before or some effect concerns it.
-/

namespace Startup.Settings

/-- What a line does to a table. -/
inductive Effect where
  | opened (sectionName : Text)
  | stored (sectionName key value : Text)
deriving DecidableEq

namespace Effect

def apply (settings : Settings) : Effect → Settings
  | opened sectionName => settings.addSection sectionName
  | stored sectionName key value => settings.store sectionName key value

def sectionName : Effect → Text
  | opened sectionName => sectionName
  | stored sectionName _ _ => sectionName

/-- The value that the effect stores under a section and key, if it does. -/
def valueFor? (sectionName key : Text) : Effect → Option Text
  | opened _ => none
  | stored other otherKey value => if other = sectionName ∧ otherKey = key then some value else none

theorem value?_apply (settings : Settings) (effect : Effect) (sectionName key : Text) :
    (effect.apply settings).value? sectionName key =
      (effect.valueFor? sectionName key).or (settings.value? sectionName key) := by
  cases effect with
  | opened other => exact value?_addSection settings other sectionName key
  | stored other otherKey value =>
      rw [apply, value?_store, valueFor?]
      split <;> rfl

theorem contains_apply (settings : Settings) (effect : Effect) (name : Text) :
    OrderedMap.contains (effect.apply settings) name =
      (effect.sectionName == name || OrderedMap.contains settings name) := by
  cases effect with
  | opened other => exact contains_addSection settings other name
  | stored other key value => exact contains_store settings other key value name

theorem valueFor?_eq_some_iff {effect : Effect} {sectionName key value : Text} :
    effect.valueFor? sectionName key = some value ↔ effect = stored sectionName key value := by
  cases effect with
  | opened other => simp [valueFor?]
  | stored other otherKey stored => simp [valueFor?, and_assoc]

end Effect

def applyAll (settings : Settings) (effects : List Effect) : Settings :=
  effects.foldl Effect.apply settings

def lastValue? (sectionName key : Text) (effects : List Effect) : Option Text :=
  effects.reverse.findSome? (Effect.valueFor? sectionName key)

/-- A look-up gives what was stored last, and else what was there before. -/
theorem value?_applyAll (settings : Settings) (effects : List Effect) (sectionName key : Text) :
    (settings.applyAll effects).value? sectionName key =
      (lastValue? sectionName key effects).or (settings.value? sectionName key) := by
  unfold applyAll lastValue?
  induction effects generalizing settings with
  | nil => rfl
  | cons effect rest ih =>
      rw [List.foldl_cons, ih, Effect.value?_apply, List.reverse_cons, List.findSome?_append,
        List.findSome?_singleton, Option.or_assoc]

theorem contains_applyAll (settings : Settings) (effects : List Effect) (name : Text) :
    OrderedMap.contains (settings.applyAll effects) name = true ↔
      (∃ effect ∈ effects, effect.sectionName = name) ∨
        OrderedMap.contains settings name = true := by
  unfold applyAll
  induction effects generalizing settings with
  | nil => simp
  | cons effect rest ih =>
      rw [List.foldl_cons, ih, Effect.contains_apply]
      simp only [Bool.or_eq_true, beq_iff_eq, List.mem_cons, exists_eq_or_imp]
      grind

theorem mem_of_lastValue? {sectionName key value : Text} {effects : List Effect}
    (last : lastValue? sectionName key effects = some value) :
    .stored sectionName key value ∈ effects := by
  obtain ⟨effect, member, found⟩ := List.exists_of_findSome?_eq_some last
  rw [Effect.valueFor?_eq_some_iff] at found
  rw [← found]
  exact List.mem_reverse.mp member

theorem isSome_lastValue? {sectionName key value : Text} {effects : List Effect}
    (member : .stored sectionName key value ∈ effects) :
    (lastValue? sectionName key effects).isSome = true := by
  rw [lastValue?, List.findSome?_isSome_iff]
  refine ⟨_, List.mem_reverse.mpr member, ?_⟩
  rw [Effect.valueFor?_eq_some_iff.mpr rfl]
  rfl

theorem lastValue?_eq_of_mem_iff {sectionName key : Text} {effects : List Effect}
    {found : Option Text}
    (same : ∀ value, .stored sectionName key value ∈ effects ↔ found = some value) :
    lastValue? sectionName key effects = found := by
  cases last : lastValue? sectionName key effects with
  | some value => exact ((same value).mp (mem_of_lastValue? last)).symm
  | none =>
      cases known : found with
      | none => rfl
      | some value =>
          have present := isSome_lastValue? ((same value).mpr known)
          rw [last] at present
          cases present

/-- The effects of some lines, where `current` is the section at hand. -/
def effectsFrom (current : Text) : List Line → List Effect
  | [] => []
  | .skipped :: rest => effectsFrom current rest
  | .invalid _ :: rest => effectsFrom current rest
  | .header name :: rest => .opened name :: effectsFrom name rest
  | .assignment found :: rest =>
      let name := if found.sectionName = [] then current else found.sectionName
      .stored name found.key (unescape found.value) :: effectsFrom name rest

def effects (content : Text) : List Effect :=
  effectsFrom [] ((Text.split '\n' content).map Line.read)

theorem foldl_step (lines : List Line) (loading : Loading) :
    (lines.foldl Loading.step loading).settings =
      loading.settings.applyAll (effectsFrom loading.current lines) := by
  induction lines generalizing loading with
  | nil => rfl
  | cons line rest ih =>
      rw [List.foldl_cons, ih]
      cases line <;> rfl

theorem load_eq_applyAll (settings : Settings) (content : Text) :
    settings.load content = settings.applyAll (effects content) :=
  foldl_step _ _

/-- Where a file stores something, it does so whatever was there. -/
theorem value?_load_over (settings : Settings) (content sectionName key : Text) :
    (settings.load content).value? sectionName key =
      ((load ∅ content).value? sectionName key).or (settings.value? sectionName key) := by
  rw [load_eq_applyAll, load_eq_applyAll, value?_applyAll, value?_applyAll, value?_empty,
    Option.or_none]

theorem contains_load_over (settings : Settings) (content name : Text) :
    OrderedMap.contains (settings.load content) name =
      (OrderedMap.contains (load ∅ content) name || OrderedMap.contains settings name) := by
  rw [Bool.eq_iff_iff, Bool.or_eq_true, load_eq_applyAll, load_eq_applyAll, contains_applyAll,
    contains_applyAll]
  exact or_congr_left (or_iff_left Bool.false_ne_true).symm

/-- What is true of a table and of what a file holds is true when the file is laid over the table.
-/
theorem Everywhere.load_over {named : Text → Prop} {stored : Text → Text → Prop}
    {settings : Settings} {content : Text} (all : settings.Everywhere named stored)
    (all' : (load ∅ content).Everywhere named stored) :
    (settings.load content).Everywhere named stored := by
  rw [everywhere_iff] at all all' ⊢
  constructor
  · intro name present
    rw [contains_load_over, Bool.or_eq_true] at present
    exact present.elim (all'.1 name) (all.1 name)
  · intro name key value found
    rw [value?_load_over, Option.or_eq_some_iff] at found
    rcases found with inFile | ⟨-, before⟩
    · exact all'.2 name key value inFile
    · exact all.2 name key value before

end Startup.Settings
