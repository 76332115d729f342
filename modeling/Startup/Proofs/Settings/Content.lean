import Startup.Settings.Table

/-!
# What a table holds

A table is known by its look-ups: which sections it has, and which value is stored under a key. Two
tables are the same when these agree, in whatever order the entries came in, and what is true of
every section name and every entry of a table is true of a table that is the same.
-/

namespace Startup.Settings

@[simp]
theorem values_store (settings : Settings) (sectionName other key value : Text) :
    (settings.store sectionName key value).values other =
      if sectionName = other then (settings.values sectionName).insert key value
      else settings.values other := by
  simp only [values, store, OrderedMap.getD, OrderedMap.get?_insert]
  split <;> rfl

theorem value?_store (settings : Settings) (sectionName key value other otherKey : Text) :
    (settings.store sectionName key value).value? other otherKey =
      if sectionName = other ∧ key = otherKey then some value
      else settings.value? other otherKey := by
  simp only [value?, values_store]
  by_cases same : sectionName = other
  · subst same
    simp
  · simp [same]

@[simp]
theorem values_addSection (settings : Settings) (sectionName other : Text) :
    (settings.addSection sectionName).values other = settings.values other := by
  simp only [values, addSection, OrderedMap.getD, OrderedMap.get?_insertIfNew]
  split
  next same => rw [← same, Option.getD_some]
  next => rfl

theorem value?_addSection (settings : Settings) (sectionName other key : Text) :
    (settings.addSection sectionName).value? other key = settings.value? other key := by
  rw [value?, values_addSection, value?]

theorem contains_store (settings : Settings) (sectionName key value other : Text) :
    OrderedMap.contains (settings.store sectionName key value) other =
      (sectionName == other || OrderedMap.contains settings other) := by
  simp only [OrderedMap.contains, store, OrderedMap.get?_insert]
  by_cases same : sectionName = other <;> simp [same]

theorem contains_addSection (settings : Settings) (sectionName other : Text) :
    OrderedMap.contains (settings.addSection sectionName) other =
      (sectionName == other || OrderedMap.contains settings other) := by
  simp only [OrderedMap.contains, addSection, OrderedMap.get?_insertIfNew]
  by_cases same : sectionName = other <;> simp [same]

theorem values_remove (settings : Settings) (sectionName key other : Text) :
    (settings.remove sectionName key).values other =
      if sectionName = other then (settings.values sectionName).erase key
      else settings.values other := by
  cases found : OrderedMap.get? settings sectionName with
  | none =>
      have absent : settings.values sectionName = ∅ := by
        rw [values, OrderedMap.getD, found, Option.getD_none]
      have unchanged : settings.remove sectionName key = settings := by rw [remove, found]
      rw [unchanged]
      split
      next same =>
        rw [← same, absent]
        rfl
      next => rfl
  | some group =>
      simp only [remove, found, values, OrderedMap.getD, OrderedMap.get?_insert]
      split <;> rfl

theorem value?_remove (settings : Settings) (sectionName key other otherKey : Text) :
    (settings.remove sectionName key).value? other otherKey =
      if sectionName = other ∧ key = otherKey then none else settings.value? other otherKey := by
  simp only [value?, values_remove]
  by_cases same : sectionName = other
  · subst same
    simp
  · simp [same]

theorem contains_remove (settings : Settings) (sectionName key other : Text) :
    OrderedMap.contains (settings.remove sectionName key) other =
      OrderedMap.contains settings other := by
  unfold remove
  cases found : OrderedMap.get? settings sectionName with
  | none => rfl
  | some group =>
      simp only [OrderedMap.contains, OrderedMap.get?_insert]
      split
      next same =>
        rw [← same, found]
        rfl
      next => rfl

theorem value?_empty (name key : Text) : value? ∅ name key = none := rfl

theorem value?_eq_some_iff {settings : Settings} {name key value : Text} :
    settings.value? name key = some value ↔
      ∃ group, (name, group) ∈ settings.entries ∧ (key, value) ∈ group.entries := by
  simp only [OrderedMap.mem_entries_iff, value?, values, OrderedMap.getD]
  cases found : OrderedMap.get? settings name with
  | none => simp
  | some group => simp

theorem contains_eq_true_iff (settings : Settings) (name : Text) :
    OrderedMap.contains settings name = true ↔ ∃ group ∈ settings.entries, group.1 = name := by
  rw [OrderedMap.contains, ← OrderedMap.mem_keys_iff, OrderedMap.keys, List.mem_map]

/-- Two tables with the same sections, keys and values. -/
def Same (left right : Settings) : Prop :=
  ∀ name, OrderedMap.contains left name = OrderedMap.contains right name ∧
    ∀ key, left.value? name key = right.value? name key

theorem Same.refl (settings : Settings) : settings.Same settings :=
  fun _ => ⟨rfl, fun _ => rfl⟩

theorem Same.symm {left right : Settings} (same : left.Same right) : right.Same left :=
  fun name => ⟨(same name).1.symm, fun key => ((same name).2 key).symm⟩

theorem Same.trans {first second third : Settings} (early : first.Same second)
    (late : second.Same third) : first.Same third :=
  fun name => ⟨(early name).1.trans (late name).1,
    fun key => ((early name).2 key).trans ((late name).2 key)⟩

/-- Tables whose sections hold the same values are the same. -/
theorem Same.of_rel {left right : Settings}
    (rel : ∀ name, Option.Rel (fun values values' : OrderedMap Text Text =>
        ∀ key, values.get? key = values'.get? key)
      (OrderedMap.get? left name) (OrderedMap.get? right name)) : left.Same right := by
  intro name
  have related := rel name
  simp only [OrderedMap.contains, value?, values, OrderedMap.getD]
  generalize OrderedMap.get? left name = group? at related ⊢
  generalize OrderedMap.get? right name = group'? at related ⊢
  cases related with
  | none => exact ⟨rfl, fun _ => rfl⟩
  | some same => exact ⟨rfl, same⟩

/-- Whether every section name satisfies `named` and every entry satisfies `stored`. -/
def Everywhere (named : Text → Prop) (stored : Text → Text → Prop) (settings : Settings) : Prop :=
  ∀ group ∈ settings.entries,
    named group.1 ∧ ∀ entry ∈ group.2.entries, stored entry.1 entry.2

instance (named : Text → Prop) (stored : Text → Text → Prop) [DecidablePred named]
    [∀ key value, Decidable (stored key value)] (settings : Settings) :
    Decidable (settings.Everywhere named stored) :=
  inferInstanceAs (Decidable (∀ _ ∈ _, _))

variable {named named' : Text → Prop} {stored stored' : Text → Text → Prop}

theorem everywhere_iff {settings : Settings} :
    settings.Everywhere named stored ↔
      (∀ name, OrderedMap.contains settings name = true → named name) ∧
        ∀ name key value, settings.value? name key = some value → stored key value := by
  constructor
  · intro all
    constructor
    · intro name present
      obtain ⟨group, grouped, rfl⟩ := (contains_eq_true_iff settings name).mp present
      exact (all group grouped).1
    · intro name key value found
      obtain ⟨group, grouped, inner⟩ := value?_eq_some_iff.mp found
      exact (all _ grouped).2 _ inner
  · rintro ⟨sections, entries⟩ group grouped
    exact ⟨sections _ ((contains_eq_true_iff settings _).mpr ⟨group, grouped, rfl⟩),
      fun entry inner => entries group.1 entry.1 entry.2
        (value?_eq_some_iff.mpr ⟨group.2, grouped, inner⟩)⟩

theorem Everywhere.imp {settings : Settings} (all : settings.Everywhere named stored)
    (onNames : ∀ name, named name → named' name)
    (onEntries : ∀ key value, stored key value → stored' key value) :
    settings.Everywhere named' stored' :=
  fun group grouped => ⟨onNames _ (all group grouped).1,
    fun entry inner => onEntries _ _ ((all group grouped).2 entry inner)⟩

theorem Everywhere.and {settings : Settings} (all : settings.Everywhere named stored)
    (all' : settings.Everywhere named' stored') :
    settings.Everywhere (fun name => named name ∧ named' name)
      fun key value => stored key value ∧ stored' key value :=
  fun group grouped => ⟨⟨(all group grouped).1, (all' group grouped).1⟩,
    fun entry inner => ⟨(all group grouped).2 entry inner, (all' group grouped).2 entry inner⟩⟩

theorem everywhere_empty : Everywhere named stored ∅ :=
  List.forall_mem_nil _

theorem Everywhere.store {settings : Settings} (all : settings.Everywhere named stored)
    {name key value : Text} (onName : named name) (onEntry : stored key value) :
    (settings.store name key value).Everywhere named stored := by
  rw [everywhere_iff] at all ⊢
  constructor
  · intro other present
    rw [contains_store, Bool.or_eq_true, beq_iff_eq] at present
    rcases present with rfl | before
    · exact onName
    · exact all.1 other before
  · intro other otherKey value' found
    rw [value?_store] at found
    split at found
    next same =>
      rw [← same.2, ← Option.some.inj found]
      exact onEntry
    next => exact all.2 other otherKey value' found

theorem Everywhere.remove {settings : Settings} (all : settings.Everywhere named stored)
    (name key : Text) : (settings.remove name key).Everywhere named stored := by
  rw [everywhere_iff] at all ⊢
  constructor
  · intro other present
    rw [contains_remove] at present
    exact all.1 other present
  · intro other otherKey value found
    rw [value?_remove] at found
    split at found
    next => cases found
    next => exact all.2 other otherKey value found

theorem Same.everywhere {left right : Settings} (same : left.Same right)
    (all : left.Everywhere named stored) : right.Everywhere named stored := by
  rw [everywhere_iff] at all ⊢
  exact ⟨fun name present => all.1 name ((same name).1.trans present),
    fun name key value found => all.2 name key value (((same name).2 key).trans found)⟩

def AllTexts (holds : Text → Prop) : Settings → Prop :=
  Everywhere holds fun key value => holds key ∧ holds value

instance (holds : Text → Prop) [DecidablePred holds] (settings : Settings) :
    Decidable (settings.AllTexts holds) :=
  inferInstanceAs (Decidable (settings.Everywhere _ _))

end Startup.Settings
