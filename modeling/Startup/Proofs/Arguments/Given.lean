import Startup.Arguments.Interface
import Startup.Proofs.Arguments.Scan
import Startup.Proofs.OrderedMap
import Mathlib.Data.List.Nodup

/-!
# The values that options are given

An accepted command line gives values to keys, and the last one counts. Each of them is the value
of an option of the schema with that key: the word for a flag, or a value that passed the test of
the option, in whatever form and however often the option stands on the command line.
-/

namespace Startup

namespace Arguments

def valuesOf (key : Text) (items : List Item) : List Text :=
  ((items.flatMap Item.bindings).filter fun binding => binding.1 = key).map Prod.snd

/-- The value that an option has in the end, if some item gives it one. -/
def lastValueOf? (option : Descriptor) (items : List Item) : Option Text :=
  (valuesOf option.key items).getLast?

theorem get?_meaning (items : List Item) (key : Text) :
    (meaning items).values.get? key = (valuesOf key items).getLast? := by
  rw [meaning, OrderedMap.ofList, OrderedMap.get?_insertAll_eq_getLast?, OrderedMap.get?_empty,
    Option.or_none, valuesOf]

theorem mem_valuesOf {key value : Text} {items : List Item} :
    value ∈ valuesOf key items ↔ ∃ item ∈ items, (key, value) ∈ item.bindings := by
  simp [valuesOf, List.mem_flatMap]

def Descriptor.Admits (option : Descriptor) (value : Text) : Prop :=
  if option.takesValue = true then option.accepts value = true else value = flagValue

theorem Form.Fits.admits {option : Descriptor} {form : Form} (fits : form.Fits option) :
    option.Admits form.value := by
  unfold Descriptor.Admits
  cases form with
  | flag =>
      have flag : option.takesValue = false := fits
      rw [flag, if_neg Bool.false_ne_true]
      rfl
  | attached value =>
      rw [if_pos fits.1]
      exact fits.2.2
  | separate value =>
      rw [if_pos fits.1]
      exact fits.2

theorem mem_of_findLong? {schema : Schema} {name : Text} {option : Descriptor}
    (found : schema.findLong? name = some option) : option ∈ schema :=
  List.mem_of_find?_eq_some found

theorem mem_of_findShort? {schema : Schema} {name : CodePoint} {option : Descriptor}
    (found : schema.findShort? name = some option) : option ∈ schema :=
  List.mem_of_find?_eq_some found

theorem long_of_findLong? {schema : Schema} {name : Text} {option : Descriptor}
    (found : schema.findLong? name = some option) : option.long = name := by
  have test := List.find?_some found
  rw [Bool.and_eq_true, beq_iff_eq] at test
  exact test.2

theorem short_of_findShort? {schema : Schema} {name : CodePoint} {option : Descriptor}
    (found : schema.findShort? name = some option) : option.short? = some name := by
  have test := List.find?_some found
  exact beq_iff_eq.mp test

/-- What an item gives to a key is a value of an option with that key. -/
theorem admits_of_mem_bindings {schema : Schema} {item : Item} (fits : item.Fits schema)
    {key value : Text} (bound : (key, value) ∈ item.bindings) :
    ∃ option ∈ schema, option.key = key ∧ option.Admits value := by
  cases item with
  | blank => cases bound
  | positional argument => cases bound
  | long name equals option form =>
      obtain ⟨-, -, found, fits, -⟩ := fits
      cases List.mem_singleton.mp bound
      exact ⟨option, mem_of_findLong? found, rfl, fits.admits⟩
  | bundle flags name option form =>
      obtain ⟨-, lookups, found, fits⟩ := fits
      rcases List.mem_append.mp bound with inFlags | last
      · obtain ⟨flag, member, same⟩ := List.mem_map.mp inFlags
        obtain ⟨lookup, takesNone⟩ := lookups flag member
        cases same
        refine ⟨flag.2, mem_of_findShort? lookup, rfl, ?_⟩
        rw [Descriptor.Admits, takesNone, if_neg Bool.false_ne_true]
      · cases List.mem_singleton.mp last
        exact ⟨option, mem_of_findShort? found, rfl, fits.admits⟩

/-- Options whose keys differ do not get each other's values. -/
theorem admits_of_mem_valuesOf {schema : Schema} (distinct : (schema.map Descriptor.key).Nodup)
    {items : List Item} (fits : ∀ item ∈ items, item.Fits schema) {option : Descriptor}
    (known : option ∈ schema) {value : Text} (given : value ∈ valuesOf option.key items) :
    option.Admits value := by
  obtain ⟨item, member, bound⟩ := mem_valuesOf.mp given
  obtain ⟨other, known', same, admits⟩ := admits_of_mem_bindings (fits item member) bound
  obtain rfl := List.inj_on_of_nodup_map distinct known' known same
  exact admits

theorem exists_derivation_of_parse {interface : Interface} {arguments : List Text}
    {path? : Option Text} (accepted : (interface.parse arguments path?).error? = none) :
    ∃ items, Derives interface.schema items arguments ∧
      (interface.parse arguments path?).collected = meaning items := by
  have parsed : parse interface.schema arguments =
      ((interface.parse arguments path?).collected, none) := Prod.ext rfl accepted
  obtain ⟨scanned, -⟩ := parse_eq_iff.mp parsed
  obtain ⟨items, derives, collected⟩ := scan_eq_iff.mp scanned
  rw [← meaning_eq_foldl] at collected
  exact ⟨items, derives, collected.symm⟩

section Collected

variable {interface : Interface} {items : List Item} (collected : interface.collected = meaning items)
  (option : Descriptor)

include collected

theorem has_eq_isSome : interface.has option.key = (lastValueOf? option items).isSome := by
  rw [Interface.has, OrderedMap.contains, collected, get?_meaning, lastValueOf?]

/-- A value that is given hides the default value. -/
theorem value_of_given {value : Text} (given : lastValueOf? option items = some value)
    (fallback : Text) : interface.value option.key fallback = value := by
  have stored : interface.collected.values.get? option.key = some value := by
    rw [collected, get?_meaning]
    exact given
  rw [Interface.value, Interface.value?, stored]
  rfl

end Collected

end Arguments

end Startup
