import Startup.Proofs.Arguments.Given
import Startup.Proofs.Arguments.Rendering

/-!
# Options read under either of their names

A value is stored under the key of its option, which is the long name if there is one. The default
value of an option, however, is found under both names. So the two names of an option agree as long
as the option is absent; once it is given, the short name still reads the default value, or nothing.
-/

namespace Startup.Arguments

theorem key_eq_long {option : Descriptor} (named : option.long ≠ []) : option.key = option.long :=
  if_neg named

/-- A command line stores values under keys of options only. -/
theorem exists_key_of_get? {interface : Interface} {arguments : List Text} {path? : Option Text}
    (accepted : (interface.parse arguments path?).error? = none) {key value : Text}
    (stored : (interface.parse arguments path?).collected.values.get? key = some value) :
    ∃ option ∈ interface.schema, option.key = key := by
  obtain ⟨items, derives, collected⟩ := exists_derivation_of_parse accepted
  rw [collected, get?_meaning] at stored
  obtain ⟨item, member, bound⟩ := mem_valuesOf.mp (List.mem_of_getLast? stored)
  obtain ⟨option, known, same, -⟩ := admits_of_mem_bindings (derives.fits item member) bound
  exact ⟨option, known, same⟩

theorem Schema.Apart.find?_eq_of_matchesName {schema : Schema} {option : Descriptor}
    (apart : schema.Apart) (known : option ∈ schema) {name : Text}
    (named : option.matchesName name = true) : schema.find? name = some option :=
  apart.find?_eq known named named fun _ test => test

namespace Interface

section Absent

variable {interface : Interface} {name : Text}
  (absent : interface.collected.values.get? name = none)

include absent

/-- Where nothing is stored, the schema alone says what is read. -/
theorem value?_of_absent :
    interface.value? name = (interface.schema.find? name).bind fun option =>
      if option.defaultValue = [] then none else some option.defaultValue := by
  rw [value?, absent]
  cases interface.schema.find? name <;> rfl

theorem truth?_of_absent : interface.truth? name = none := by
  rw [truth?, has, OrderedMap.contains, absent]
  rfl

end Absent

theorem exists_truth?_of_has {interface : Interface} {name : Text}
    (given : interface.has name = true) : ∃ truth, interface.truth? name = some truth := by
  rw [truth?, given]
  exact ⟨_, rfl⟩

/-- Whether two names read the same, whatever is to be read when there is no value. -/
structure ReadsAlike (interface : Interface) (first second : Text) : Prop where
  value : ∀ fallback, interface.value first fallback = interface.value second fallback
  integer : ∀ fallback,
    (interface.integer? first).getD fallback = (interface.integer? second).getD fallback
  truth : ∀ fallback,
    (interface.truth? first).getD fallback = (interface.truth? second).getD fallback

theorem ReadsAlike.refl (interface : Interface) (name : Text) : interface.ReadsAlike name name :=
  ⟨fun _ => rfl, fun _ => rfl, fun _ => rfl⟩

theorem readsAlike_of_eq {interface : Interface} {first second : Text}
    (value? : interface.value? first = interface.value? second)
    (truth? : interface.truth? first = interface.truth? second) :
    interface.ReadsAlike first second := by
  have value : ∀ fallback, interface.value first fallback = interface.value second fallback :=
    fun fallback => congrArg (·.getD fallback) value?
  refine ⟨value, fun fallback => ?_, fun fallback => congrArg (·.getD fallback) truth?⟩
  rw [integer?, integer?, value]

end Interface

section Accepted

variable {interface : Interface} (apart : Schema.Apart interface.schema) {option : Descriptor}
  (known : option ∈ interface.schema) (short : option.short ≠ []) (long : option.long ≠ [])
  {arguments : List Text} {path? : Option Text}
  (accepted : (interface.parse arguments path?).error? = none)

include apart known short long accepted

/-- Nothing is ever stored under the short name of an option that has a long one. -/
theorem get?_short_eq_none (different : option.short ≠ option.long) :
    (interface.parse arguments path?).collected.values.get? option.short = none := by
  by_contra present
  obtain ⟨value, stored⟩ := Option.ne_none_iff_exists'.mp present
  obtain ⟨other, known', same⟩ := exists_key_of_get? accepted stored
  have named : option.matchesName option.short = true := matchesName_iff.mpr ⟨short, Or.inl rfl⟩
  have named' : other.matchesName option.short = true := same ▸ matchesName_key other
  obtain rfl := apart.eq_of_matchesName known known' named named'
  exact different (same.symm.trans (key_eq_long long))

/-- After an accepted command line, the two names of an option read the same exactly when the option
is absent, or its names are the same. -/
theorem readsAlike_iff_absent :
    (interface.parse arguments path?).ReadsAlike option.short option.long ↔
      option.short = option.long ∨ (interface.parse arguments path?).has option.key = false := by
  by_cases same : option.short = option.long
  · rw [same]
    exact ⟨fun _ => Or.inl rfl, fun _ => .refl _ _⟩
  rw [or_iff_right same, key_eq_long long]
  have nothing := get?_short_eq_none apart known short long accepted same
  constructor
  · intro alike
    by_contra given
    rw [Bool.not_eq_false] at given
    obtain ⟨truth, read⟩ := Interface.exists_truth?_of_has given
    -- The short name has no truth value, so a fallback that is not the stored one tells them apart.
    have both := alike.truth !truth
    rw [Interface.truth?_of_absent nothing, read] at both
    simp at both
  · intro absent
    have nothing' :
        (interface.parse arguments path?).collected.values.get? option.long = none :=
      Option.not_isSome_iff_eq_none.mp (Bool.eq_false_iff.mp absent)
    have find : Schema.find? interface.schema option.short =
        Schema.find? interface.schema option.long := by
      rw [apart.find?_eq_of_matchesName known (matchesName_iff.mpr ⟨short, Or.inl rfl⟩),
        apart.find?_eq_of_matchesName known (matchesName_long long)]
    refine Interface.readsAlike_of_eq ?_ ?_
    · rw [Interface.value?_of_absent nothing, Interface.value?_of_absent nothing']
      exact congrArg (Option.bind · _) find
    · rw [Interface.truth?_of_absent nothing, Interface.truth?_of_absent nothing']

end Accepted

def portOption : Descriptor where
  short? := some 'p'
  long := "port"
  description := []
  takesValue := true
  required := false
  defaultValue := "8080"
  validator? := none
  named := Or.inl rfl

def ported : Interface :=
  { Interface.new "tool" [] "1" with
    schema := [portOption,
      { short? := some 'q', long := "quiet", description := [], takesValue := false,
        required := false, defaultValue := [], validator? := none, named := Or.inl rfl }] }

/-- The names of an option agree where it is absent, and not where it stands on the command line. -/
theorem readsAlike_ported :
    (ported.parse ["-q", "in"] none).ReadsAlike "p" "port" ∧
      ¬ (ported.parse ["-q", "-p1"] none).ReadsAlike "p" "port" := by
  have apart : Schema.Apart ported.schema := by decide
  have known : portOption ∈ ported.schema := List.mem_cons_self
  have absent : (ported.parse ["-q", "in"] none).ReadsAlike portOption.short portOption.long ↔
      portOption.short = portOption.long ∨
        (ported.parse ["-q", "in"] none).has portOption.key = false :=
    readsAlike_iff_absent apart known (by decide) (by decide) (by decide)
  have given : (ported.parse ["-q", "-p1"] none).ReadsAlike portOption.short portOption.long ↔
      portOption.short = portOption.long ∨
        (ported.parse ["-q", "-p1"] none).has portOption.key = false :=
    readsAlike_iff_absent apart known (by decide) (by decide) (by decide)
  exact ⟨absent.mpr (by decide), fun alike => absurd (given.mp alike) (by decide)⟩

/-- The short name reads the default value although another one is given. -/
theorem not_readsAlike_port :
    Schema.Apart ported.schema ∧ (ported.parse ["--port=9000"] none).error? = none ∧
      ¬ (ported.parse ["--port=9000"] none).ReadsAlike portOption.short portOption.long := by
  refine ⟨by decide, by decide, fun alike => ?_⟩
  have values := alike.value []
  revert values
  decide

end Startup.Arguments
