import Startup.Proofs.Arguments.Given
import Startup.Proofs.Arguments.Rendering
import Startup.Proofs.Arguments.Stepwise

/-!
# Where everything that is collected comes from

At each point of a scan, what was collected comes from the arguments so far: each value belongs to an
option of the schema and stands on the command line, and the positional arguments stand there in the
same order. One more argument keeps this up, wherever the scan is and whatever the argument says, so
it holds at the end as well, be it a success or an error in the middle of an argument.
-/

namespace Startup.Arguments

/-- How a value of an option stands among some arguments. -/
inductive Stands (arguments : List Text) (option : Descriptor) (value : Text) : Prop where
  | whole (member : value ∈ arguments)
  | assigned (free : CodePoint.ofChar '=' ∉ option.long)
      (member : CodePoint.ofChar '-' :: CodePoint.ofChar '-' ::
        (option.long ++ CodePoint.ofChar '=' :: value) ∈ arguments)
  | bundled {flags : Text} {name : CodePoint} (short : option.short? = some name)
      (nonempty : value ≠ []) (first : (flags ++ name :: value).head? ≠ some (CodePoint.ofChar '-'))
      (member : CodePoint.ofChar '-' :: (flags ++ name :: value) ∈ arguments)

theorem Stands.mono {arguments more : List Text} {option : Descriptor} {value : Text}
    (stands : Stands arguments option value) (within : arguments ⊆ more) :
    Stands more option value := by
  cases stands with
  | whole member => exact .whole (within member)
  | assigned free member => exact .assigned free (within member)
  | bundled short nonempty first member => exact .bundled short nonempty first (within member)

def IsPositional (argument : Text) : Prop :=
  argument ≠ [] ∧ (argument = [CodePoint.ofChar '-'] ∨
    argument.head? ≠ some (CodePoint.ofChar '-'))

/-- Whether all that was collected comes from some arguments. -/
structure Collected.ComesFrom (schema : Schema) (arguments : List Text) (collected : Collected) :
    Prop where
  values : ∀ key value, collected.values.get? key = some value →
    ∃ option ∈ schema, option.key = key ∧ option.Admits value ∧
      (option.takesValue = true → Stands arguments option value)
  order : collected.positional.Sublist arguments
  positional : ∀ argument ∈ collected.positional, IsPositional argument

/-- Whether all that was collected at a point of the scan comes from some arguments, and an option
that waits for its value is one that takes a value. -/
def Step.ComesFrom (schema : Schema) (arguments : List Text) : Step → Prop
  | done collected => collected.ComesFrom schema arguments
  | awaiting collected option _ =>
      collected.ComesFrom schema arguments ∧ option ∈ schema ∧ option.takesValue = true
  | failed collected _ => collected.ComesFrom schema arguments

namespace Collected

variable {schema : Schema} {arguments more : List Text} {collected : Collected}

theorem comesFrom_empty : Collected.empty.ComesFrom schema [] where
  values _ _ stored := nomatch stored
  order := List.Sublist.refl []
  positional := List.forall_mem_nil _

theorem ComesFrom.mono (comes : collected.ComesFrom schema arguments)
    (within : arguments.Sublist more) : collected.ComesFrom schema more where
  values key value stored := by
    obtain ⟨option, known, same, admits, stands⟩ := comes.values key value stored
    exact ⟨option, known, same, admits, fun takes => (stands takes).mono within.subset⟩
  order := comes.order.trans within
  positional := comes.positional

theorem ComesFrom.put (comes : collected.ComesFrom schema arguments) {option : Descriptor}
    (known : option ∈ schema) {value : Text} (admits : option.Admits value)
    (stands : option.takesValue = true → Stands arguments option value) :
    (collected.put option.key value).ComesFrom schema arguments where
  values key stored found := by
    rw [Collected.put, OrderedMap.get?_insert] at found
    split at found
    next same => exact ⟨option, known, same, Option.some.inj found ▸ admits,
      Option.some.inj found ▸ stands⟩
    next => exact comes.values key stored found
  order := comes.order
  positional := comes.positional

theorem ComesFrom.push (comes : collected.ComesFrom schema arguments) {argument : Text}
    (positional : IsPositional argument) :
    (collected.push argument).ComesFrom schema (arguments ++ [argument]) where
  values := (comes.mono (List.sublist_append_left arguments [argument])).values
  order := comes.order.append (List.Sublist.refl [argument])
  positional := by
    rw [Collected.push, List.forall_mem_append]
    exact ⟨comes.positional, List.forall_mem_singleton.mpr positional⟩

theorem ComesFrom.putFlag (comes : collected.ComesFrom schema arguments) {option : Descriptor}
    (known : option ∈ schema) (takesNone : option.takesValue = false) :
    (collected.put option.key flagValue).ComesFrom schema arguments := by
  refine comes.put known ?_ fun takes => absurd (takesNone.symm.trans takes) Bool.noConfusion
  rw [Descriptor.Admits, takesNone, if_neg Bool.false_ne_true]

end Collected

section Argument

variable {schema : Schema} {arguments : List Text} {collected : Collected}
  (comes : collected.ComesFrom schema arguments)

include comes

theorem comesFrom_acceptInline {option : Descriptor} (known : option ∈ schema)
    (takes : option.takesValue = true) {value : Text} (stands : Stands arguments option value)
    (form : Text) : (acceptInline collected option form value).ComesFrom schema arguments := by
  unfold acceptInline accept
  cases accepted : option.accepts value with
  | false => exact comes
  | true =>
      refine comes.put known ?_ fun _ => stands
      rwa [Descriptor.Admits, if_pos takes]

theorem comesFrom_optionStep {option : Descriptor} (known : option ∈ schema) {inside : Text}
    (stands : inside ≠ [] → Stands arguments option inside) (form : Text) :
    (optionStep collected option form inside).ComesFrom schema arguments := by
  unfold optionStep
  cases takes : option.takesValue with
  | true =>
      by_cases empty : inside = []
      · rw [if_pos rfl, if_pos empty]
        exact ⟨comes, known, takes⟩
      · rw [if_pos rfl, if_neg empty]
        exact comesFrom_acceptInline comes known takes (stands empty) form
  | false =>
      by_cases empty : inside = []
      · rw [if_neg Bool.false_ne_true, if_pos empty]
        exact comes.putFlag known takes
      · rw [if_neg Bool.false_ne_true, if_neg empty]
        exact comes

theorem comesFrom_readLong {text : Text}
    (member : CodePoint.ofChar '-' :: CodePoint.ofChar '-' :: text ∈ arguments) :
    (readLong schema collected text).ComesFrom schema arguments := by
  -- The name ends at the first equals sign, if there is one.
  obtain ⟨name, inside, parts, written⟩ : ∃ name inside,
      (Text.cut? '=' text).getD (text, []) = (name, inside) ∧
        (inside ≠ [] → text = name ++ CodePoint.ofChar '=' :: inside ∧
          CodePoint.ofChar '=' ∉ name) := by
    cases cut : Text.cut? '=' text with
    | none => exact ⟨text, [], rfl, absurd rfl⟩
    | some pair => exact ⟨pair.1, pair.2, rfl, fun _ => Text.cut?_eq_some_iff.mp cut⟩
  rw [readLong_eq parts]
  cases found : schema.findLong? name with
  | none => exact comes
  | some option =>
      obtain rfl := long_of_findLong? found
      refine comesFrom_optionStep comes (mem_of_findLong? found) (fun nonempty => ?_) _
      obtain ⟨rfl, free⟩ := written nonempty
      exact .assigned free member

/-- A bundle is read from the left, with the options in `flags` already behind. -/
theorem comesFrom_readBundle (flags : Text) {text : Text}
    (first : (flags ++ text).head? ≠ some (CodePoint.ofChar '-'))
    (member : CodePoint.ofChar '-' :: (flags ++ text) ∈ arguments) :
    (readBundle schema collected text).ComesFrom schema arguments := by
  induction text generalizing collected flags with
  | nil => exact comes
  | cons name rest ih =>
      cases found : schema.findShort? name with
      | none =>
          rw [readBundle, found]
          exact comes
      | some option =>
          have known := mem_of_findShort? found
          rw [readBundle_cons found]
          split
          next goesOn =>
            rw [List.append_cons] at first member
            exact ih (comes.putFlag known goesOn.1) _ first member
          next =>
            refine comesFrom_optionStep comes known (fun inside => ?_) _
            exact .bundled (short_of_findShort? found) inside first member

end Argument

/-- One more argument: whatever it adds stands in the arguments so far or in itself. -/
theorem comesFrom_readArgument {schema : Schema} {arguments : List Text} {collected : Collected}
    (comes : collected.ComesFrom schema arguments) (argument : Text) :
    (readArgument schema collected argument).ComesFrom schema (arguments ++ [argument]) := by
  have later := comes.mono (List.sublist_append_left arguments [argument])
  have member : argument ∈ arguments ++ [argument] := List.mem_append_right _ List.mem_cons_self
  match argument with
  | [] => exact later
  | [single] =>
      refine comes.push ⟨List.cons_ne_nil _ _, ?_⟩
      by_cases dash : single = '-'
      · exact Or.inl (by rw [dash])
      · exact Or.inr fun same => dash (Option.some.inj same)
  | first :: second :: rest =>
      rw [readArgument]
      by_cases dash : first = '-'
      · subst dash
        rw [if_pos rfl]
        by_cases long : second = '-'
        · subst long
          rw [if_pos rfl]
          exact comesFrom_readLong later member
        · rw [if_neg long]
          exact comesFrom_readBundle later [] (fun same => long (Option.some.inj same)) member
      · rw [if_neg dash]
        exact comes.push ⟨List.cons_ne_nil _ _, Or.inr fun same => dash (Option.some.inj same)⟩

variable {schema : Schema}

theorem Step.ComesFrom.next {arguments : List Text} {step : Step}
    (comes : step.ComesFrom schema arguments) (argument : Text) :
    (step.next schema argument).ComesFrom schema (arguments ++ [argument]) := by
  have sublist := List.sublist_append_left arguments [argument]
  cases step with
  | done collected => exact comesFrom_readArgument comes argument
  | awaiting collected option form =>
      obtain ⟨comes, known, takes⟩ := comes
      exact comesFrom_acceptInline (comes.mono sublist) known takes
        (.whole (List.mem_append_right _ List.mem_cons_self)) form
  | failed collected error => exact Collected.ComesFrom.mono comes sublist

theorem Step.ComesFrom.run {before : List Text} {step : Step}
    (comes : step.ComesFrom schema before) (arguments : List Text) :
    (step.run schema arguments).ComesFrom schema (before ++ arguments) := by
  induction arguments generalizing before step with
  | nil => rwa [List.append_nil]
  | cons argument rest ih =>
      rw [List.append_cons]
      exact ih (comes.next argument)

theorem Step.ComesFrom.outcome {arguments : List Text} {step : Step}
    (comes : step.ComesFrom schema arguments) : step.outcome.1.ComesFrom schema arguments := by
  cases step with
  | done collected => exact comes
  | awaiting collected option form => exact comes.1
  | failed collected error => exact comes

theorem comesFrom_scan (arguments : List Text) :
    (scan schema .empty arguments).1.ComesFrom schema arguments := by
  have start : (Step.done .empty).ComesFrom schema [] := Collected.comesFrom_empty
  rw [scan_eq_outcome]
  exact (start.run arguments).outcome

/-- The check for required options changes nothing of what was collected. -/
theorem fst_parse (schema : Schema) (arguments : List Text) :
    (parse schema arguments).1 = (scan schema .empty arguments).1 := by
  unfold parse
  split <;> next ends => rw [ends]

theorem ArgumentError.message_ne_nil (error : ArgumentError) : error.message ≠ [] := by
  obtain ⟨cause, form⟩ := error
  cases cause <;> exact List.cons_ne_nil _ _

namespace Interface

/-- The last error is shown as an empty text exactly when there is none. -/
theorem lastError_eq_nil_iff (interface : Interface) :
    interface.lastError = [] ↔ interface.error? = none := by
  unfold lastError
  cases interface.error? with
  | none => exact iff_of_true rfl rfl
  | some error => exact iff_of_false error.message_ne_nil (Option.some_ne_none error)

/-- Whether an interface holds what a command line says, and nothing else. -/
structure Accounts (interface : Interface) (arguments : List Text) : Prop where
  keys : ∀ key ∈ interface.collected.values.keys,
    ∃! option, option ∈ interface.schema ∧ option.key = key
  flags : ∀ option ∈ interface.schema, option.takesValue = false →
    ∀ value, interface.collected.values.get? option.key = some value → value = flagValue
  values : ∀ option ∈ interface.schema, option.takesValue = true →
    ∀ value, interface.collected.values.get? option.key = some value →
      option.accepts value = true ∧ Stands arguments option value
  order : interface.collected.positional.Sublist arguments
  positional : ∀ argument ∈ interface.collected.positional, IsPositional argument
  error : interface.lastError = [] ↔ interface.error? = none

theorem accounts_of_comesFrom {interface : Interface} {arguments : List Text}
    (apart : interface.schema.Apart)
    (comes : interface.collected.ComesFrom interface.schema arguments) :
    interface.Accounts arguments := by
  -- No other option has the key under which a value is stored.
  have admitted : ∀ option ∈ interface.schema, ∀ value,
      interface.collected.values.get? option.key = some value → option.Admits value ∧
        (option.takesValue = true → Stands arguments option value) := by
    intro option known value stored
    obtain ⟨other, known', same, admits, stands⟩ := comes.values option.key value stored
    obtain rfl := apart.eq_of_key known' known same
    exact ⟨admits, stands⟩
  refine ⟨fun key present => ?_, fun option known flag value stored => ?_,
    fun option known takes value stored => ?_, comes.order, comes.positional,
    lastError_eq_nil_iff interface⟩
  · rw [OrderedMap.mem_keys_iff, Option.isSome_iff_exists] at present
    obtain ⟨value, stored⟩ := present
    obtain ⟨option, known, same, -⟩ := comes.values key value stored
    exact ⟨option, ⟨known, same⟩, fun other ⟨known', same'⟩ =>
      apart.eq_of_key known' known (same'.trans same.symm)⟩
  · have admits := (admitted option known value stored).1
    rwa [Descriptor.Admits, flag, if_neg Bool.false_ne_true] at admits
  · obtain ⟨admits, stands⟩ := admitted option known value stored
    rw [Descriptor.Admits, if_pos takes] at admits
    exact ⟨admits, stands takes⟩

/-- Where no two options share a name, an interface holds after each command line what this one
says, be it accepted or not. Nothing is left of what the interface held before: any other interface
with the same options comes to hold the same. -/
theorem accounts_parse {interface : Interface} (apart : interface.schema.Apart)
    (arguments : List Text) (path? : Option Text) :
    (interface.parse arguments path?).Accounts arguments ∧
      ∀ other : Interface, other.schema = interface.schema → ∀ otherPath?,
        (other.parse arguments otherPath?).collected = (interface.parse arguments path?).collected ∧
          (other.parse arguments otherPath?).error? = (interface.parse arguments path?).error? := by
  constructor
  · refine accounts_of_comesFrom apart ?_
    change (Arguments.parse interface.schema arguments).1.ComesFrom interface.schema arguments
    rw [fst_parse]
    exact comesFrom_scan arguments
  · intro other same otherPath?
    unfold parse
    rw [same]
    exact ⟨rfl, rfl⟩

/-- An interface that has read a complete command line before it reads a wrong one. -/
def reused : Interface :=
  ({ Interface.new "tool" [] "1" with schema := smallSchema }).parse completeLine none

theorem accounts_reused :
    reused.schema.Apart ∧ (reused.parse failingLine none).Accounts failingLine ∧
      (reused.parse failingLine none).lastError ≠ [] := by
  have apart : reused.schema.Apart := by decide
  obtain ⟨accounts, -⟩ := accounts_parse apart failingLine none
  exact ⟨apart, accounts, fun empty => absurd (accounts.error.mp empty) (by decide)⟩

end Interface

end Startup.Arguments
