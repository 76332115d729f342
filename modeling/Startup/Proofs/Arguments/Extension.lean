import Startup.Arguments.Interface
import Startup.Proofs.Arguments.Scan
import Startup.Proofs.Arguments.Stepwise

/-!
# Schemas that grow

Options that come at the end of a schema are found only under names that no option had before, also
where they share names with earlier ones. So a scan that does not stop at an unknown name goes the
same way in the longer schema, whatever else it stops at; and options that are not required add
nothing to the check at the end.
-/

namespace Startup.Arguments

namespace Schema

theorem findLong?_append {schema : Schema} {name : Text} {option : Descriptor}
    (found : schema.findLong? name = some option) (more : Schema) :
    findLong? (schema ++ more) name = some option := by
  unfold findLong? at found ⊢
  rw [List.find?_append, found, Option.some_or]

theorem findShort?_append {schema : Schema} {name : CodePoint} {option : Descriptor}
    (found : schema.findShort? name = some option) (more : Schema) :
    findShort? (schema ++ more) name = some option := by
  unfold findShort? at found ⊢
  rw [List.find?_append, found, Option.some_or]

end Schema

def Step.IsUnknown : Step → Prop
  | failed _ error => error.cause = .unknown
  | _ => False

theorem Step.isUnknown_iff {step : Step} :
    step.IsUnknown ↔ ∃ error ∈ step.outcome.2, error.cause = .unknown := by
  cases step <;> simp [IsUnknown, outcome]

/-- A scan does not get beyond an unknown name. -/
theorem Step.IsUnknown.run {step : Step} (unknown : step.IsUnknown) (schema : Schema)
    (arguments : List Text) : (step.run schema arguments).IsUnknown := by
  cases step with
  | done collected => cases unknown
  | awaiting collected option form => cases unknown
  | failed collected error =>
      rw [run_failed]
      exact unknown

section Steps

variable {schema : Schema} (more : Schema)

theorem readLong_append {collected : Collected} {text : Text}
    (known : ¬ (readLong schema collected text).IsUnknown) :
    readLong (schema ++ more) collected text = readLong schema collected text := by
  obtain ⟨⟨name, inside⟩, parts⟩ :
      ∃ parts, (Text.cut? '=' text).getD (text, []) = parts := ⟨_, rfl⟩
  rw [readLong_eq parts] at known
  rw [readLong_eq parts, readLong_eq parts]
  cases found : schema.findLong? name with
  | none =>
      rw [found] at known
      exact absurd rfl known
  | some option => rw [Schema.findLong?_append found]

theorem readBundle_append {collected : Collected} {text : Text}
    (known : ¬ (readBundle schema collected text).IsUnknown) :
    readBundle (schema ++ more) collected text = readBundle schema collected text := by
  induction text generalizing collected with
  | nil => rfl
  | cons name rest ih =>
      rw [readBundle] at known
      rw [readBundle, readBundle]
      cases found : schema.findShort? name with
      | none =>
          rw [found] at known
          exact absurd rfl known
      | some option =>
          rw [found] at known
          rw [Schema.findShort?_append found]
          cases takes : option.takesValue with
          | true => simp only [takes, if_true]
          | false =>
              simp only [takes, Bool.false_eq_true, if_false] at known ⊢
              exact ih known

theorem readArgument_append {collected : Collected} {argument : Text}
    (known : ¬ (readArgument schema collected argument).IsUnknown) :
    readArgument (schema ++ more) collected argument =
      readArgument schema collected argument := by
  match argument with
  | [] => rfl
  | [single] => rfl
  | first :: second :: rest =>
      rw [readArgument] at known
      rw [readArgument, readArgument]
      by_cases dash : first = '-'
      · rw [if_pos dash] at known
        rw [if_pos dash, if_pos dash]
        by_cases long : second = '-'
        · rw [if_pos long] at known
          rw [if_pos long, if_pos long]
          exact readLong_append more known
        · rw [if_neg long] at known
          rw [if_neg long, if_neg long]
          exact readBundle_append more known
      · rw [if_neg dash, if_neg dash]

/-- One step goes the same way in the longer schema unless a name is unknown in the shorter one. -/
theorem Step.next_append {step : Step} {argument : Text}
    (known : ¬ (step.next schema argument).IsUnknown) :
    step.next (schema ++ more) argument = step.next schema argument := by
  cases step with
  | done collected => exact readArgument_append more known
  | awaiting collected option form => rfl
  | failed collected error => rfl

theorem Step.run_append_schema {step : Step} {arguments : List Text}
    (known : ¬ (step.run schema arguments).IsUnknown) :
    step.run (schema ++ more) arguments = step.run schema arguments := by
  induction arguments generalizing step with
  | nil => rfl
  | cons argument rest ih =>
      rw [run_cons] at known
      have first : ¬ (step.next schema argument).IsUnknown := fun unknown =>
        known (unknown.run schema rest)
      rw [run_cons, run_cons, next_append more first, ih known]

end Steps

theorem scan_append_schema {schema : Schema} {collected : Collected} {arguments : List Text}
    (known : ∀ error ∈ (scan schema collected arguments).2, error.cause ≠ .unknown)
    (more : Schema) :
    scan (schema ++ more) collected arguments = scan schema collected arguments := by
  rw [scan_eq_outcome] at known
  rw [scan_eq_outcome, scan_eq_outcome, Step.run_append_schema more]
  rw [Step.isUnknown_iff]
  rintro ⟨error, ended, unknown⟩
  exact known error ended unknown

/-- Options that are not required are never missing. -/
theorem missing?_append {schema more : Schema}
    (optional : ∀ option ∈ more, option.required = false) (collected : Collected) :
    missing? (schema ++ more) collected = missing? schema collected := by
  have optional_present : List.find? (fun option : Descriptor =>
      option.required && !collected.values.contains option.key) more = none := by
    refine List.find?_eq_none.mpr fun option member => ?_
    rw [optional option member, Bool.false_and]
    exact Bool.false_ne_true
  unfold missing?
  dsimp only
  rw [List.find?_append, optional_present, Option.or_none]

/-- A command line is checked for required options when the scan has found no error. -/
theorem parse_eq_or (schema : Schema) (arguments : List Text) :
    parse schema arguments =
      ((scan schema .empty arguments).1,
        (scan schema .empty arguments).2.or
          (missing? schema (scan schema .empty arguments).1)) := by
  unfold parse
  split
  next scanned => rw [scanned]; rfl
  next scanned => rw [scanned]; rfl

theorem parse_append_schema {schema more : Schema}
    (optional : ∀ option ∈ more, option.required = false) {arguments : List Text}
    (known : ∀ error ∈ (parse schema arguments).2, error.cause ≠ .unknown) :
    parse (schema ++ more) arguments = parse schema arguments := by
  have scanned : scan (schema ++ more) .empty arguments = scan schema .empty arguments := by
    refine scan_append_schema (fun error ended => known error ?_) more
    rw [parse_eq_or, ended, Option.some_or]
    rfl
  rw [parse_eq_or, parse_eq_or schema, scanned, missing?_append optional]

/-- Adding an option that is not required leaves every command line as it was that was accepted or
had any error but an unknown option: only the schema differs afterwards, while the values, the
positional arguments and the error, if there is one, are the same. -/
theorem Interface.parse_add {option : Descriptor} (optional : option.required = false)
    {interface : Interface} {arguments : List Text} {path? : Option Text}
    (known : ∀ error ∈ (interface.parse arguments path?).error?, error.cause ≠ .unknown) :
    (interface.add option).parse arguments path? =
      (interface.parse arguments path?).add option := by
  have parsed : Arguments.parse (interface.schema ++ [option]) arguments =
      Arguments.parse interface.schema arguments :=
    parse_append_schema (by simpa using optional) known
  simp only [Interface.parse, Interface.add, parsed]

/-- An option that shares its short name with one option of the small schema and its long name with
the other one. -/
def clashing : Descriptor where
  short? := some 'v'
  long := "level"
  description := []
  takesValue := true
  required := false
  defaultValue := "0"
  validator? := none
  named := Or.inl rfl

def small : Interface :=
  { Interface.new "tool" [] "1" with schema := smallSchema }

/-- The flag stays a flag, and a value that is too long stays rejected, with what was collected
before it. -/
theorem parse_add_clashing :
    ((small.add clashing).parse completeLine none).error? = none ∧
      ((small.add clashing).parse completeLine none).collected =
        ⟨OrderedMap.ofList [("verbose", "true"), ("level", "-1")], ["in"]⟩ ∧
      ((small.add clashing).parse ["in", "-vllong", "out"] none).error? =
        some ⟨.valueRejected "long", "-l"⟩ ∧
      ((small.add clashing).parse ["in", "-vllong", "out"] none).collected =
        ⟨OrderedMap.ofList [("verbose", "true")], ["in"]⟩ := by
  have accepted : (small.add clashing).parse completeLine none =
      (small.parse completeLine none).add clashing :=
    Interface.parse_add rfl (by decide)
  have rejected : (small.add clashing).parse ["in", "-vllong", "out"] none =
      (small.parse ["in", "-vllong", "out"] none).add clashing :=
    Interface.parse_add rfl (by decide)
  rw [accepted, rejected]
  decide

end Startup.Arguments
