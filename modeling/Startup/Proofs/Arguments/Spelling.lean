import Startup.Proofs.Arguments.Scan
import Startup.Proofs.Arguments.Stepwise

/-!
# Spellings of options

A value may stand in the argument of its option or in the next one, and flags may share an argument
with what follows them. Both spellings lead a scan to the same point, whether they are right or
wrong. So one may be put in place of the other behind every complete command line and before any.
-/

namespace Startup.Arguments

/-- Two spellings: in one argument, and in two. -/
inductive Respelled (schema : Schema) : List Text → List Text → Prop where
  | long {name value : Text} {option : Descriptor} (free : CodePoint.ofChar '=' ∉ name)
      (found : schema.findLong? name = some option) (takes : option.takesValue = true)
      (given : value ≠ []) :
      Respelled schema ["--" ++ name ++ "=" ++ value] ["--" ++ name, value]
  | short {name : CodePoint} {value : Text} {option : Descriptor} (noDash : name ≠ '-')
      (found : schema.findShort? name = some option) (takes : option.takesValue = true)
      (given : value ≠ []) :
      Respelled schema ["-" ++ [name] ++ value] ["-" ++ [name], value]
  | bundle {name : CodePoint} {rest : Text} {option : Descriptor} (noDash : name ≠ '-')
      (found : schema.findShort? name = some option) (flag : option.takesValue = false)
      (more : rest ≠ []) (dashless : rest.head? ≠ some (CodePoint.ofChar '-')) :
      Respelled schema ["-" ++ [name] ++ rest] ["-" ++ [name], "-" ++ rest]

section

variable {schema : Schema} (collected : Collected)

theorem readArgument_long (text : Text) :
    readArgument schema collected ("--" ++ text) = readLong schema collected text := rfl

theorem readArgument_bundle {name : CodePoint} (noDash : name ≠ '-') (rest : Text) :
    readArgument schema collected ("-" ++ [name] ++ rest) =
      readBundle schema collected (name :: rest) :=
  if_neg noDash

theorem next_long_separate {name : Text} {option : Descriptor}
    (free : CodePoint.ofChar '=' ∉ name) (found : schema.findLong? name = some option)
    (takes : option.takesValue = true) :
    (Step.done collected).next schema ("--" ++ name) =
      .awaiting collected option ("--" ++ name) := by
  have parts : (Text.cut? '=' name).getD (name, []) = (name, []) := by
    rw [Text.cut?_eq_none_iff.mpr free, Option.getD_none]
  rw [Step.next, readArgument_long, readLong_eq parts, found]
  simp only [optionStep, takes, if_true]

theorem next_long_attached {name value : Text} {option : Descriptor}
    (free : CodePoint.ofChar '=' ∉ name) (found : schema.findLong? name = some option)
    (takes : option.takesValue = true) (given : value ≠ []) :
    (Step.done collected).next schema ("--" ++ name ++ "=" ++ value) =
      acceptInline collected option ("--" ++ name) value := by
  have parts : (Text.cut? '=' (name ++ CodePoint.ofChar '=' :: value)).getD
      (name ++ CodePoint.ofChar '=' :: value, []) = (name, value) := by
    rw [Text.cut?_eq_some_iff.mpr ⟨rfl, free⟩, Option.getD_some]
  have spelled : ("--" ++ name ++ "=" ++ value : Text) =
      "--" ++ (name ++ CodePoint.ofChar '=' :: value) := by
    rw [List.append_assoc, List.append_assoc]
    rfl
  rw [spelled, Step.next, readArgument_long, readLong_eq parts, found]
  simp only [optionStep, takes, if_true, given, if_false]

/-- A short option that ends its argument. -/
theorem next_short {name : CodePoint} {option : Descriptor} (noDash : name ≠ '-')
    (found : schema.findShort? name = some option) :
    (Step.done collected).next schema ("-" ++ [name]) =
      if option.takesValue then .awaiting collected option ("-" ++ [name])
      else .done (collected.put option.key flagValue) := by
  rw [Step.next, ← List.append_nil ("-" ++ [name] : Text), readArgument_bundle collected noDash,
    readBundle, found]
  rfl

/-- Both spellings lead the scan to the same point. -/
theorem run_respelled {one two : List Text} (respelled : Respelled schema one two) :
    (Step.done collected).run schema one = (Step.done collected).run schema two := by
  cases respelled with
  | long free found takes given =>
      rw [Step.run_cons, Step.run_cons, next_long_attached collected free found takes given,
        next_long_separate collected free found takes]
      rfl
  | short noDash found takes given =>
      rw [Step.run_cons, Step.run_cons, next_short collected noDash found, takes, if_pos rfl,
        Step.next, readArgument_bundle collected noDash, readBundle, found]
      simp only [takes, if_true, given, if_false]
      rfl
  | @bundle name rest option noDash found flag more dashless =>
      cases rest with
      | nil => exact absurd rfl more
      | cons first others =>
          have noDash' : first ≠ '-' := by
            rintro rfl
            exact dashless rfl
          rw [Step.run_cons, Step.run_cons, next_short collected noDash found, flag,
            if_neg Bool.false_ne_true, Step.next, readArgument_bundle collected noDash, readBundle,
            found]
          simp only [flag, Bool.false_eq_true, if_false]
          exact congrArg (fun step => Step.run schema step [])
            (readArgument_bundle (collected.put option.key flagValue) noDash' others).symm

end

/-- In every context, both spellings give the same values, positional arguments and error. -/
theorem parse_respelled {schema : Schema} {one two : List Text}
    (respelled : Respelled schema one two) {earlier : List Text}
    (complete : (scan schema .empty earlier).2 = none) (later : List Text) :
    parse schema (earlier ++ one ++ later) = parse schema (earlier ++ two ++ later) := by
  obtain ⟨collected, found⟩ : ∃ collected, scan schema .empty earlier = (collected, none) :=
    ⟨_, Prod.ext rfl complete⟩
  rw [scan_eq_outcome, Step.outcome_eq_ok_iff] at found
  have same : scan schema .empty (earlier ++ one ++ later) =
      scan schema .empty (earlier ++ two ++ later) := by
    rw [scan_eq_outcome, scan_eq_outcome, Step.run_append, Step.run_append, Step.run_append,
      Step.run_append, found, run_respelled collected respelled]
  rw [parse, parse, same]

/-- A command line that is complete before some arguments and wrong behind them. -/
def lineAround (arguments : List Text) : List Text :=
  completeLine ++ arguments ++ failingLine

/-- A value that is rejected and looks like an option, a value that is accepted, and a bundle that
fails in its middle. -/
theorem parse_lineAround :
    parse smallSchema (lineAround ["--level=-v=2"]) =
        parse smallSchema (lineAround ["--level", "-v=2"]) ∧
      parse smallSchema (lineAround ["-l=v"]) = parse smallSchema (lineAround ["-l", "=v"]) ∧
      parse smallSchema (lineAround ["-vvxl"]) = parse smallSchema (lineAround ["-v", "-vxl"]) := by
  have complete : (scan smallSchema .empty completeLine).2 = none := by decide
  have level : smallSchema.findLong? "level" = smallSchema[1]? := by rfl
  have short : smallSchema.findShort? 'l' = smallSchema[1]? := by rfl
  have flag : smallSchema.findShort? 'v' = smallSchema[0]? := by rfl
  have long : Respelled smallSchema ["--level=-v=2"] ["--level", "-v=2"] :=
    @Respelled.long smallSchema "level" "-v=2" _ (by decide) level rfl (by decide)
  have attached : Respelled smallSchema ["-l=v"] ["-l", "=v"] :=
    @Respelled.short smallSchema 'l' "=v" _ (by decide) short rfl (by decide)
  have bundle : Respelled smallSchema ["-vvxl"] ["-v", "-vxl"] :=
    @Respelled.bundle smallSchema 'v' "vxl" _ (by decide) flag rfl (by decide) (by decide)
  exact ⟨parse_respelled long complete failingLine, parse_respelled attached complete failingLine,
    parse_respelled bundle complete failingLine⟩

end Startup.Arguments
