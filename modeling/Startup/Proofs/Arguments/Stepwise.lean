import Startup.Arguments.Scan
import Startup.Proofs.OrderedMap

/-!
# The scan, one argument at a time

Before each argument the scan is at one of three points: the arguments so far are complete, the last
option still waits for its value, or there was an error. So the scan is a fold over the arguments,
and a command line in two parts is scanned by going on from the point that the first part leads to.

No step looks at what was collected before, and an error is never left again. Hence the second part
adds to the first one what it says by itself, unless the first one ends in an option that waits.
-/

namespace Startup.Arguments

namespace Step

/-- How a scan that is at this point ends when no argument is left. -/
def outcome : Step → Collected × Option ArgumentError
  | done collected => (collected, none)
  | awaiting collected _ form => (collected, some ⟨.valueMissing, form⟩)
  | failed collected error => (collected, some error)

def next (schema : Schema) : Step → Text → Step
  | done collected, argument => readArgument schema collected argument
  | awaiting collected option form, value => acceptInline collected option form value
  | failed collected error, _ => failed collected error

def run (schema : Schema) (step : Step) (arguments : List Text) : Step :=
  arguments.foldl (next schema) step

variable (schema : Schema)

theorem run_cons (step : Step) (argument : Text) (rest : List Text) :
    step.run schema (argument :: rest) = (step.next schema argument).run schema rest := rfl

theorem run_append (step : Step) (first second : List Text) :
    step.run schema (first ++ second) = (step.run schema first).run schema second :=
  List.foldl_append

theorem run_failed (collected : Collected) (error : ArgumentError) (arguments : List Text) :
    (failed collected error).run schema arguments = failed collected error := by
  induction arguments with
  | nil => rfl
  | cons argument rest ih => exact ih

theorem outcome_eq_ok_iff {step : Step} {collected : Collected} :
    step.outcome = (collected, none) ↔ step = done collected := by
  cases step <;> simp [outcome]

theorem eq_failed_of_outcome {step : Step} {collected : Collected} {error : ArgumentError}
    (ends : step.outcome = (collected, some error)) (other : error.cause ≠ .valueMissing) :
    step = failed collected error := by
  cases step with
  | done found => cases ends
  | awaiting found option form =>
      cases ends
      exact absurd rfl other
  | failed found cause =>
      cases ends
      rfl

end Step

/-- The scan of a command line is the fold, read off at its end. -/
theorem scan_eq_outcome (schema : Schema) (collected : Collected) (arguments : List Text) :
    scan schema collected arguments = ((Step.done collected).run schema arguments).outcome := by
  -- The cases are the branches of `scan`. In the last two, one step of `scan` is two of the fold,
  -- since the value that was awaited is an argument of its own.
  fun_induction scan schema collected arguments with
  | case1 collected => rfl
  | case2 collected argument rest next read ih =>
      rw [ih, Step.run_cons, Step.next, read]
  | case3 collected argument rest next error read =>
      rw [Step.run_cons, Step.next, read, Step.run_failed, Step.outcome]
  | case4 collected argument next option form read =>
      rw [Step.run_cons, Step.next, read]
      rfl
  | case5 collected argument next option form read value rest stored accepted ih =>
      rw [ih, Step.run_cons, Step.next, read, Step.run_cons, Step.next, acceptInline, accepted]
  | case6 collected argument next option form read value rest error rejected =>
      rw [Step.run_cons, Step.next, read, Step.run_cons, Step.next, acceptInline, rejected,
        Step.run_failed, Step.outcome]

/-- What two command lines contain, one after the other: a value of the second one overrides that of
the first one, and positional arguments stand in order. -/
def Collected.followedBy (first second : Collected) : Collected where
  values := first.values.insertAll second.values.entries
  positional := first.positional ++ second.positional

namespace Collected

theorem followedBy_empty (collected : Collected) : collected.followedBy .empty = collected := by
  unfold followedBy
  congr 1
  exact List.append_nil collected.positional

theorem followedBy_put (first second : Collected) (key value : Text) :
    first.followedBy (second.put key value) = (first.followedBy second).put key value := by
  unfold followedBy put
  congr 1
  exact OrderedMap.insertAll_insert first.values second.values key value

theorem followedBy_push (first second : Collected) (argument : Text) :
    first.followedBy (second.push argument) = (first.followedBy second).push argument := by
  unfold followedBy push
  congr 1
  exact (List.append_assoc first.positional second.positional [argument]).symm

end Collected

/-- The same point of a scan in a command line before which `first` was collected. -/
def Step.behind (first : Collected) : Step → Step
  | done collected => done (first.followedBy collected)
  | awaiting collected option form => awaiting (first.followedBy collected) option form
  | failed collected error => failed (first.followedBy collected) error

section Behind

variable (schema : Schema) (first : Collected)

theorem acceptInline_followedBy (collected : Collected) (option : Descriptor)
    (form value : Text) :
    acceptInline (first.followedBy collected) option form value =
      (acceptInline collected option form value).behind first := by
  unfold acceptInline accept
  cases option.accepts value with
  | false => rfl
  | true =>
      rw [if_pos rfl, if_pos rfl, ← Collected.followedBy_put]
      rfl

theorem readLong_followedBy (collected : Collected) (text : Text) :
    readLong schema (first.followedBy collected) text =
      (readLong schema collected text).behind first := by
  unfold readLong
  dsimp only
  split
  next => rfl
  next option found =>
    split
    next =>
      split
      next => rfl
      next => exact acceptInline_followedBy first collected option _ _
    next =>
      split
      next => rw [← Collected.followedBy_put, Step.behind]
      next => rfl

theorem readBundle_followedBy (collected : Collected) (text : Text) :
    readBundle schema (first.followedBy collected) text =
      (readBundle schema collected text).behind first := by
  induction text generalizing collected with
  | nil => rfl
  | cons name rest ih =>
      unfold readBundle
      dsimp only
      split
      next => rfl
      next option found =>
        split
        next =>
          split
          next => rfl
          next => exact acceptInline_followedBy first collected option _ _
        next => rw [← Collected.followedBy_put, ih]

theorem readArgument_followedBy (collected : Collected) (argument : Text) :
    readArgument schema (first.followedBy collected) argument =
      (readArgument schema collected argument).behind first := by
  unfold readArgument
  split
  next => rfl
  next single => rw [← Collected.followedBy_push, Step.behind]
  next one other rest =>
    split
    next =>
      split
      next => exact readLong_followedBy schema first collected rest
      next => exact readBundle_followedBy schema first collected (other :: rest)
    next => rw [← Collected.followedBy_push, Step.behind]

/-- One step does not look at what was collected before. -/
theorem Step.next_behind (step : Step) (argument : Text) :
    (step.behind first).next schema argument = (step.next schema argument).behind first := by
  cases step with
  | done collected => exact readArgument_followedBy schema first collected argument
  | awaiting collected option form =>
      exact acceptInline_followedBy first collected option form argument
  | failed collected error => rfl

theorem Step.run_behind (step : Step) (arguments : List Text) :
    (step.behind first).run schema arguments = (step.run schema arguments).behind first := by
  induction arguments generalizing step with
  | nil => rfl
  | cons argument rest ih => rw [Step.run_cons, Step.run_cons, Step.next_behind, ih]

theorem Step.outcome_behind (step : Step) :
    (step.behind first).outcome = (first.followedBy step.outcome.1, step.outcome.2) := by
  cases step <;> rfl

end Behind

/-- Going on after a complete command line adds what the rest says by itself. -/
theorem scan_eq_followedBy (schema : Schema) (collected : Collected) (arguments : List Text) :
    scan schema collected arguments =
      (collected.followedBy (scan schema .empty arguments).1,
        (scan schema .empty arguments).2) := by
  have start : Step.done collected = (Step.done .empty).behind collected := by
    rw [Step.behind, Collected.followedBy_empty]
  rw [scan_eq_outcome, start, Step.run_behind, Step.outcome_behind, ← scan_eq_outcome]

/-- Scanning is compositional, and an error is final unless a value is missing. -/
theorem scan_append_eq (schema : Schema) (start : Collected) (first second : List Text) :
    (∀ found, scan schema start first = (found, none) →
      scan schema start (first ++ second) =
        (found.followedBy (scan schema .empty second).1, (scan schema .empty second).2)) ∧
    (∀ found error, scan schema start first = (found, some error) →
      error.cause ≠ .valueMissing → scan schema start (first ++ second) = (found, some error)) := by
  constructor
  · intro found complete
    rw [scan_eq_outcome, Step.outcome_eq_ok_iff] at complete
    rw [scan_eq_outcome, Step.run_append, complete, ← scan_eq_outcome]
    exact scan_eq_followedBy schema found second
  · intro found error ended other
    rw [scan_eq_outcome] at ended
    have failed := Step.eq_failed_of_outcome ended other
    rw [scan_eq_outcome, Step.run_append, failed, Step.run_failed, Step.outcome]

/-- A schema with a flag and an option whose values have at most three code points. -/
def smallSchema : Schema :=
  [{ short? := some 'v', long := "verbose", description := [], takesValue := false,
     required := false, defaultValue := [], validator? := none, named := Or.inl rfl },
   { short? := some 'l', long := "level", description := [], takesValue := true,
     required := false, defaultValue := [], validator? := some fun value => value.length ≤ 3,
     named := Or.inl rfl }]

/-- A complete command line, whose last value looks like an option. -/
def completeLine : List Text := ["-v", "in", "--level", "-1"]

def failingLine : List Text := ["-vl2", "out", "--quiet"]

theorem scan_completeLine_append_failingLine :
    scan smallSchema .empty (completeLine ++ failingLine) =
        (⟨OrderedMap.ofList [("verbose", "true"), ("level", "2")], ["in", "out"]⟩,
          some ⟨.unknown, "--quiet"⟩) ∧
      scan smallSchema .empty (failingLine ++ completeLine) =
        (⟨OrderedMap.ofList [("verbose", "true"), ("level", "2")], ["out"]⟩,
          some ⟨.unknown, "--quiet"⟩) := by
  constructor
  · have complete : scan smallSchema .empty completeLine =
        (⟨OrderedMap.ofList [("verbose", "true"), ("level", "-1")], ["in"]⟩, none) := by decide
    exact ((scan_append_eq smallSchema .empty completeLine failingLine).1 _ complete).trans
      (by decide)
  · have failed : scan smallSchema .empty failingLine =
        (⟨OrderedMap.ofList [("verbose", "true"), ("level", "2")], ["out"]⟩,
          some ⟨.unknown, "--quiet"⟩) := by decide
    exact (scan_append_eq smallSchema .empty failingLine completeLine).2 _ _ failed (by decide)

end Startup.Arguments
