import Startup.Proofs.Settings.Effects
import Startup.Text.Utf8
import Mathlib.Data.List.Induction

/-!
# The last assignment of a file

A key without a section belongs to the section that the lines before it name last, in a header or in
an assignment with a section of its own. Among the lines that assign to one key of one section, the
last one counts.
-/

namespace Startup.Settings

def Line.section? : Line → Option Text
  | header name => some name
  | assignment found => if found.sectionName = [] then none else some found.sectionName
  | _ => none

/-- The section at hand after some lines, when `current` was at hand before them. -/
def sectionAfter (current : Text) (lines : List Line) : Text :=
  ((lines.filterMap Line.section?).getLast?).getD current

/-- The value that the line at a place assigns to a key of a section, if it does. The section is the
one at hand after that line. -/
def assignedAt? (lines : List Line) (sectionName key : Text) (place : Nat) : Option Text :=
  match lines[place]? with
  | some (.assignment found) =>
      if sectionAfter [] (lines.take (place + 1)) = sectionName ∧ found.key = key then
        some (unescape found.value)
      else none
  | _ => none

/-- The value that is assigned last to a key of a section. -/
def lastAssigned? (lines : List Line) (sectionName key : Text) : Option Text :=
  ((List.range lines.length).filterMap (assignedAt? lines sectionName key)).getLast?

def linesOf (bytes : Bytes) : List Line :=
  (Text.split '\n' (Utf8.decode bytes)).map Line.read

theorem sectionAfter_cons (current : Text) (line : Line) (rest : List Line) :
    sectionAfter current (line :: rest) = sectionAfter ((line.section?).getD current) rest := by
  unfold sectionAfter
  cases named : line.section? with
  | none =>
      rw [List.filterMap_cons_none named]
      rfl
  | some name =>
      rw [List.filterMap_cons_some named, List.getLast?_cons]
      rfl

theorem effectsFrom_cons (current : Text) (line : Line) (rest : List Line) :
    effectsFrom current (line :: rest) =
      effectsFrom current [line] ++ effectsFrom ((line.section?).getD current) rest := by
  cases line with
  | skipped => rfl
  | invalid text => rfl
  | header name => rfl
  | assignment found =>
      simp only [effectsFrom, Line.section?]
      by_cases unnamed : found.sectionName = []
      · rw [if_pos unnamed, if_pos unnamed]
        rfl
      · rw [if_neg unnamed, if_neg unnamed]
        rfl

theorem effectsFrom_append (current : Text) (first second : List Line) :
    effectsFrom current (first ++ second) =
      effectsFrom current first ++ effectsFrom (sectionAfter current first) second := by
  induction first generalizing current with
  | nil => rfl
  | cons line rest ih =>
      rw [List.cons_append, effectsFrom_cons, ih, effectsFrom_cons current line rest,
        sectionAfter_cons, List.append_assoc]

theorem lastValue?_append (sectionName key : Text) (first second : List Effect) :
    lastValue? sectionName key (first ++ second) =
      (lastValue? sectionName key second).or (lastValue? sectionName key first) := by
  rw [lastValue?, List.reverse_append, List.findSome?_append]
  rfl

theorem sectionAfter_concat (current : Text) (lines : List Line) (line : Line) :
    sectionAfter current (lines ++ [line]) = (line.section?).getD (sectionAfter current lines) := by
  unfold sectionAfter
  rw [List.filterMap_append, List.getLast?_append]
  cases named : line.section? with
  | none =>
      rw [List.filterMap_cons_none named]
      rfl
  | some name =>
      rw [List.filterMap_cons_some named]
      rfl

theorem take_length_concat (lines : List Line) (line : Line) :
    (lines ++ [line]).take (lines.length + 1) = lines ++ [line] :=
  List.take_of_length_le (Nat.le_of_eq List.length_append)

/-- A line alone stores at most the value that it assigns. -/
theorem lastValue?_singleton (lines : List Line) (line : Line) (sectionName key : Text) :
    lastValue? sectionName key (effectsFrom (sectionAfter [] lines) [line]) =
      assignedAt? (lines ++ [line]) sectionName key lines.length := by
  rw [assignedAt?, List.getElem?_concat_length, take_length_concat, sectionAfter_concat]
  cases line with
  | skipped => rfl
  | invalid text => rfl
  | header name => rfl
  | assignment found =>
      have name : (Line.section? (.assignment found)).getD (sectionAfter [] lines) =
          if found.sectionName = [] then sectionAfter [] lines else found.sectionName := by
        rw [Line.section?]
        split <;> rfl
      rw [name, effectsFrom, effectsFrom, lastValue?, List.reverse_singleton,
        List.findSome?_singleton, Effect.valueFor?]

theorem assignedAt?_append {lines : List Line} {place : Nat} (inside : place < lines.length)
    (rest : List Line) (sectionName key : Text) :
    assignedAt? (lines ++ rest) sectionName key place =
      assignedAt? lines sectionName key place := by
  unfold assignedAt?
  rw [List.getElem?_append_left inside, List.take_append_of_le_length inside]

theorem lastAssigned?_concat (lines : List Line) (line : Line) (sectionName key : Text) :
    lastAssigned? (lines ++ [line]) sectionName key =
      (assignedAt? (lines ++ [line]) sectionName key lines.length).or
        (lastAssigned? lines sectionName key) := by
  have before : (List.range lines.length).filterMap (assignedAt? (lines ++ [line]) sectionName key) =
      (List.range lines.length).filterMap (assignedAt? lines sectionName key) := by
    apply List.filterMap_congr
    intro place inside
    exact assignedAt?_append (List.mem_range.mp inside) [line] sectionName key
  rw [lastAssigned?, lastAssigned?, List.length_append, List.length_singleton, List.range_succ,
    List.filterMap_append, before, List.getLast?_append]
  cases last : assignedAt? (lines ++ [line]) sectionName key lines.length with
  | none =>
      rw [List.filterMap_cons_none last]
      rfl
  | some value =>
      rw [List.filterMap_cons_some last]
      rfl

/-- What lines store last is what they assign last. -/
theorem lastValue?_effectsFrom (lines : List Line) (sectionName key : Text) :
    lastValue? sectionName key (effectsFrom [] lines) = lastAssigned? lines sectionName key := by
  -- From the end, since the section of a line depends on the lines before it.
  induction lines using List.reverseRecOn with
  | nil => rfl
  | append_singleton lines line ih =>
      rw [effectsFrom_append, lastValue?_append, ih, lastValue?_singleton, lastAssigned?_concat]

theorem lt_length_of_assignedAt? {lines : List Line} {sectionName key : Text} {place : Nat}
    (assigned : assignedAt? lines sectionName key place ≠ none) : place < lines.length := by
  by_contra outside
  refine assigned ?_
  rw [assignedAt?, List.getElem?_eq_none (Nat.le_of_not_lt outside)]

/-- Where something is assigned to a key, there is a last place that does it, and it counts. -/
theorem exists_lastAssigned? {lines : List Line} {sectionName key : Text} {place : Nat}
    (assigned : (assignedAt? lines sectionName key place).isSome = true) :
    ∃ last value, assignedAt? lines sectionName key last = some value ∧
      (∀ later, last < later → assignedAt? lines sectionName key later = none) ∧
      lastAssigned? lines sectionName key = some value := by
  induction lines using List.reverseRecOn generalizing place with
  | nil => cases assigned
  | append_singleton lines line ih =>
      have nothingBeyond : ∀ later, lines.length < later →
          assignedAt? (lines ++ [line]) sectionName key later = none := by
        intro later beyond
        by_contra assigned
        have inside := lt_length_of_assignedAt? assigned
        rw [List.length_append, List.length_singleton] at inside
        omega
      cases here : assignedAt? (lines ++ [line]) sectionName key lines.length with
      | some value =>
          refine ⟨lines.length, value, here, nothingBeyond, ?_⟩
          rw [lastAssigned?_concat, here, Option.some_or]
      | none =>
          -- The last line does not count, so the assignment is one of the lines before it.
          have inside : place < lines.length := by
            rcases Nat.lt_trichotomy place lines.length with before | rfl | beyond
            · exact before
            · rw [here] at assigned
              cases assigned
            · rw [nothingBeyond place beyond] at assigned
              cases assigned
          rw [assignedAt?_append inside] at assigned
          obtain ⟨last, value, found, noneLater, counts⟩ := ih assigned
          have lastInside : last < lines.length :=
            lt_length_of_assignedAt? (by rw [found]; exact Option.some_ne_none value)
          refine ⟨last, value, ?_, fun later after => ?_, ?_⟩
          · rw [assignedAt?_append lastInside, found]
          · rcases Nat.lt_trichotomy later lines.length with before | rfl | beyond
            · rw [assignedAt?_append before, noneLater later after]
            · exact here
            · exact nothingBeyond later beyond
          · rw [lastAssigned?_concat, here, Option.none_or, counts]

/-- A file that is loaded gives to each key what it assigns last, and leaves what it does not
assign. -/
theorem value?_load (settings : Settings) (bytes : Bytes) (sectionName key : Text) :
    (settings.load (Utf8.decode bytes)).value? sectionName key =
      (lastAssigned? (linesOf bytes) sectionName key).or (settings.value? sectionName key) := by
  rw [load_eq_applyAll, value?_applyAll, effects, ← linesOf, lastValue?_effectsFrom]

end Startup.Settings
