import Startup.Proofs.Settings.Line
import Startup.Proofs.Settings.Overlay

/-!
# The layout of a file

Blanks around a line, a carriage return behind it, empty lines and comments say nothing. Two files
whose lines differ in these alone are read as the same lines apart from those that are skipped, so
they do the same to every table and are warned of for the same texts.
-/

namespace Startup.Settings

def Blanks (text : Text) : Prop :=
  ∀ point ∈ text, point.isBlank = true

instance (text : Text) : Decidable (Blanks text) :=
  inferInstanceAs (Decidable (∀ _ ∈ _, _))

/-- What may end a line in front of its newline. -/
def LineEnd (ending : Text) : Prop :=
  ending = [] ∨ ending = [CodePoint.ofChar '\r']

instance (ending : Text) : Decidable (LineEnd ending) :=
  inferInstanceAs (Decidable (_ ∨ _))

def Unreturned (line : Text) : Prop :=
  line.getLast? ≠ some (CodePoint.ofChar '\r')

instance (line : Text) : Decidable (Unreturned line) :=
  inferInstanceAs (Decidable (¬ _))

theorem Unreturned.append {left right : Text} (first : Unreturned left)
    (second : Unreturned right) : Unreturned (left ++ right) := by
  unfold Unreturned at first second ⊢
  rw [List.getLast?_append]
  cases last : right.getLast? with
  | none => exact first
  | some point => rwa [last] at second

theorem Blanks.unreturned {blanks : Text} (blank : Blanks blanks) : Unreturned blanks := by
  intro last
  have returned := blank _ (List.mem_of_getLast? last)
  revert returned
  decide

theorem dropFinal_append_lineEnd {line ending : Text} (unreturned : Unreturned line)
    (ends : LineEnd ending) : Text.dropFinal '\r' (line ++ ending) = line := by
  rcases ends with rfl | rfl
  · rw [List.append_nil]
    exact Text.dropFinal_of_ne unreturned
  · exact Text.dropFinal_concat_self line

/-- A line is read as the same, whatever blanks stand around it and however it ends. -/
theorem read_padded {before line after ending : Text} (early : Blanks before)
    (unreturned : Unreturned line) (late : Blanks after) (ends : LineEnd ending) :
    Line.read (before ++ line ++ after ++ ending) = Line.read line := by
  have padded : Unreturned (before ++ line ++ after) :=
    (early.unreturned.append unreturned).append late.unreturned
  have trimmed : Line.trimmed (before ++ line ++ after ++ ending) = Line.trimmed line := by
    rw [Line.trimmed, Line.trimmed, dropFinal_append_lineEnd padded ends,
      Text.dropFinal_of_ne unreturned, Text.trimBlanks, Text.trim_append_right late,
      Text.trim_append_left early, Text.trimBlanks]
  rw [Line.read, trimmed, Line.read]

/-- A line that says nothing: it is blank, or its first code point that is not blank is a comment
mark. -/
inductive Idle : Text → Prop where
  | blank {blanks ending : Text} (blank : Blanks blanks) (ends : LineEnd ending) :
      Idle (blanks ++ ending)
  | comment {before rest : Text} {mark : CodePoint} (early : Blanks before)
      (marks : isCommentMark mark = true) : Idle (before ++ mark :: rest)

theorem Idle.read {line : Text} (idle : Idle line) : Line.read line = .skipped := by
  cases idle with
  | @blank blanks ending blank ends =>
      -- A blank line is the empty one with blanks in front of it.
      have nothing : Unreturned [] := by decide
      have none_after : Blanks [] := List.forall_mem_nil _
      have padded := read_padded blank nothing none_after ends
      rwa [List.append_nil, List.append_nil] at padded
  | @comment before rest mark early marks =>
      have front : before.dropWhile CodePoint.isBlank = [] := List.dropWhile_eq_nil_iff.mpr early
      have kept : mark.isBlank = false := by
        rw [isCommentMark, Bool.or_eq_true, beq_iff_eq, beq_iff_eq] at marks
        rcases marks with rfl | rfl <;> rfl
      have other : mark ≠ '\r' := by
        rintro rfl
        cases marks
      rw [Line.read, Line.trimmed, Text.dropFinal_append_cons other, Text.trimBlanks,
        Text.trim_append_cons kept, front, List.nil_append, Line.readTrimmed_eq,
        Text.beginsWith_cons, marks, if_pos (Or.inr rfl)]

def Line.invalidText? : Line → Option Text
  | invalid text => some text
  | _ => none

/-- The lines that say something. -/
def spoken (lines : List Line) : List Line :=
  lines.filter fun line => line ≠ .skipped

theorem effectsFrom_spoken (current : Text) (lines : List Line) :
    effectsFrom current (spoken lines) = effectsFrom current lines := by
  induction lines generalizing current with
  | nil => rfl
  | cons line rest ih =>
      cases line with
      | skipped => exact ih current
      | invalid text => exact ih current
      | header name => exact congrArg (Effect.opened name :: ·) (ih name)
      | assignment found =>
          exact congrArg (Effect.stored _ found.key (unescape found.value) :: ·) (ih _)

theorem filterMap_invalidText?_spoken (lines : List Line) :
    (spoken lines).filterMap Line.invalidText? = lines.filterMap Line.invalidText? := by
  induction lines with
  | nil => rfl
  | cons line rest ih =>
      cases line with
      | invalid text => exact congrArg (text :: ·) ih
      | _ => exact ih

theorem map_snd_invalidLines (content : Text) :
    (invalidLines content).map Prod.snd =
      ((Text.split '\n' content).map Line.read).filterMap Line.invalidText? := by
  rw [invalidLines, List.map_filterMap]
  generalize (Text.split '\n' content).map Line.read = lines
  rw [← List.zipIdx_map_fst 0 lines, List.filterMap_map]
  rw [List.zipIdx_map_fst 0 lines]
  congr 1
  funext pair
  obtain ⟨line, place⟩ := pair
  cases line <;> rfl

/-- Files with the same lines apart from those that are skipped do the same, and the same texts in
them are invalid. -/
theorem load_eq_of_spoken {first second : Text}
    (same : spoken ((Text.split '\n' first).map Line.read) =
      spoken ((Text.split '\n' second).map Line.read)) (settings : Settings) :
    settings.load first = settings.load second ∧
      (invalidLines first).map Prod.snd = (invalidLines second).map Prod.snd := by
  constructor
  · rw [load_eq_applyAll, load_eq_applyAll, effects, effects, ← effectsFrom_spoken, same,
      effectsFrom_spoken]
  · rw [map_snd_invalidLines, map_snd_invalidLines, ← filterMap_invalidText?_spoken, same,
      filterMap_invalidText?_spoken]

/-- The lines of a file, and those of the same file with another layout. -/
inductive Relaid : List Text → List Text → Prop where
  | nil : Relaid [] []
  | line (before line after ending : Text) {lines lines' : List Text} (early : Blanks before)
      (late : Blanks after) (ends : LineEnd ending) (rest : Relaid lines lines') :
      Relaid (line :: lines) ((before ++ line ++ after ++ ending) :: lines')
  | inserted {line : Text} {lines lines' : List Text} (idle : Idle line)
      (rest : Relaid lines lines') : Relaid lines (line :: lines')
  | removed {line : Text} {lines lines' : List Text} (idle : Idle line)
      (rest : Relaid lines lines') : Relaid (line :: lines) lines'

theorem spoken_cons_of_idle {line : Text} (idle : Idle line) (lines : List Line) :
    spoken (Line.read line :: lines) = spoken lines := by
  rw [idle.read]
  rfl

theorem Relaid.spoken_eq {lines lines' : List Text} (relaid : Relaid lines lines')
    (unreturned : ∀ line ∈ lines, Unreturned line) :
    spoken (lines.map Line.read) = spoken (lines'.map Line.read) := by
  induction relaid with
  | nil => rfl
  | line before line after ending early late ends rest ih =>
      obtain ⟨here, there⟩ := List.forall_mem_cons.mp unreturned
      rw [List.map_cons, List.map_cons, read_padded early here late ends, spoken, spoken,
        List.filter_cons, List.filter_cons, ← spoken, ← spoken, ih there]
  | inserted idle rest ih =>
      rw [List.map_cons, spoken_cons_of_idle idle]
      exact ih unreturned
  | removed idle rest ih =>
      rw [List.map_cons, spoken_cons_of_idle idle]
      exact ih (List.forall_mem_cons.mp unreturned).2

/-- A file without carriage returns at the ends of its lines, and the same file with another layout,
load as the same over any settings, and are warned of for the same texts. -/
theorem loadFrom_relaid {tree tree' : FileTree} {path path' : Path} {first second : Bytes}
    (found : tree.read path = .ok first) (found' : tree'.read path' = .ok second)
    (unreturned : ∀ line ∈ Text.split '\n' (Utf8.decode first), Unreturned line)
    (relaid : Relaid (Text.split '\n' (Utf8.decode first)) (Text.split '\n' (Utf8.decode second)))
    (settings : Settings) :
    ∃ loaded valid, (settings.loadFrom path tree).result = .ok (loaded, valid) ∧
      (settings.loadFrom path' tree').result = .ok (loaded, valid) ∧
      ∃ warned warned' : List (Nat × Text),
        warnings (settings.loadFrom path tree).log = warned.map invalidLineWarning ∧
        warnings (settings.loadFrom path' tree').log = warned'.map invalidLineWarning ∧
        warned.map Prod.snd = warned'.map Prod.snd := by
  obtain ⟨same, warned⟩ := load_eq_of_spoken (relaid.spoken_eq unreturned) settings
  have result' := result_loadFrom settings found'
  rw [← same] at result'
  exact ⟨_, _, result_loadFrom settings found, result', _, _, warnings_loadFrom found settings,
    warnings_loadFrom found' settings, warned⟩

/-- A file with a section, an entry, an invalid line and a comment. -/
def compact : Bytes :=
  (Utf8.encode? "[web]\nport = 1\nbad\n# c").getD []

/-- The same file with blanks, carriage returns, and other lines that say nothing. -/
def spacious : Bytes :=
  (Utf8.encode? "\r\n \t[web] \r\n;x = 1\nport = 1\t\r\n\tbad").getD []

def withLayouts : FileTree where
  entries := OrderedMap.ofList
    [([Path.stored "a.conf"], .file compact), ([Path.stored "b.conf"], .file spacious)]
  workingDirectory := []

theorem relaid_spacious :
    Relaid (Text.split '\n' (Utf8.decode compact)) (Text.split '\n' (Utf8.decode spacious)) := by
  have lines : Text.split '\n' (Utf8.decode compact) = ["[web]", "port = 1", "bad", "# c"] := by
    decide +kernel
  have lines' : Text.split '\n' (Utf8.decode spacious) =
      ["\r", " \t[web] \r", ";x = 1", "port = 1\t\r", "\tbad"] := by decide +kernel
  have empty : Idle (Text.ofString "\r") := .blank (List.forall_mem_nil _) (Or.inr rfl)
  have semicolon : Idle (Text.ofString ";x = 1") := .comment (List.forall_mem_nil _) rfl
  have comment : Idle (Text.ofString "# c") := .comment (List.forall_mem_nil _) rfl
  rw [lines, lines']
  refine .inserted empty ?_
  refine .line " \t" "[web]" " " "\r" (by decide) (by decide) (by decide) ?_
  refine .inserted semicolon ?_
  refine .line [] "port = 1" "\t" "\r" (by decide) (by decide) (by decide) ?_
  refine .line "\t" "bad" [] [] (by decide) (by decide) (by decide) ?_
  exact .removed comment .nil

/-- Both files give the port and are warned of for the same text. -/
theorem loadFrom_relaid_spacious :
    ∃ loaded valid,
      (loadFrom ∅ (Path.ofText "a.conf") withLayouts).result = .ok (loaded, valid) ∧
      (loadFrom ∅ (Path.ofText "b.conf") withLayouts).result = .ok (loaded, valid) ∧
      loaded.value? "web" "port" = some (Text.ofString "1") ∧
      ∃ warned warned' : List (Nat × Text),
        warnings (loadFrom ∅ (Path.ofText "a.conf") withLayouts).log =
          warned.map invalidLineWarning ∧
        warnings (loadFrom ∅ (Path.ofText "b.conf") withLayouts).log =
          warned'.map invalidLineWarning ∧
        warned.map Prod.snd = warned'.map Prod.snd := by
  have found : withLayouts.read (Path.ofText "a.conf") = .ok compact := by decide +kernel
  have found' : withLayouts.read (Path.ofText "b.conf") = .ok spacious := by decide +kernel
  obtain ⟨loaded, valid, result, result', warned⟩ :=
    loadFrom_relaid found found' (by decide +kernel) relaid_spacious ∅
  refine ⟨loaded, valid, result, result', ?_, warned⟩
  have same : loaded = load ∅ (Utf8.decode compact) :=
    congrArg Prod.fst (Except.ok.inj (result.symm.trans (result_loadFrom ∅ found)))
  rw [same]
  decide +kernel

end Startup.Settings
