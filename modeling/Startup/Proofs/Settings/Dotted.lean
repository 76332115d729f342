import Startup.Proofs.Settings.Assignments
import Startup.Proofs.Settings.Reload

/-!
# Files with dotted keys

An entry can be written on a line of its own that names its section before the key. Such lines mean
the same in every order, since none of them depends on the section at hand; and a key may hold points
and begin with blanks, as the section in front of it protects it. Under a header the same entries come
back exactly when no key needs this protection.
-/

namespace Startup.Settings

structure Entry where
  sectionName : Text
  key : Text
  value : Text
deriving DecidableEq

namespace Entry

def place (entry : Entry) : Text × Text :=
  (entry.sectionName, entry.key)

def effect (entry : Entry) : Effect :=
  .stored entry.sectionName entry.key entry.value

def dottedKey (entry : Entry) : Text :=
  entry.sectionName ++ CodePoint.ofChar '.' :: entry.key

def dottedLine (entry : Entry) : Text :=
  assignmentLine (entry.dottedKey, entry.value)

end Entry

/-- Whether a table holds some entries and nothing else. -/
structure Holds (settings : Settings) (entries : List Entry) : Prop where
  sections : ∀ name, OrderedMap.contains settings name = true ↔
    ∃ entry ∈ entries, entry.sectionName = name
  values : ∀ name key value, settings.value? name key = some value ↔ ⟨name, key, value⟩ ∈ entries

theorem Holds.same {left right : Settings} {entries : List Entry} (holds : left.Holds entries)
    (holds' : right.Holds entries) : left.Same right := by
  intro name
  constructor
  · rw [Bool.eq_iff_iff, holds.sections, holds'.sections]
  · intro key
    refine Option.ext fun value => ?_
    rw [holds.values, holds'.values]

theorem Holds.everywhere_iff {settings : Settings} {entries : List Entry}
    (holds : settings.Holds entries) {named : Text → Prop} {stored : Text → Text → Prop} :
    settings.Everywhere named stored ↔
      ∀ entry ∈ entries, named entry.sectionName ∧ stored entry.key entry.value := by
  rw [Settings.everywhere_iff]
  constructor
  · rintro ⟨sections, values⟩ entry member
    exact ⟨sections _ ((holds.sections _).mpr ⟨entry, member, rfl⟩),
      values _ _ _ ((holds.values _ _ _).mpr member)⟩
  · intro all
    constructor
    · intro name present
      obtain ⟨entry, member, rfl⟩ := (holds.sections name).mp present
      exact (all entry member).1
    · intro name key value found
      exact (all _ ((holds.values name key value).mp found)).2

theorem Holds.perm {settings : Settings} {entries order : List Entry}
    (holds : settings.Holds order) (perm : order.Perm entries) : settings.Holds entries where
  sections name := by
    rw [holds.sections]
    simp only [perm.mem_iff]
  values name key value := by rw [holds.values, perm.mem_iff]

/-- Storing entries at different places leaves all of them in the table. -/
theorem holds_applyAll {entries : List Entry} (distinct : (entries.map Entry.place).Nodup) :
    (applyAll ∅ (entries.map Entry.effect)).Holds entries where
  sections name := by
    rw [contains_applyAll]
    refine (or_iff_left Bool.false_ne_true).trans ⟨?_, ?_⟩
    · rintro ⟨effect, member, rfl⟩
      obtain ⟨entry, known, rfl⟩ := List.mem_map.mp member
      exact ⟨entry, known, rfl⟩
    · rintro ⟨entry, member, rfl⟩
      exact ⟨entry.effect, List.mem_map_of_mem member, rfl⟩
  values name key value := by
    rw [value?_applyAll, value?_empty, Option.or_none]
    have mem_iff : ∀ stored, .stored name key stored ∈ entries.map Entry.effect ↔
        ⟨name, key, stored⟩ ∈ entries := by
      intro stored
      rw [List.mem_map]
      constructor
      · rintro ⟨entry, member, same⟩
        cases same
        exact member
      · exact fun member => ⟨_, member, rfl⟩
    constructor
    · exact fun last => (mem_iff value).mp (mem_of_lastValue? last)
    · intro member
      refine lastValue?_eq_of_mem_iff fun other => ?_
      rw [mem_iff, Option.some.injEq]
      constructor
      · intro member'
        exact congrArg Entry.value (List.inj_on_of_nodup_map distinct member member' rfl)
      · rintro rfl
        exact member

/-- A section name that can stand in front of a key. -/
@[mk_iff]
structure DottedSection (name : Text) : Prop where
  nonempty : name ≠ []
  newline : CodePoint.ofChar '\n' ∉ name
  equals : CodePoint.ofChar '=' ∉ name
  point : CodePoint.ofChar '.' ∉ name
  first : Text.beginsWith CodePoint.isBlank name = false
  comment : Text.beginsWith isCommentMark name = false
  opening : Text.beginsWith isOpening name = false

instance (name : Text) : Decidable (DottedSection name) :=
  decidable_of_iff _ (dottedSection_iff name).symm

/-- A key that can stand behind a section name. -/
@[mk_iff]
structure DottedKey (key : Text) : Prop where
  nonempty : key ≠ []
  newline : CodePoint.ofChar '\n' ∉ key
  equals : CodePoint.ofChar '=' ∉ key
  last : Text.endsWith CodePoint.isBlank key = false

instance (key : Text) : Decidable (DottedKey key) :=
  decidable_of_iff _ (dottedKey_iff key).symm

/-- An entry that a line with its section can hold, with texts that files keep as they are. -/
@[mk_iff]
structure Entry.Dotted (entry : Entry) : Prop where
  sectionName : DottedSection entry.sectionName
  key : DottedKey entry.key
  value : PlainValue entry.value
  stable : Utf8.Stable entry.sectionName ∧ Utf8.Stable entry.key ∧ Utf8.Stable entry.value

instance (entry : Entry) : Decidable entry.Dotted :=
  decidable_of_iff _ (Entry.dotted_iff entry).symm

namespace Entry.Dotted

variable {entry : Entry} (dotted : entry.Dotted)

include dotted

/-- The section in front of it decides how a dotted key begins. -/
theorem beginsWith_dottedKey (test : CodePoint → Bool) (more : Text) :
    Text.beginsWith test (entry.dottedKey ++ more) = Text.beginsWith test entry.sectionName := by
  rw [dottedKey, List.append_assoc, Text.beginsWith_append dotted.sectionName.nonempty]

theorem leftPart_dottedKey :
    leftPart entry.dottedKey = entry.dottedKey ++ [CodePoint.ofChar ' '] := by
  refine leftPart_eq (by simp [dottedKey]) ?_
  rw [← List.append_nil entry.dottedKey, dotted.beginsWith_dottedKey]
  exact dotted.sectionName.first

theorem trimBlanks_dottedKey : Text.trimBlanks entry.dottedKey = entry.dottedKey := by
  refine Text.trim_eq_self_iff.mpr ⟨?_, ?_⟩
  · rw [← List.append_nil entry.dottedKey, dotted.beginsWith_dottedKey]
    exact dotted.sectionName.first
  · rw [dottedKey, Text.endsWith_append_cons rfl]
    exact dotted.key.last

theorem splitKey_dottedKey :
    Assignment.splitKey entry.dottedKey = (entry.sectionName, entry.key) := by
  rw [Assignment.splitKey, dottedKey,
    Text.cut?_eq_some_iff.mpr ⟨rfl, dotted.sectionName.point⟩, Option.getD_some]

/-- A dotted line is read as the entry for which it was written. -/
theorem read_dottedLine :
    Line.read entry.dottedLine =
      .assignment ⟨entry.sectionName, entry.key, escape entry.value⟩ := by
  have equals : CodePoint.ofChar '=' ∉ entry.dottedKey := by
    simp only [dottedKey, List.mem_append, List.mem_cons, not_or]
    exact ⟨dotted.sectionName.equals, by decide, dotted.key.equals⟩
  rw [dottedLine, read_assignmentLine equals, dotted.leftPart_dottedKey,
    dotted.beginsWith_dottedKey, dotted.beginsWith_dottedKey, dotted.trimBlanks_dottedKey,
    dotted.splitKey_dottedKey, dotted.sectionName.comment, dotted.sectionName.opening,
    dotted.value.keptValue]
  simp [dotted.key.nonempty]

theorem onLine_dottedLine : OnLine entry.dottedLine := by
  have value := newline_notMem_escape entry.value
  unfold OnLine
  simp only [dottedLine, assignmentLine_eq, dottedKey, List.mem_append, List.mem_cons, not_or]
  exact ⟨⟨dotted.sectionName.newline, by decide, dotted.key.newline⟩, by decide, by decide,
    by decide, value⟩

theorem stable_dottedLine : Utf8.Stable entry.dottedLine :=
  piecewise_stable.assignmentLine
    ((Utf8.stable_append_cons rfl).mpr ⟨dotted.stable.1, dotted.stable.2.1⟩) dotted.stable.2.2

end Entry.Dotted

/-- The text of a file with a dotted line for each entry, with or without a newline at its end. -/
def dottedText (ended : Bool) (entries : List Entry) : Text :=
  Text.join ['\n'] (entries.map Entry.dottedLine ++ if ended then [[]] else [])

/-- The effects of lines that are joined to a file. -/
theorem effects_join {lines : List Text} (onLine : ∀ line ∈ lines, OnLine line) :
    effects (Text.join ['\n'] lines) = effectsFrom [] (lines.map Line.read) := by
  cases lines with
  | nil => rfl
  | cons line others => rw [effects, Text.split_join (List.cons_ne_nil line others) onLine]

/-- Every dotted line stores its entry, whatever section is at hand. -/
theorem effectsFrom_dottedLines {entries : List Entry} (dotted : ∀ entry ∈ entries, entry.Dotted)
    (current : Text) :
    effectsFrom current ((entries.map Entry.dottedLine).map Line.read) =
      entries.map Entry.effect := by
  induction entries generalizing current with
  | nil => rfl
  | cons entry others ih =>
      obtain ⟨here, there⟩ := List.forall_mem_cons.mp dotted
      rw [List.map_cons, List.map_cons, here.read_dottedLine, effectsFrom]
      simp only [here.sectionName.nonempty, if_false, unescape_escape, ih there, List.map_cons]
      rfl

section Files

variable {entries : List Entry} (dotted : ∀ entry ∈ entries, entry.Dotted) (ended : Bool)

include dotted

/-- What is true of a dotted line and of the empty one is true of every line of a dotted file. -/
theorem forall_mem_dottedLines {holds : Text → Prop} (empty : holds [])
    (onLine : ∀ entry : Entry, entry.Dotted → holds entry.dottedLine) :
    ∀ line ∈ entries.map Entry.dottedLine ++ (if ended then [[]] else []), holds line := by
  intro line member
  rcases List.mem_append.mp member with inner | last
  · obtain ⟨entry, known, rfl⟩ := List.mem_map.mp inner
    exact onLine entry (dotted entry known)
  · cases ended with
    | false => cases last
    | true =>
        cases List.mem_singleton.mp last
        exact empty

theorem effects_dottedText :
    effects (dottedText ended entries) = entries.map Entry.effect := by
  have last : ∀ current, effectsFrom current
      ((if ended then [[]] else ([] : List Text)).map Line.read) = [] := by
    intro current
    cases ended <;> rfl
  rw [dottedText, effects_join (forall_mem_dottedLines dotted ended List.not_mem_nil
    fun entry => Entry.Dotted.onLine_dottedLine), List.map_append, effectsFrom_append,
    effectsFrom_dottedLines dotted, last, List.append_nil]

theorem stable_dottedText : Utf8.Stable (dottedText ended entries) :=
  piecewise_stable.join (forall_mem_dottedLines dotted ended Utf8.stable_nil
    fun _ => Entry.Dotted.stable_dottedLine)

/-- A file of dotted lines for entries at different places loads as exactly these entries. -/
theorem holds_load_dottedText (distinct : (entries.map Entry.place).Nodup) :
    (load ∅ (dottedText ended entries)).Holds entries := by
  rw [load_eq_applyAll, effects_dottedText dotted]
  exact holds_applyAll distinct

end Files

theorem Same.representable {left right : Settings} (same : left.Same right)
    (representable : left.Representable) : right.Representable :=
  ⟨same.everywhere representable.entries, same.everywhere representable.stable⟩

/-- A table that a file fills comes back from the file that is saved for it, or for any table that
is the same, exactly when its entries can be written under headers. -/
theorem reload?_same_load_iff {settings : Settings} {bytes : Bytes}
    (same : settings.Same (load ∅ (Utf8.decode bytes))) :
    ∃ again, settings.reload? = some again ∧ (again.Same (load ∅ (Utf8.decode bytes)) ↔
      (load ∅ (Utf8.decode bytes)).Everywhere (fun _ => True) Rewritable) := by
  have stable : settings.AllTexts Utf8.Stable :=
    same.symm.everywhere (allTexts_stable_load (Utf8.stable_decode bytes))
  have reloaded := reload?_of_stable stable
  refine ⟨_, reloaded, ?_⟩
  rw [← representable_load_iff]
  constructor
  · intro again
    exact same.representable ((same_iff_representable reloaded).mp (again.trans same.symm))
  · intro representable
    exact ((same_iff_representable reloaded).mpr (same.symm.representable representable)).trans same

/-- Files with dotted keys load as the entries that they were written for, in whatever order the
lines stand. A table with these entries is the same after it is saved under headers and loaded again
exactly when no key holds a point or begins with a blank or a comment mark, and no entry stands in
brackets. -/
theorem load_dottedText {entries order : List Entry} (dotted : ∀ entry ∈ entries, entry.Dotted)
    (distinct : (entries.map Entry.place).Nodup) (perm : order.Perm entries) (ended : Bool) :
    ∃ bytes, Utf8.encode? (dottedText ended order) = some bytes ∧
      (load ∅ (Utf8.decode bytes)).Holds entries ∧
      ∀ settings : Settings, settings.Holds entries →
        ∃ again, settings.reload? = some again ∧
          (again.Same (load ∅ (Utf8.decode bytes)) ↔
            ∀ entry ∈ entries, Rewritable entry.key entry.value) := by
  have dotted' : ∀ entry ∈ order, entry.Dotted := fun entry member =>
    dotted entry (perm.mem_iff.mp member)
  have distinct' : (order.map Entry.place).Nodup := (perm.map _).nodup_iff.mpr distinct
  obtain ⟨bytes, encoded, decoded⟩ :=
    Utf8.stable_iff_exists.mp (stable_dottedText dotted' ended)
  have holds : (load ∅ (Utf8.decode bytes)).Holds entries := by
    rw [decoded]
    exact (holds_load_dottedText dotted' ended distinct').perm perm
  refine ⟨bytes, encoded, holds, fun settings holds' => ?_⟩
  obtain ⟨again, reloaded, same⟩ := reload?_same_load_iff (holds'.same holds)
  refine ⟨again, reloaded, same.trans ?_⟩
  rw [holds.everywhere_iff]
  simp only [true_and]

/-- Entries whose keys need a section in front of them: one holds a point, one begins with a blank,
and one would stand in brackets. -/
def shieldedEntries : List Entry :=
  [⟨"a", "k.x", "1\n[b]"⟩, ⟨"b", " #", []⟩, ⟨"a", "[k", "v]"⟩]

def freeEntries : List Entry :=
  [⟨"web", "port", "a = b"⟩, ⟨"log ", "level", "\tx\\"⟩, ⟨"web", "host", []⟩]

/-- The first entries come back from dotted lines and not from under headers, the other ones from
both. -/
theorem load_dottedText_reversed :
    (∃ bytes again, Utf8.encode? (dottedText false shieldedEntries.reverse) = some bytes ∧
      (load ∅ (Utf8.decode bytes)).Holds shieldedEntries ∧
      (load ∅ (Utf8.decode bytes)).reload? = some again ∧
      ¬ again.Same (load ∅ (Utf8.decode bytes))) ∧
    ∃ bytes again, Utf8.encode? (dottedText true freeEntries.reverse) = some bytes ∧
      (load ∅ (Utf8.decode bytes)).Holds freeEntries ∧
      (load ∅ (Utf8.decode bytes)).reload? = some again ∧
      again.Same (load ∅ (Utf8.decode bytes)) := by
  constructor
  · obtain ⟨bytes, encoded, holds, headed⟩ := load_dottedText
      (show ∀ entry ∈ shieldedEntries, entry.Dotted by decide) (by decide)
      (List.reverse_perm shieldedEntries) false
    obtain ⟨again, reloaded, same⟩ := headed _ holds
    refine ⟨bytes, again, encoded, holds, reloaded, fun comes => ?_⟩
    exact absurd (same.mp comes _ List.mem_cons_self).point (by decide)
  · obtain ⟨bytes, encoded, holds, headed⟩ := load_dottedText
      (show ∀ entry ∈ freeEntries, entry.Dotted by decide) (by decide)
      (List.reverse_perm freeEntries) true
    obtain ⟨again, reloaded, same⟩ := headed _ holds
    refine ⟨bytes, again, encoded, holds, reloaded, same.mpr ?_⟩
    simp only [freeEntries, List.forall_mem_cons]
    exact ⟨⟨by decide, by decide, by decide, by decide, by decide⟩,
      ⟨by decide, by decide, by decide, by decide, by decide⟩,
      ⟨by decide, by decide, by decide, by decide, by decide⟩, List.forall_mem_nil _⟩

end Startup.Settings
