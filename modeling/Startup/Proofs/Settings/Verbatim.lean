import Startup.Proofs.Settings.Canonical
import Startup.Proofs.Settings.Overlay
import Startup.Proofs.Settings.WellEscaped
import Startup.Proofs.Text.Ascii

/-!
# Bytes that come back

A file need not be UTF-8. Whatever its bytes are, a table over which it is laid can be encoded
afterwards if it could be before, so it is saved. And a value that holds nothing to escape is written
with the very bytes that it has in the file: the carriage return at the end of its line, the equals
sign and the blanks around the value are found among the bytes as well as in the text.
-/

namespace Startup.Settings

def valueBytes (line : Bytes) : Bytes :=
  Bytes.trim (Bytes.behind (CodePoint.byte '=') (Bytes.dropFinal (CodePoint.byte '\r') line))

/-- The value of an assignment is what stands behind the first equals sign of its line. -/
theorem exists_cut?_of_read {line : Text} {found : Assignment}
    (read : Line.read line = .assignment found) :
    ∃ left right, Text.cut? '=' (Text.dropFinal '\r' line) = some (left, right) ∧
      found.value = Text.trimBlanks right := by
  obtain ⟨left, right, cut, -, -, value⟩ := exists_cut?_of_read? (read?_of_read read)
  obtain ⟨trimmed, free⟩ := Text.cut?_eq_some_iff.mp cut
  obtain ⟨before, after, whole, early, late⟩ :=
    Text.exists_append_trim CodePoint.isBlank (Text.dropFinal '\r' line)
  have parts : Text.dropFinal '\r' line =
      before ++ left ++ CodePoint.ofChar '=' :: (right ++ after) := by
    rw [Line.trimmed, Text.trimBlanks] at trimmed
    rw [whole, trimmed]
    simp only [List.append_assoc, List.cons_append]
  have notBefore : CodePoint.ofChar '=' ∉ before := by
    intro member
    have blank := early _ member
    revert blank
    decide
  have free' : CodePoint.ofChar '=' ∉ before ++ left := by
    rw [List.mem_append, not_or]
    exact ⟨notBefore, free⟩
  refine ⟨before ++ left, right ++ after, Text.cut?_eq_some_iff.mpr ⟨parts, free'⟩, ?_⟩
  rw [value, Text.trimBlanks, Text.trimBlanks, Text.trim_append_right late]

theorem decode_valueBytes {line : Bytes} {found : Assignment}
    (read : Line.read (Utf8.decode line) = .assignment found) :
    Utf8.decode (valueBytes line) = found.value := by
  have returns : (CodePoint.ofChar '\r').Ascii := by decide
  have equals : (CodePoint.ofChar '=').Ascii := by decide
  obtain ⟨left, right, cut, value⟩ := exists_cut?_of_read read
  rw [← Utf8.decode_dropFinal returns] at cut
  rw [valueBytes, Utf8.decode_trim, Utf8.decode_behind equals cut, value]

/-- The lines of a file are read from the pieces between its newlines. -/
theorem linesOf_eq (file : Bytes) :
    linesOf file = (file.splitOn newline).map fun line => Line.read (Utf8.decode line) := by
  have ascii : (CodePoint.ofChar '\n').Ascii := by decide
  rw [linesOf, Utf8.split_decode ascii, List.map_map]
  rfl

/-- The text of a file in front of a value: the sections before its own one, and its own one up to
the key and the equals sign. -/
def textBefore (before : List (Text × List (Text × Text))) (name : Text)
    (early : List (Text × Text)) (key : Text) : Text :=
  fileText before ++ Text.unlines ([] :: ("[" ++ name ++ "]") :: early.map assignmentLine) ++ key ++
    " = "

theorem fileText_append_cons (before after : List (Text × List (Text × Text))) (name : Text)
    (early late : List (Text × Text)) (key value : Text) :
    fileText (before ++ (name, early ++ (key, value) :: late) :: after) =
      textBefore before name early key ++ (escape value ++ CodePoint.ofChar '\n' ::
        Text.unlines (late.map assignmentLine ++ after.flatMap groupLines)) := by
  simp [fileText, textBefore, groupLines, assignmentLine, Text.unlines]

/-- Whether `written` is all that the file `saved` of a table has on the line for a key of a section
behind the equals sign. -/
def Writes (settings : Settings) (saved : Bytes) (name key : Text) (written : Bytes) : Prop :=
  newline ∉ written ∧ ∃ before early value late after front back,
    settings.arranged = before ++ (name, early ++ (key, value) :: late) :: after ∧
      Utf8.encode? (textBefore before name early key) = some front ∧
      saved = front ++ written ++ newline :: back

/-- Every entry of a table is on a line of its file. -/
theorem exists_arranged_of_value? {settings : Settings} {name key value : Text}
    (found : settings.value? name key = some value) :
    ∃ before early late after,
      settings.arranged = before ++ (name, early ++ (key, value) :: late) :: after := by
  obtain ⟨group, grouped, inside⟩ := value?_eq_some_iff.mp found
  have listed : (name, sorted group) ∈ settings.arranged :=
    mem_arranged.mpr ⟨group, (OrderedMap.mem_entries_iff ..).mp grouped, rfl⟩
  obtain ⟨before, after, sections⟩ := List.append_of_mem listed
  obtain ⟨early, late, entries⟩ := List.append_of_mem (mem_sorted.mpr inside)
  exact ⟨before, early, late, after, by rw [sections, entries]⟩

theorem writes_of_value? {settings : Settings} {saved written : Bytes} {name key value : Text}
    (encoded : settings.bytes? = some saved) (found : settings.value? name key = some value)
    (escaped : Utf8.encode? (escape value) = some written) (free : newline ∉ written) :
    settings.Writes saved name key written := by
  obtain ⟨before, early, late, after, listed⟩ := exists_arranged_of_value? found
  rw [bytes?, render_eq_fileText, listed, fileText_append_cons] at encoded
  obtain ⟨front, behind, inFront, inRest, rfl⟩ := Utf8.encode?_append_eq_some_iff.mp encoded
  obtain ⟨written', lineRest, escaped', ending, rfl⟩ :=
    Utf8.encode?_append_eq_some_iff.mp inRest
  obtain rfl := Option.some.inj (escaped.symm.trans escaped')
  have lineEnd : Utf8.encodePoint? (CodePoint.ofChar '\n') = some [newline] := rfl
  rw [Utf8.encode?_cons, lineEnd, Option.bind_some] at ending
  obtain ⟨back, -, rfl⟩ := Option.map_eq_some_iff.mp ending
  refine ⟨free, before, early, value, late, after, front, back, listed, inFront, ?_⟩
  rw [List.append_assoc, List.singleton_append]

/-- The assignment that counts for a key of a section, and the place of its line in a file. -/
structure AssignedLast (file : Bytes) (name key : Text) (place : Nat) (found : Assignment) :
    Prop where
  assigns : (linesOf file)[place]? = some (.assignment found)
  named : sectionAfter [] ((linesOf file).take (place + 1)) = name
  keyed : found.key = key
  last : ∀ later, place < later → assignedAt? (linesOf file) name key later = none

theorem exists_assignment_of_assignedAt? {lines : List Line} {name key value : Text} {place : Nat}
    (assigned : assignedAt? lines name key place = some value) :
    ∃ found, lines[place]? = some (.assignment found) ∧
      sectionAfter [] (lines.take (place + 1)) = name ∧ found.key = key ∧
      unescape found.value = value := by
  unfold assignedAt? at assigned
  split at assigned
  next found line =>
    rw [Option.ite_none_right_eq_some, Option.some.injEq] at assigned
    exact ⟨found, line, assigned.1.1, assigned.1.2, assigned.2⟩
  next => cases assigned

/-- A key to which a file assigns has a last assignment, and its value is what is loaded. -/
theorem exists_assignedLast {file : Bytes} {name key : Text} {place : Nat}
    (assigned : (assignedAt? (linesOf file) name key place).isSome = true) (settings : Settings) :
    ∃ last found, AssignedLast file name key last found ∧
      (settings.load (Utf8.decode file)).value? name key = some (unescape found.value) := by
  obtain ⟨last, value, here, noneLater, counts⟩ := exists_lastAssigned? assigned
  obtain ⟨found, assigns, named, keyed, rfl⟩ := exists_assignment_of_assignedAt? here
  refine ⟨last, found, ⟨assigns, named, keyed, noneLater⟩, ?_⟩
  rw [value?_load, counts, Option.some_or]

/-- The bytes of the last assignment are those of a piece between two newlines of the file. -/
theorem AssignedLast.exists_line {file : Bytes} {name key : Text} {place : Nat} {found : Assignment}
    (assigned : AssignedLast file name key place found) :
    ∃ line, (file.splitOn newline)[place]? = some line ∧
      Utf8.decode (valueBytes line) = found.value := by
  have read := assigned.assigns
  rw [linesOf_eq, List.getElem?_map, Option.map_eq_some_iff] at read
  obtain ⟨line, inside, read⟩ := read
  exact ⟨line, inside, decode_valueBytes read⟩

theorem AssignedLast.newline_notMem {file : Bytes} {name key : Text} {place : Nat}
    {found : Assignment} (assigned : AssignedLast file name key place found) :
    CodePoint.ofChar '\n' ∉ found.value := by
  obtain ⟨line, piece, read⟩ := List.mem_map.mp (List.mem_of_getElem? assigned.assigns)
  intro member
  exact Text.notMem_of_mem_split piece ((readFrom_of_read read).value_isInfix.subset member)

/-- Whatever the bytes of a file are, laying it over settings that can be encoded gives settings
that can be encoded, so they are written by every saving. And if the value that the file assigns
last to a key holds no backslash and no tab, what is written behind the key are the bytes that the
value has in the file. -/
theorem loadFrom_verbatim {settings : Settings} (encodable : settings.AllTexts Utf8.Encodable)
    {tree : FileTree} {path : Path} {file : Bytes} (content : tree.read path = .ok file) :
    ∃ loaded valid saved, (settings.loadFrom path tree).result = .ok (loaded, valid) ∧
      loaded.AllTexts Utf8.Encodable ∧ loaded.bytes? = some saved ∧
      (∀ target temporary, temporary? target = some temporary →
        loaded.saveTo target = replaceFile target temporary saved) ∧
      ∀ name key place, (assignedAt? (linesOf file) name key place).isSome = true →
        ∃ last found line, AssignedLast file name key last found ∧
          (file.splitOn newline)[last]? = some line ∧
          Utf8.decode (valueBytes line) = found.value ∧
          (CodePoint.ofChar '\\' ∉ found.value → CodePoint.ofChar '\t' ∉ found.value →
            loaded.Writes saved name key (valueBytes line)) := by
  have encodable' := allTexts_encodable_load encodable file
  obtain ⟨saved, encoded⟩ :=
    Option.isSome_iff_exists.mp (piecewise_encodable.render encodable')
  refine ⟨_, _, saved, result_loadFrom settings content, encodable', encoded,
    fun target temporary named => saveTo_of_bytes? encoded named, ?_⟩
  intro name key place assigned
  obtain ⟨last, found, assignedLast, stored⟩ := exists_assignedLast assigned settings
  obtain ⟨line, inside, decoded⟩ := assignedLast.exists_line
  refine ⟨last, found, line, assignedLast, inside, decoded, fun backslash tab => ?_⟩
  have escaped : escape (unescape found.value) = found.value :=
    (paired_of_notMem backslash).escape_unescape assignedLast.newline_notMem tab
  have free : newline ∉ valueBytes line := by
    have ascii : (CodePoint.ofChar '\n').Ascii := by decide
    rw [show newline = (CodePoint.ofChar '\n').byte from rfl, ← Utf8.mem_decode_iff ascii, decoded]
    exact assignedLast.newline_notMem
  refine writes_of_value? encoded stored ?_ free
  rw [escaped, ← decoded, Utf8.encode?_decode]

/-- A file in which the second value of a key is an overlong sequence, a surrogate and a byte that
stands in no sequence. -/
def damaged : Bytes :=
  (Utf8.encode? "k = 1\nk =\t").getD [] ++ [0xC0, 0x80, 0xED, 0xA0, 0x80, 0xFF] ++
    (Utf8.encode? " \r").getD []

def withDamaged : FileTree where
  entries := OrderedMap.ofList [([Path.stored "a.conf"], .file damaged)]
  workingDirectory := []

theorem loadFrom_verbatim_damaged :
    ∃ loaded valid saved,
      (loadFrom (OrderedMap.ofList [("log", ∅)]) (Path.ofText "a.conf") withDamaged).result =
        .ok (loaded, valid) ∧
      loaded.bytes? = some saved ∧
      loaded.Writes saved [] "k" [0xC0, 0x80, 0xED, 0xA0, 0x80, 0xFF] := by
  have content : withDamaged.read (Path.ofText "a.conf") = .ok damaged := by decide +kernel
  have encodable : AllTexts Utf8.Encodable (OrderedMap.ofList [("log", ∅)]) := by decide
  obtain ⟨loaded, valid, saved, result, -, encoded, -, values⟩ :=
    loadFrom_verbatim encodable content
  have assigned : (assignedAt? (linesOf damaged) [] "k" 1).isSome = true := by decide +kernel
  obtain ⟨last, found, line, assignedLast, inside, decoded, written⟩ := values [] "k" 1 assigned
  have second : last = 1 := by
    rcases Nat.lt_trichotomy last 1 with before | here | after
    · rw [assignedLast.last 1 before] at assigned
      cases assigned
    · exact here
    · have size : (linesOf damaged).length = 2 := by decide +kernel
      have beyond := List.getElem?_eq_none (size.trans_le after)
      rw [assignedLast.assigns] at beyond
      cases beyond
  have bytes : ((damaged.splitOn newline)[1]?).map valueBytes =
      some [0xC0, 0x80, 0xED, 0xA0, 0x80, 0xFF] := by decide +kernel
  rw [← second, inside, Option.map_some, Option.some.injEq] at bytes
  rw [bytes] at decoded written
  refine ⟨loaded, valid, saved, result, encoded, written ?_ ?_⟩
  · rw [← decoded]
    decide +kernel
  · rw [← decoded]
    decide +kernel

end Startup.Settings
