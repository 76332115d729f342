import Startup.Proofs.Settings.Escape
import Startup.Proofs.Text.Pieces
import Startup.Settings.Table
import Mathlib.Tactic.MkIffOfInductiveProp

/-!
# Reading the lines that are written

The line written for an entry is read back as an assignment of the same entry, or it adds less than
the entry holds: the point of a key, its blanks, a comment mark, brackets around the whole line, a
carriage return or spaces at the ends of the value all cost code points. What a line of any file
adds to a table obeys the laws of `Assignment.read?`: a key is not empty, ends in no blank and holds
no equals sign, and a value neither begins nor ends with a space.
-/

namespace Startup.Settings

def isCommentMark (point : CodePoint) : Bool :=
  point == '#' || point == ';'

def isOpening (point : CodePoint) : Bool :=
  point == '['

def isClosing (point : CodePoint) : Bool :=
  point == ']'

def isReturn (point : CodePoint) : Bool :=
  point == '\r'

/-! ## Entries that a line can hold -/

/-- Whether a text does not break a line. -/
def OnLine (text : Text) : Prop :=
  CodePoint.ofChar '\n' ∉ text

instance (text : Text) : Decidable (OnLine text) :=
  inferInstanceAs (Decidable (¬ _))

/-- A key that a line can hold under the section at hand. -/
@[mk_iff]
structure PlainKey (key : Text) : Prop where
  nonempty : key ≠ []
  newline : CodePoint.ofChar '\n' ∉ key
  equals : CodePoint.ofChar '=' ∉ key
  point : CodePoint.ofChar '.' ∉ key
  first : Text.beginsWith CodePoint.isBlank key = false
  last : Text.endsWith CodePoint.isBlank key = false
  comment : Text.beginsWith isCommentMark key = false

instance (key : Text) : Decidable (PlainKey key) :=
  decidable_of_iff _ (plainKey_iff key).symm

/-- A value of which a line loses nothing. -/
@[mk_iff]
structure PlainValue (value : Text) : Prop where
  first : Text.beginsWith CodePoint.isSpace value = false
  last : Text.endsWith CodePoint.isSpace value = false
  noReturn : Text.endsWith isReturn value = false

instance (value : Text) : Decidable (PlainValue value) :=
  decidable_of_iff _ (plainValue_iff value).symm

/-- A key and a value that a line can hold together: it must not look like the opening of a
section. -/
@[mk_iff]
structure PlainEntry (key value : Text) : Prop where
  plainKey : PlainKey key
  plainValue : PlainValue value
  noBrackets : (Text.beginsWith isOpening key && Text.endsWith isClosing value) = false

instance (key value : Text) : Decidable (PlainEntry key value) :=
  decidable_of_iff _ (plainEntry_iff key value).symm

/-- The part of a value that its line keeps: without one carriage return at the end, then without
spaces at both ends. -/
def keptValue (value : Text) : Text :=
  Text.trim CodePoint.isSpace (Text.dropFinal '\r' value)

theorem length_keptValue_le (value : Text) : (keptValue value).length ≤ value.length :=
  (Text.length_trim_le _ _).trans (Text.length_dropFinal_le value)

/-- A line loses nothing of a value as soon as it loses no code point of it. -/
theorem plainValue_of_length_le {value : Text} (kept : value.length ≤ (keptValue value).length) :
    PlainValue value := by
  have shorter := Text.length_trim_le CodePoint.isSpace (Text.dropFinal '\r' value)
  have whole : Text.dropFinal '\r' value = value :=
    (Text.dropFinal_isPrefix value).eq_of_length_le (kept.trans shorter)
  have same : Text.trim CodePoint.isSpace value = value := by
    rw [keptValue, whole] at kept
    exact (Text.trim_isInfix value).eq_of_length_le kept
  obtain ⟨first, last⟩ := Text.trim_eq_self_iff.mp same
  have other := Text.dropFinal_eq_self_iff.mp whole
  rw [Ne, ← Text.endsWith_beq_iff, Bool.not_eq_true] at other
  exact ⟨first, last, other⟩

theorem PlainValue.keptValue {value : Text} (plain : PlainValue value) :
    keptValue value = value := by
  have other : value.getLast? ≠ some (CodePoint.ofChar '\r') := by
    rw [Ne, ← Text.endsWith_beq_iff, Bool.not_eq_true]
    exact plain.noReturn
  rw [Settings.keptValue, Text.dropFinal_of_ne other]
  exact Text.trim_eq_self_iff.mpr ⟨plain.first, plain.last⟩

/-- An entry of which a line keeps the key, though not always the whole value. -/
structure LegibleEntry (key value : Text) : Prop where
  plainKey : PlainKey key
  noBrackets : (Text.beginsWith isOpening key && Text.endsWith isClosing (keptValue value)) = false

theorem PlainEntry.legibleEntry {key value : Text} (plain : PlainEntry key value) :
    LegibleEntry key value := by
  refine ⟨plain.plainKey, ?_⟩
  rw [plain.plainValue.keptValue]
  exact plain.noBrackets

/-! ## Lines in general -/

namespace Line

theorem bracketed?_eq (text : Text) :
    bracketed? text =
      if Text.beginsWith isOpening text && Text.endsWith isClosing text.tail then
        some text.tail.dropLast
      else none := by
  cases text with
  | nil => rfl
  | cons first rest =>
      have closing : Text.endsWith isClosing rest = true ↔
          rest.getLast? = some (CodePoint.ofChar ']') := Text.endsWith_beq_iff
      simp only [bracketed?, Text.beginsWith_cons, isOpening, List.tail_cons, Bool.and_eq_true,
        beq_iff_eq, closing]

/-- A line that counts is skipped, opens a section, or is an assignment. -/
theorem readTrimmed_eq (text : Text) :
    readTrimmed text =
      if text = [] ∨ Text.beginsWith isCommentMark text = true then .skipped
      else if Text.beginsWith isOpening text && Text.endsWith isClosing text.tail then
        .header text.tail.dropLast
      else ((Assignment.read? text).map .assignment).getD (.invalid text) := by
  cases text with
  | nil => rfl
  | cons first rest =>
      simp only [readTrimmed, List.head?_cons, bracketed?_eq, Text.beginsWith_cons, isCommentMark,
        Bool.or_eq_true, beq_iff_eq, List.cons_ne_nil, false_or]
      by_cases comment : first = '#' ∨ first = ';'
      · rw [if_pos comment, if_pos comment]
      rw [if_neg comment, if_neg comment]
      by_cases brackets : (isOpening first && Text.endsWith isClosing rest) = true
      · simp only [List.tail_cons, brackets, if_true]
      · simp only [List.tail_cons, brackets]
        cases Assignment.read? (first :: rest) <;> rfl

end Line

/-- The line that opens a section is read as its header, whatever the name. -/
theorem read_headerLine (name : Text) : Line.read ("[" ++ name ++ "]") = .header name := by
  have shape : Text.ofString "[" ++ name ++ Text.ofString "]" =
      CodePoint.ofChar '[' :: (name ++ [CodePoint.ofChar ']']) := rfl
  have last : (CodePoint.ofChar '[' :: (name ++ [CodePoint.ofChar ']'])).getLast? =
      some (CodePoint.ofChar ']') := by
    rw [← List.cons_append, List.getLast?_concat]
  have whole : Line.trimmed (CodePoint.ofChar '[' :: (name ++ [CodePoint.ofChar ']'])) =
      CodePoint.ofChar '[' :: (name ++ [CodePoint.ofChar ']']) := by
    rw [Line.trimmed, Text.dropFinal_of_ne (by rw [last]; decide), Text.trimBlanks,
      Text.trim_eq_self_iff, Text.beginsWith_cons, ← List.cons_append, Text.endsWith_concat]
    decide
  rw [shape, Line.read, whole, Line.readTrimmed_eq, Text.beginsWith_cons, Text.beginsWith_cons,
    List.tail_cons, Text.endsWith_concat, List.dropLast_concat]
  rfl

/-! ## Lines that are written for entries -/

theorem assignmentLine_eq (key value : Text) :
    assignmentLine (key, value) =
      key ++ CodePoint.ofChar ' ' :: CodePoint.ofChar '=' :: CodePoint.ofChar ' ' ::
        escape value := by
  simp [assignmentLine, Text.ofString]

/-- What stands before the equals sign of the trimmed line for a key. -/
def leftPart (key : Text) : Text :=
  (key ++ [CodePoint.ofChar ' ']).dropWhile CodePoint.isBlank

/-- What stands after the equals sign of the trimmed line for a value. -/
def rightPart (value : Text) : Text :=
  Text.trimEnd CodePoint.isBlank (CodePoint.ofChar ' ' :: escape (Text.dropFinal '\r' value))

theorem trimmed_assignmentLine (key value : Text) :
    Line.trimmed (assignmentLine (key, value)) =
      leftPart key ++ CodePoint.ofChar '=' :: rightPart value := by
  have different : CodePoint.ofChar ' ' ≠ '\r' := by decide
  have kept : CodePoint.isBlank '=' = false := rfl
  have drop := Text.dropFinal_append_cons different
    (key ++ [CodePoint.ofChar ' ', CodePoint.ofChar '=']) (escape value)
  have trim := Text.trim_append_cons kept (key ++ [CodePoint.ofChar ' '])
    (CodePoint.ofChar ' ' :: escape (Text.dropFinal '\r' value))
  rw [assignmentLine_eq, Line.trimmed, Text.trimBlanks, leftPart, rightPart, ← trim,
    ← dropFinal_escape]
  simpa using congrArg (Text.trim CodePoint.isBlank) drop

theorem trimBlanks_leftPart (key : Text) :
    Text.trimBlanks (leftPart key) = Text.trimBlanks key := by
  rw [leftPart, Text.trimBlanks, Text.trim_dropWhile, Text.trim_concat_of_drop rfl, Text.trimBlanks]

theorem trimBlanks_rightPart (value : Text) :
    Text.trimBlanks (rightPart value) = escape (keptValue value) := by
  rw [rightPart, Text.trimBlanks, Text.trim_trimEnd, Text.trim_cons_of_drop rfl, ← Text.trimBlanks,
    trimBlanks_escape, keptValue]

theorem equals_notMem_leftPart {key : Text} (free : CodePoint.ofChar '=' ∉ key) :
    CodePoint.ofChar '=' ∉ leftPart key := by
  intro member
  rcases List.mem_append.mp (List.dropWhile_subset _ member) with inside | blank
  · exact free inside
  · rw [List.mem_singleton] at blank
    exact absurd blank (by decide)

theorem endsWith_rightPart (value : Text) :
    Text.endsWith isClosing (rightPart value) = Text.endsWith isClosing (keptValue value) := by
  have uninvolved : Uninvolved isClosing := uninvolved_of rfl rfl rfl rfl rfl
  have shape : CodePoint.ofChar ' ' :: escape (Text.dropFinal '\r' value) =
      escape (CodePoint.ofChar ' ' :: Text.dropFinal '\r' value) := by
    rw [escape_cons]
    rfl
  rw [rightPart, shape, trimEnd_escape, endsWith_escape uninvolved, ← Text.endsWith_trim_eq,
    Text.trim_cons_of_drop rfl, keptValue]

/-- How the line for an entry is read, as long as the key holds no equals sign. -/
theorem read_assignmentLine {key : Text} (free : CodePoint.ofChar '=' ∉ key) (value : Text) :
    Line.read (assignmentLine (key, value)) =
      if Text.beginsWith isCommentMark (leftPart key) then .skipped
      else if Text.beginsWith isOpening (leftPart key) &&
          Text.endsWith isClosing (keptValue value) then
        .header (Line.trimmed (assignmentLine (key, value))).tail.dropLast
      else if (Assignment.splitKey (Text.trimBlanks key)).2 = [] then
        .invalid (Line.trimmed (assignmentLine (key, value)))
      else .assignment ⟨(Assignment.splitKey (Text.trimBlanks key)).1,
        (Assignment.splitKey (Text.trimBlanks key)).2, escape (keptValue value)⟩ := by
  have cut : Text.cut? '=' (leftPart key ++ CodePoint.ofChar '=' :: rightPart value) =
      some (leftPart key, rightPart value) :=
    Text.cut?_eq_some_iff.mpr ⟨rfl, equals_notMem_leftPart free⟩
  have closing : (Text.beginsWith isOpening (leftPart key) && Text.endsWith isClosing
      (leftPart key ++ CodePoint.ofChar '=' :: rightPart value).tail) =
      (Text.beginsWith isOpening (leftPart key) && Text.endsWith isClosing (keptValue value)) := by
    cases leftPart key with
    | nil => rfl
    | cons first rest =>
        rw [List.cons_append, List.tail_cons, Text.endsWith_append_cons rfl, endsWith_rightPart]
  rw [Line.read, trimmed_assignmentLine, Line.readTrimmed_eq, Text.beginsWith_append_cons rfl,
    Text.beginsWith_append_cons rfl, closing, Assignment.read?, cut]
  simp only [List.append_eq_nil_iff, List.cons_ne_nil, and_false, false_or, trimBlanks_leftPart,
    trimBlanks_rightPart]
  split
  · rfl
  split
  · rfl
  split <;> rfl

theorem splitKey_of_notMem {text : Text} (free : CodePoint.ofChar '.' ∉ text) :
    Assignment.splitKey text = ([], text) := by
  rw [Assignment.splitKey, Text.cut?_eq_none_iff.mpr free]
  rfl

theorem splitKey_cases (text : Text) :
    Assignment.splitKey text = ([], text) ∧ CodePoint.ofChar '.' ∉ text ∨
      text = (Assignment.splitKey text).1 ++
        CodePoint.ofChar '.' :: (Assignment.splitKey text).2 := by
  cases parts : Text.cut? '.' text with
  | none => exact Or.inl ⟨by rw [Assignment.splitKey, parts]; rfl, Text.cut?_eq_none_iff.mp parts⟩
  | some pair =>
      right
      rw [Assignment.splitKey, parts]
      exact (Text.cut?_eq_some_iff.mp parts).1

theorem leftPart_eq {key : Text} (nonempty : key ≠ [])
    (first : Text.beginsWith CodePoint.isBlank key = false) :
    leftPart key = key ++ [CodePoint.ofChar ' '] := by
  cases key with
  | nil => exact absurd rfl nonempty
  | cons point rest => exact List.dropWhile_cons_of_neg (by simpa using first)

/-- A legible entry is read back with what its line keeps of the value. -/
theorem LegibleEntry.read_assignmentLine {key value : Text} (legible : LegibleEntry key value) :
    Line.read (assignmentLine (key, value)) = .assignment ⟨[], key, escape (keptValue value)⟩ := by
  obtain ⟨plain, noBrackets⟩ := legible
  have trimmed : Text.trimBlanks key = key :=
    Text.trim_eq_self_iff.mpr ⟨plain.first, plain.last⟩
  rw [Settings.read_assignmentLine plain.equals, leftPart_eq plain.nonempty plain.first,
    Text.beginsWith_append plain.nonempty, Text.beginsWith_append plain.nonempty, trimmed,
    splitKey_of_notMem plain.point, plain.comment, noBrackets]
  simp [plain.nonempty]

/-! ## What a line adds -/

/-- How much an entry holds. -/
def entryWeight (key value : Text) : Nat :=
  1 + key.length + value.length

def Line.weight : Line → Nat
  | .assignment found => entryWeight found.key (unescape found.value)
  | _ => 0

/-- The line for an entry reads back as that entry, or it adds less than the entry holds. -/
theorem plainEntry_or_weight_lt {key : Text} (newline : CodePoint.ofChar '\n' ∉ key)
    (equals : CodePoint.ofChar '=' ∉ key) (value : Text) :
    PlainEntry key value ∨
      (Line.read (assignmentLine (key, value))).weight < entryWeight key value := by
  have positive : 0 < entryWeight key value := by
    unfold entryWeight
    omega
  rw [read_assignmentLine equals]
  split
  next => exact Or.inr positive
  next comment =>
  split
  next => exact Or.inr positive
  next brackets =>
  split
  next => exact Or.inr positive
  next named =>
  have keyLe := Text.length_trim_le CodePoint.isBlank key
  have valueLe := length_keptValue_le value
  simp only [Line.weight, unescape_escape, entryWeight]
  rcases splitKey_cases (Text.trimBlanks key) with ⟨whole, point⟩ | parts
  · rw [whole] at named ⊢
    by_cases kept : key.length ≤ (Text.trimBlanks key).length ∧
        value.length ≤ (keptValue value).length
    · left
      have same : Text.trimBlanks key = key := (Text.trim_isInfix key).eq_of_length_le kept.1
      have plainValue := plainValue_of_length_le kept.2
      rw [same] at named point
      obtain ⟨first, last⟩ := Text.trim_eq_self_iff.mp same
      rw [leftPart_eq named first, Text.beginsWith_append named, Bool.not_eq_true]
        at comment brackets
      rw [plainValue.keptValue] at brackets
      exact ⟨⟨named, newline, equals, point, first, last, comment⟩, plainValue, brackets⟩
    · right
      rw [Text.trimBlanks] at kept ⊢
      dsimp only
      omega
  · right
    have count := congrArg List.length parts
    rw [List.length_append, List.length_cons] at count
    rw [Text.trimBlanks] at count ⊢
    omega

/-! ## What lines of any file say -/

/-- What holds of every assignment that is read from a line. -/
structure ReadFrom (line : Text) (found : Assignment) : Prop where
  nonempty : found.key ≠ []
  equals : CodePoint.ofChar '=' ∉ found.key
  last : Text.endsWith CodePoint.isBlank found.key = false
  valueFirst : Text.beginsWith CodePoint.isBlank found.value = false
  valueLast : Text.endsWith CodePoint.isBlank found.value = false
  section_isInfix : found.sectionName <:+: line
  key_isInfix : found.key <:+: line
  value_isInfix : found.value <:+: line

theorem trimmed_isInfix (line : Text) : Line.trimmed line <:+: line :=
  (Text.trim_isInfix _).trans (Text.dropFinal_isPrefix line).isInfix

theorem splitKey_isInfix (text : Text) :
    (Assignment.splitKey text).1 <:+: text ∧ (Assignment.splitKey text).2 <:+ text := by
  rcases splitKey_cases text with ⟨whole, -⟩ | parts
  · rw [whole]
    exact ⟨List.nil_infix, List.suffix_refl text⟩
  · exact ⟨⟨[], CodePoint.ofChar '.' :: (Assignment.splitKey text).2, parts.symm⟩,
      ⟨(Assignment.splitKey text).1 ++ [CodePoint.ofChar '.'], by simpa using parts.symm⟩⟩

/-- The parts of a line from which an assignment is read. -/
theorem exists_cut?_of_read? {line : Text} {found : Assignment}
    (read : Assignment.read? line = some found) :
    ∃ left right, Text.cut? '=' line = some (left, right) ∧ found.key ≠ [] ∧
      Assignment.splitKey (Text.trimBlanks left) = (found.sectionName, found.key) ∧
      found.value = Text.trimBlanks right := by
  unfold Assignment.read? at read
  cases cut : Text.cut? '=' line with
  | none =>
      rw [cut] at read
      cases read
  | some pair =>
      obtain ⟨left, right⟩ := pair
      rw [cut] at read
      simp only [Option.ite_none_left_eq_some, Option.some.injEq] at read
      obtain ⟨named, rfl⟩ := read
      exact ⟨left, right, rfl, named, rfl, rfl⟩

theorem readFrom_of_read? {line : Text} {found : Assignment}
    (read : Assignment.read? line = some found) : ReadFrom line found := by
  obtain ⟨left, right, cut, named, parts, value⟩ := exists_cut?_of_read? read
  obtain ⟨rfl, free⟩ := Text.cut?_eq_some_iff.mp cut
  have within := splitKey_isInfix (Text.trimBlanks left)
  rw [parts] at within
  have trimmed : Text.trimBlanks left <:+: left := Text.trim_isInfix left
  have before : left <:+: left ++ CodePoint.ofChar '=' :: right :=
    (List.prefix_append _ _).isInfix
  have after : right <:+: left ++ CodePoint.ofChar '=' :: right :=
    ((List.suffix_cons _ right).trans (List.suffix_append _ _)).isInfix
  have last : Text.endsWith CodePoint.isBlank (Text.trimBlanks left) = false :=
    Text.endsWith_trim left
  obtain ⟨init, shape⟩ := within.2
  rw [← shape, Text.endsWith_append init named] at last
  refine ⟨named, fun member => free (trimmed.subset (within.2.subset member)), last, ?_, ?_,
    within.1.trans (trimmed.trans before), within.2.isInfix.trans (trimmed.trans before), ?_⟩
  · rw [value]
    exact Text.beginsWith_trim right
  · rw [value]
    exact Text.endsWith_trim right
  · rw [value]
    exact (Text.trim_isInfix right).trans after

theorem read?_of_read {line : Text} {found : Assignment}
    (read : Line.read line = .assignment found) :
    Assignment.read? (Line.trimmed line) = some found := by
  rw [Line.read, Line.readTrimmed_eq] at read
  split at read
  next => cases read
  split at read
  next => cases read
  cases assigned : Assignment.read? (Line.trimmed line) with
  | none =>
      rw [assigned] at read
      cases read
  | some other =>
      rw [assigned] at read
      rw [Line.assignment.inj read]

theorem readFrom_of_read {line : Text} {found : Assignment}
    (read : Line.read line = .assignment found) : ReadFrom line found := by
  have inner := readFrom_of_read? (read?_of_read read)
  have within := trimmed_isInfix line
  exact { inner with
    section_isInfix := inner.section_isInfix.trans within
    key_isInfix := inner.key_isInfix.trans within
    value_isInfix := inner.value_isInfix.trans within }

theorem isInfix_of_read_header {line name : Text} (read : Line.read line = .header name) :
    name <:+: line := by
  rw [Line.read, Line.readTrimmed_eq] at read
  split at read
  next => cases read
  split at read
  next =>
    obtain rfl := Line.header.inj read
    exact ((List.dropLast_prefix _).isInfix.trans (List.tail_suffix _).isInfix).trans
      (trimmed_isInfix line)
  next =>
    cases assigned : Assignment.read? (Line.trimmed line) <;> rw [assigned] at read <;> cases read

end Startup.Settings
