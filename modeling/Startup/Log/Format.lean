import Startup.Log.Record
import Startup.OrderedMap
import Startup.Text.Digit
import Startup.Text.Word
import Startup.Value

/-!
# Formats of log lines

A format puts plain text, percent signs and fields of a record in a row. As a text it marks a field
by a percent sign, a name in parentheses and the letter `s`, and doubles every other percent sign.

Whether a format shows anything of the record is judged by its text: somewhere behind a percent sign
there has to be a name in parentheses with a conversion. A doubled percent sign in front of such a
name is taken for the mark of a field, although the line will not show one there.
-/

namespace Startup

/-- A part of a record that a line can show. -/
inductive LogField where
  | level (aligned : Bool)
  | agent
  | topic
  | message
deriving DecidableEq

inductive LogPiece where
  | plain (point : CodePoint) (other : point ≠ CodePoint.ofChar '%')
  | percent
  | field (part : LogField)
deriving DecidableEq

abbrev LogFormat := List LogPiece

def LogField.text : LogField → Text
  | level true => "%(levelname)-8s"
  | level false => "%(levelname)s"
  | agent => "%(agent)s"
  | topic => "%(topic)s"
  | message => "%(message)s"

def LogPiece.text : LogPiece → Text
  | plain point _ => [point]
  | percent => "%%"
  | field part => part.text

namespace LogFormat

def text (format : LogFormat) : Text :=
  format.flatMap LogPiece.text

def marked : List LogPiece :=
  [.percent, .field (.level true), .field (.level false), .field .agent, .field .topic,
    .field .message]

theorem length_pos_of_mem_marked {piece : LogPiece} (known : piece ∈ marked) :
    0 < piece.text.length := by
  revert piece
  decide

/-- The format with a text. There is none if the text has other percent signs. -/
def ofText? : Text → Option LogFormat
  | [] => some []
  | point :: rest =>
      if plain : point ≠ CodePoint.ofChar '%' then (ofText? rest).map (.plain point plain :: ·)
      else
        match _found : marked.find? fun piece => piece.text.isPrefixOf (point :: rest) with
        | none => none
        | some piece => (ofText? ((point :: rest).drop piece.text.length)).map (piece :: ·)
termination_by text => text.length
decreasing_by
  · exact Nat.lt_succ_self rest.length
  · have positive := length_pos_of_mem_marked (List.mem_of_find?_eq_some ‹_›)
    rw [List.length_drop, List.length_cons]
    omega

theorem text_cons (piece : LogPiece) (format : LogFormat) :
    text (piece :: format) = piece.text ++ text format :=
  List.flatMap_cons

/-- No piece that begins with a percent sign begins another one. -/
theorem find?_marked {piece : LogPiece} (known : piece ∈ marked) (rest : Text) :
    marked.find? (fun other => other.text.isPrefixOf (piece.text ++ rest)) = some piece := by
  simp only [marked, List.mem_cons, List.not_mem_nil, or_false] at known
  rcases known with rfl | rfl | rfl | rfl | rfl | rfl <;> rfl

theorem ofText?_append (piece : LogPiece) (rest : Text) :
    ofText? (piece.text ++ rest) = (ofText? rest).map (piece :: ·) := by
  have kinds : (∃ point other, piece = .plain point other) ∨
      piece ∈ marked ∧ ∃ behind, piece.text = CodePoint.ofChar '%' :: behind := by
    cases piece with
    | plain point other => exact Or.inl ⟨point, other, rfl⟩
    | percent => exact Or.inr ⟨by decide, _, rfl⟩
    | field part =>
        cases part with
        | level aligned => cases aligned <;> exact Or.inr ⟨by decide, _, rfl⟩
        | agent | topic | message => exact Or.inr ⟨by decide, _, rfl⟩
  rcases kinds with ⟨point, other, rfl⟩ | ⟨known, behind, begins⟩
  · rw [LogPiece.text, List.singleton_append, ofText?, dif_pos other]
  · have found := find?_marked known rest
    rw [begins, List.cons_append] at found
    rw [begins, List.cons_append, ofText?, dif_neg (not_not_intro rfl)]
    split
    next absent =>
      rw [found] at absent
      cases absent
    next other found' =>
      rw [found] at found'
      obtain rfl := Option.some.inj found'
      rw [begins, ← List.cons_append, List.drop_left]

/-- A format is read from its own text, and from no other. -/
theorem ofText?_eq_some_iff {source : Text} {format : LogFormat} :
    ofText? source = some format ↔ text format = source := by
  constructor
  · intro read
    fun_induction ofText? source generalizing format with
    | case1 => rw [← Option.some.inj read]; rfl
    | case2 point rest plain ih =>
        obtain ⟨others, read', rfl⟩ := Option.map_eq_some_iff.mp read
        rw [text_cons, ih read']
        rfl
    | case3 => cases read
    | case4 point rest plain piece found ih =>
        obtain ⟨others, read', rfl⟩ := Option.map_eq_some_iff.mp read
        have begins : piece.text.isPrefixOf (point :: rest) = true := by
          simpa using List.find?_some found
        obtain ⟨behind, whole⟩ := List.isPrefixOf_iff_prefix.mp begins
        rw [text_cons, ih read', ← whole, List.drop_left]
  · rintro rfl
    induction format with
    | nil => rw [text, List.flatMap_nil, ofText?]
    | cons piece format ih => rw [text_cons, ofText?_append, ih, Option.map_some]

/-- What follows a name in parentheses at the beginning of a text. -/
def behindName? : Text → Option Text
  | [] => none
  | opening :: rest =>
      match rest.dropWhile CodePoint.isWord with
      | [] => none
      | closing :: behind =>
          if opening = '(' ∧ rest.takeWhile CodePoint.isWord ≠ [] ∧ closing = ')' then some behind
          else none

/-- What follows a number or a star at the beginning of a text, if there is one. -/
def behindNumber : Text → Text
  | [] => []
  | first :: rest =>
      if first = '*' then rest
      else (first :: rest).dropWhile fun point => point.unicodeDigit?.isSome

/-- What follows a point and a number behind it at the beginning of a text, if they are there. -/
def behindPrecision : Text → Text
  | [] => []
  | first :: rest =>
      if first = '.' ∧ behindNumber rest ≠ rest then behindNumber rest else first :: rest

/-- The letters that end a field, in either case, and the letters of other alphabets that count as
the other case of one of them. -/
def conversions : Text :=
  "diouxefgcrsaDIOUXEFGCRSA%İıſ"

def flags : Text :=
  "#0+ -"

/-- Whether a text begins as a field goes on behind its percent sign: with a name, flags, a width, a
precision and a conversion, of which only the name and the conversion are needed. -/
def fieldFollows (text : Text) : Bool :=
  match behindName? text with
  | none => false
  | some behind =>
      match behindPrecision (behindNumber (behind.dropWhile flags.contains)) with
      | [] => false
      | conversion :: _ => conversions.contains conversion

def showsField : Text → Bool
  | [] => false
  | point :: rest => (point == '%' && fieldFollows rest) || showsField rest

theorem showsField_append (early : Text) {late : Text} (shown : showsField late = true) :
    showsField (early ++ late) = true := by
  induction early with
  | nil => exact shown
  | cons point rest ih => rw [List.cons_append, showsField, ih, Bool.or_true]

/-- A format with a field in it is never refused. -/
theorem showsField_of_mem {format : LogFormat} {part : LogField}
    (member : .field part ∈ format) : showsField format.text = true := by
  obtain ⟨before, behind, rfl⟩ := List.append_of_mem member
  have follows : showsField (text (.field part :: behind)) = true := by
    rw [text_cons, LogPiece.text]
    cases part with
    | level aligned => cases aligned <;> rfl
    | agent | topic | message => rfl
  rw [text, List.flatMap_append]
  exact showsField_append _ follows

end LogFormat

/-- What is shown of a value in the context of a record, which may have no text. -/
def shown? (context : OrderedMap Text Value) (name : Text) : Option Text :=
  match context.get? name with
  | none => some "None"
  | some value => value.display.toOption

def LogField.show? (level : Level) (context : OrderedMap Text Value) (message : Text) :
    LogField → Option Text
  | .level aligned => some (Text.padRight (if aligned then 8 else 0) level.name)
  | .agent => shown? context "agent"
  | .topic => shown? context "topic"
  | .message => some message

def LogPiece.show? (level : Level) (context : OrderedMap Text Value) (message : Text) :
    LogPiece → Option Text
  | plain point _ => some [point]
  | percent => some "%"
  | field part => part.show? level context message

/-- The line for a record. There is none if something that it should show has no text. -/
def LogFormat.line? (format : LogFormat) (level : Level) (context : OrderedMap Text Value)
    (message : Text) : Option Text := do
  return (← format.mapM (LogPiece.show? level context message)).flatten

end Startup
