import Startup.Settings.Escape

/-!
# Lines of a settings file

A line, without a carriage return at its end and without spaces and tabs around it, is skipped if
it is empty or a comment, opens a section if it stands in brackets, and is an assignment if it has
an equals sign after a key. Anything else is invalid.
-/

namespace Startup.Settings

/-- A value for a key. The section is empty if the key does not name one. -/
structure Assignment where
  sectionName : Text
  key : Text
  value : Text
deriving DecidableEq

namespace Assignment

/-- Splits a key at its first point into a section and the key within it. -/
def splitKey (text : Text) : Text × Text :=
  (Text.cut? '.' text).getD ([], text)

/-- Reads `key = value` or `section.key = value`; the key must not be empty. -/
def read? (line : Text) : Option Assignment :=
  match Text.cut? '=' line with
  | none => none
  | some (left, right) =>
      let parts := splitKey (Text.trimBlanks left)
      if parts.2 = [] then none
      else some ⟨parts.1, parts.2, Text.trimBlanks right⟩

end Assignment

inductive Line where
  | skipped
  | header (sectionName : Text)
  | assignment (assignment : Assignment)
  | invalid (text : Text)
deriving DecidableEq

namespace Line

/-- The text of a line that counts. -/
def trimmed (line : Text) : Text :=
  Text.trimBlanks (Text.dropFinal '\r' line)

def bracketed? : Text → Option Text
  | [] => none
  | first :: rest =>
      if first = '[' ∧ rest.getLast? = some (CodePoint.ofChar ']') then some rest.dropLast else none

def readTrimmed (text : Text) : Line :=
  match text.head? with
  | none => .skipped
  | some first =>
      if first = '#' ∨ first = ';' then .skipped
      else
        match bracketed? text with
        | some name => .header name
        | none =>
            match Assignment.read? text with
            | some found => .assignment found
            | none => .invalid text

def read (line : Text) : Line :=
  readTrimmed (trimmed line)

end Line

end Startup.Settings
