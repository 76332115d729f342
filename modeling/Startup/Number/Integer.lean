import Startup.Text.Blank
import Startup.Text.Digit

/-!
# Integer texts

Two grammars read an integer. The strict one takes an optional sign and ASCII digits. The loose one
also takes blanks around the number, single underscores between digits, and the digits of any
script. Neither reads or writes a number of more than `digitLimit` digits, because the time for that
grows with the square of the length.
-/

namespace Startup

/-- The part of the text after an optional sign, and whether that sign is a minus. -/
def Text.splitSign : Text → Bool × Text
  | [] => (false, [])
  | point :: rest =>
      if point = '-' then (true, rest)
      else if point = '+' then (false, rest)
      else (false, point :: rest)

/-- Whether every underscore stands between two digits, where `afterDigit` says whether a digit
precedes the text. -/
def Text.underscoresSeparate (afterDigit : Bool) : Text → Bool
  | [] => true
  | point :: rest =>
      if point = '_' then
        afterDigit && rest.head?.any CodePoint.isDigit && underscoresSeparate false rest
      else underscoresSeparate point.isDigit rest

/-- The ASCII form of a number in any script: digits become ASCII digits, blanks become spaces, and
what can belong to no number becomes a question mark. A text of ASCII alone is unchanged. -/
def Text.plainNumber (text : Text) : Text :=
  if text.all fun point => point.toNat < 128 then text
  else text.map fun point =>
    if point.toNat < 127 then point
    else if point.isUnicodeBlank then ' '
    else
      match (point.unicodeDigit?).bind fun digit => CodePoint.ofNat? (48 + digit) with
      | some digit => digit
      | none => '?'

/-- Whether the code point may surround a loosely written number. -/
def CodePoint.isNumberBlank (point : CodePoint) : Bool :=
  point == ' ' || (9 ≤ point.toNat && point.toNat ≤ 13)

namespace Integer

def digitLimit : Nat := 4300

inductive ReadError where
  | malformed
  | tooLong (digits : Nat)
deriving DecidableEq

def signed (negative : Bool) (size : Nat) : Int :=
  if negative then -(size : Int) else size

/-- The number that a run of ASCII digits denotes, unless the run is too long. -/
def ofDigits (negative : Bool) (digits : Text) : Except ReadError Int :=
  if digits.length ≤ digitLimit then .ok (signed negative digits.digitsValue)
  else .error (.tooLong digits.length)

/-- Reads an optional sign and at least one ASCII digit, and nothing else. -/
def read (text : Text) : Except ReadError Int :=
  let (negative, digits) := text.splitSign
  if digits ≠ [] ∧ digits.all CodePoint.isDigit then ofDigits negative digits
  else .error .malformed

/-- Reads a number with blanks around it, underscores between its digits, and digits of any
script. -/
def readLoose (text : Text) : Except ReadError Int :=
  let (negative, rest) := Text.splitSign ((Text.plainNumber text).dropWhile CodePoint.isNumberBlank)
  let isPart (point : CodePoint) : Bool := point.isDigit || point == '_'
  let run := rest.takeWhile isPart
  if run = [] ∨ ¬ Text.underscoresSeparate false run then .error .malformed
  else do
    let value ← ofDigits negative (run.filter CodePoint.isDigit)
    if (rest.dropWhile isPart).all CodePoint.isNumberBlank then .ok value else .error .malformed

/-- The decimal text of a number, or `none` if it has more digits than `digitLimit`. -/
def write? (n : Int) : Option Text :=
  let text := Text.ofNat n.natAbs
  if text.length ≤ digitLimit then some (if n < 0 then CodePoint.ofChar '-' :: text else text)
  else none

end Integer

end Startup
