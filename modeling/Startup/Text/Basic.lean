/-!
# Texts

A text is a list of code points. Every number below `0x110000` is a code point here, the surrogates
included, so a text can carry the lone surrogates that stand for bytes outside UTF-8.

The operations cut a text at a separator, trim it, and compare it by code points.
-/

namespace Startup

/-- A code point: a number below `0x110000`, surrogates included. -/
structure CodePoint where
  toNat : Nat
  toNat_lt : toNat < 0x110000
deriving DecidableEq

namespace CodePoint

def ofChar (char : Char) : CodePoint where
  toNat := char.toNat
  toNat_lt := by
    have valid : char.toNat < 0xD800 ∨ 0xDFFF < char.toNat ∧ char.toNat < 0x110000 := char.valid
    omega

instance : Coe Char CodePoint where
  coe := ofChar

instance : Inhabited CodePoint where
  default := ofChar ' '

def ofNat? (n : Nat) : Option CodePoint :=
  if bound : n < 0x110000 then some ⟨n, bound⟩ else none

/-- Whether the code point is a surrogate, which no well-formed byte sequence encodes. -/
def isSurrogate (point : CodePoint) : Bool :=
  0xD800 ≤ point.toNat && point.toNat < 0xE000

/-- Whether the code point is a space or a tab. -/
def isBlank (point : CodePoint) : Bool :=
  point == ' ' || point == '\t'

/-- The lower-case form of an ASCII letter; every other code point is unchanged. -/
def lowerAscii (point : CodePoint) : CodePoint :=
  if letter : 65 ≤ point.toNat ∧ point.toNat ≤ 90 then
    ⟨point.toNat + 32, by omega⟩
  else point

def isDigit (point : CodePoint) : Bool :=
  48 ≤ point.toNat && point.toNat ≤ 57

end CodePoint

abbrev Text := List CodePoint

namespace Text

def ofString (string : String) : Text :=
  string.toList.map CodePoint.ofChar

instance : Coe String Text where
  coe := ofString

/-- The decimal digits of a natural number, without leading zeros. -/
def ofNat (n : Nat) : Text :=
  (Nat.toDigits 10 n).map CodePoint.ofChar

/-- The decimal digits of an integer, after a minus sign if it is negative. -/
def ofInt : Int → Text
  | .ofNat n => ofNat n
  | .negSucc n => CodePoint.ofChar '-' :: ofNat (n + 1)

/-- The text without the code points at its end that satisfy `drop`. -/
def trimEnd (drop : CodePoint → Bool) (text : Text) : Text :=
  (text.reverse.dropWhile drop).reverse

/-- The text without the code points at both ends that satisfy `drop`. -/
def trim (drop : CodePoint → Bool) (text : Text) : Text :=
  trimEnd drop (text.dropWhile drop)

def trimBlanks (text : Text) : Text :=
  trim CodePoint.isBlank text

def digitsValue (digits : Text) : Nat :=
  digits.foldl (fun value digit => 10 * value + (digit.toNat - 48)) 0

/-- The parts before and after the first `separator`, or `none` if it does not occur. -/
def cut? (separator : CodePoint) : Text → Option (Text × Text)
  | [] => none
  | point :: rest =>
      if point = separator then some ([], rest)
      else (cut? separator rest).map fun parts => (point :: parts.1, parts.2)

/-- The pieces between the occurrences of `separator`; there is always at least one. -/
def split (separator : CodePoint) : Text → List Text
  | [] => [[]]
  | point :: rest =>
      if point = separator then [] :: split separator rest
      else
        match split separator rest with
        | [] => [[point]]
        | piece :: pieces => (point :: piece) :: pieces

def join (separator : Text) : List Text → Text
  | [] => []
  | [piece] => piece
  | piece :: next :: pieces => piece ++ separator ++ join separator (next :: pieces)

def unlines (pieces : List Text) : Text :=
  pieces.flatMap fun piece => piece ++ [CodePoint.ofChar '\n']

def replace (point : CodePoint) (replacement : Text) (text : Text) : Text :=
  text.flatMap fun other => if other = point then replacement else [other]

/-- The text without one final `point`, if it ends in one. -/
def dropFinal (point : CodePoint) (text : Text) : Text :=
  if text.getLast? = some point then text.dropLast else text

/-- The text followed by as many spaces as it is shorter than `width`. -/
def padRight (width : Nat) (text : Text) : Text :=
  text ++ List.replicate (width - text.length) (CodePoint.ofChar ' ')

/-- Whether `left` comes no later than `right` when texts are ordered by their first difference. -/
def ble : Text → Text → Bool
  | [], _ => true
  | _ :: _, [] => false
  | left :: lefts, right :: rights =>
      if left.toNat < right.toNat then true
      else if right.toNat < left.toNat then false
      else ble lefts rights

/-- The digits of `n` in base sixteen, padded with zeros to at least `width` places. -/
def hex (width n : Nat) : Text :=
  let digits : Text := (Nat.toDigits 16 n).map CodePoint.ofChar
  List.replicate (width - digits.length) (CodePoint.ofChar '0') ++ digits

end Text

end Startup
