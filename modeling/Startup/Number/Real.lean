import Startup.Number.Integer

/-!
# Real numbers in 64 bits

`Real` is the binary interchange format with eleven exponent bits and fifty-two fraction bits.
A ratio of integers becomes the nearest such number, a tie going to the even significand. Writing
takes the fewest digits that read back as the same number, and among those the ones nearest to it.
-/

namespace Startup

/-- A binary floating-point number of 64 bits, with its biased exponent. -/
structure Real where
  negative : Bool
  exponent : Nat
  fraction : Nat
  exponent_lt : exponent < 2048 := by omega
  fraction_lt : fraction < 4503599627370496 := by omega
deriving DecidableEq

namespace Real

/-- The weight of the leading bit of a significand of full length: two to the power of 52. -/
abbrev leadingBit : Nat := 4503599627370496

def zero (negative : Bool) : Real where
  negative := negative
  exponent := 0
  fraction := 0

def infinity (negative : Bool) : Real where
  negative := negative
  exponent := 2047
  fraction := 0

def notANumber : Real where
  negative := false
  exponent := 2047
  fraction := leadingBit / 2
  fraction_lt := by decide

def isNaN (x : Real) : Bool :=
  x.exponent == 2047 && x.fraction != 0

def isInfinite (x : Real) : Bool :=
  x.exponent == 2047 && x.fraction == 0

def isFinite (x : Real) : Bool :=
  !(x.isNaN || x.isInfinite)

/-- The exponent and fraction bits as one number, which grows with the size of the value. -/
def magnitude (x : Real) : Nat :=
  x.exponent * leadingBit + x.fraction

def isZero (x : Real) : Bool :=
  x.magnitude == 0

/-- The significand `m` of a finite value, whose size is `m * 2 ^ scale`. -/
def significand (x : Real) : Nat :=
  if x.exponent = 0 then x.fraction else leadingBit + x.fraction

/-- The power of two that goes with the significand of a finite value. -/
def scale (x : Real) : Int :=
  if x.exponent = 0 then -1074 else (x.exponent : Int) - 1075

/-- Whether `x` is at most `y`; nothing compares with a value that is no number. -/
def ble (x y : Real) : Bool :=
  let rank (z : Real) : Int := Integer.signed z.negative z.magnitude
  !x.isNaN && !y.isNaN && decide (rank x ≤ rank y)

/-- The value whose exponent and fraction bits are `magnitude`, or an infinity beyond the largest
finite value. -/
def ofMagnitude (negative : Bool) (magnitude : Nat) : Real :=
  if bound : magnitude < 2047 * leadingBit then
    { negative := negative
      exponent := magnitude / leadingBit
      fraction := magnitude % leadingBit
      exponent_lt := by unfold leadingBit at bound ⊢; omega
      fraction_lt := Nat.mod_lt _ (by decide) }
  else infinity negative

/-- The quotient rounded to the nearest integer, a tie to the even one. -/
def roundDiv (num den : Nat) : Nat :=
  let quotient := num / den
  let twice := 2 * (num % den)
  if twice < den then quotient
  else if den < twice then quotient + 1
  else quotient + quotient % 2

/-- The greatest `e` with `2 ^ e ≤ num / den`, for positive `num` and `den`. -/
def binaryExponent (num den : Nat) : Int :=
  let guess := (Nat.log2 num : Int) - (Nat.log2 den : Int)
  if num * Nat.pow 2 (-guess).toNat < den * Nat.pow 2 guess.toNat then guess - 1 else guess

def ofRatio (negative : Bool) (num den : Nat) : Real :=
  if num = 0 then zero negative
  else
    let scale := max (binaryExponent num den - 52) (-1074)
    let rounded := roundDiv (num * Nat.pow 2 (-scale).toNat) (den * Nat.pow 2 scale.toNat)
    -- A significand of full length carries its leading bit into the exponent bits.
    ofMagnitude negative ((scale + 1074).toNat * leadingBit + rounded)

/-- The value nearest to `m * 10 ^ e`. Powers far outside the range of finite values are cut off
before they are computed. -/
def ofDecimal (negative : Bool) (m : Nat) (e : Int) : Real :=
  if m = 0 then zero negative
  else
    let top := e + (Nat.toDigits 10 m).length
    if 400 < top then infinity negative
    else if top < -400 then zero negative
    else ofRatio negative (m * Nat.pow 10 e.toNat) (Nat.pow 10 (-e).toNat)

/-- The value nearest to an integer, or `none` if it lies beyond the largest finite value. -/
def ofInt? (n : Int) : Option Real :=
  let x := ofRatio (decide (n < 0)) n.natAbs 1
  if x.isInfinite then none else some x

def truncate (x : Real) : Int :=
  Integer.signed x.negative (x.significand * Nat.pow 2 x.scale.toNat / Nat.pow 2 (-x.scale).toNat)

def lower (text : Text) : Text :=
  text.map CodePoint.lowerAscii

/-- Reads the exponent part that may follow the digits; an empty text stands for zero. -/
def readExponent? : Text → Option Int
  | [] => some 0
  | mark :: rest =>
      let (negative, digits) := Text.splitSign rest
      if mark = 'e' ∧ digits ≠ [] ∧ digits.all CodePoint.isDigit then
        some (Integer.signed negative digits.digitsValue)
      else none

/-- Reads an unsigned decimal number with an optional point and an optional exponent. -/
def readDecimal? (negative : Bool) (text : Text) : Option Real :=
  let whole := text.takeWhile CodePoint.isDigit
  let (places, rest) : Text × Text :=
    match text.dropWhile CodePoint.isDigit with
    | [] => ([], [])
    | point :: rest =>
        if point = '.' then (rest.takeWhile CodePoint.isDigit, rest.dropWhile CodePoint.isDigit)
        else ([], point :: rest)
  if whole = [] ∧ places = [] then none
  else (readExponent? rest).map fun exponent =>
    ofDecimal negative (Text.digitsValue (whole ++ places)) (exponent - places.length)

/-- Reads a real number: a decimal number, an infinity or the value that is no number, in any case,
with blanks around it, underscores between its digits, and digits of any script. -/
def read? (text : Text) : Option Real :=
  let plain := lower (Text.trim CodePoint.isNumberBlank text.plainNumber)
  if ¬ Text.underscoresSeparate false plain then none
  else
    let (negative, size) := Text.splitSign (plain.filter (· != '_'))
    if size = Text.ofString "inf" ∨ size = Text.ofString "infinity" then some (infinity negative)
    else if size = Text.ofString "nan" then some notANumber
    else readDecimal? negative size

/-- A positive decimal number `digits * 10 ^ power`. -/
structure Decimal where
  digits : Nat
  power : Int

/-- The reals that round to a value: the value and its bounds over the common denominator `unit`,
and whether the bounds belong to them. -/
structure Interval where
  value : Nat
  low : Nat
  high : Nat
  unit : Nat
  closed : Bool

/-- The interval that rounds to a positive finite value. Below a power of two the neighbours lie
half as far apart. -/
def interval (x : Real) : Interval :=
  let power := x.scale - 2
  let up := Nat.pow 2 power.toNat
  let m := x.significand
  { value := 4 * m * up
    low := (4 * m - (if x.fraction = 0 ∧ 1 < x.exponent then 1 else 2)) * up
    high := (4 * m + 2) * up
    unit := Nat.pow 2 (-power).toNat
    closed := m % 2 == 0 }

def digitCount (n : Nat) : Nat :=
  if n = 0 then 0 else (Nat.toDigits 10 n).length

/-- The greatest `e` with `10 ^ e ≤ num / den`, for positive `num` and `den`. -/
def decimalExponent (num den : Nat) : Int :=
  if den ≤ num then (digitCount (num / den) : Int) - 1
  else -(digitCount ((den - 1) / num) : Int)

/-- The point of the grid of multiples of `10 ^ power` that lies in the interval and is nearest to
its value, if any. -/
def Interval.nearestOnGrid? (range : Interval) (power : Int) : Option Decimal :=
  let step := Nat.pow 10 power.toNat * range.unit
  let shift := Nat.pow 10 (-power).toNat
  let below := range.value * shift / step
  let within (n : Nat) : Bool :=
    if range.closed then range.low * shift ≤ n * step && n * step ≤ range.high * shift
    else range.low * shift < n * step && n * step < range.high * shift
  let distanceBelow := range.value * shift - below * step
  let distanceAbove := (below + 1) * step - range.value * shift
  let isBelowNearer := distanceBelow < distanceAbove ∨ distanceBelow = distanceAbove ∧ below % 2 = 0
  if within below && (isBelowNearer || !within (below + 1)) then some ⟨below, power⟩
  else if within (below + 1) then some ⟨below + 1, power⟩
  else none

/-- The shortest decimal number that reads back as a positive finite value; seventeen digits
always do. -/
def shortest (x : Real) : Decimal :=
  let range := x.interval
  let leading := decimalExponent range.value range.unit
  let grids := (List.range 17).map fun (places : Nat) => leading - (places : Int)
  (grids.findSome? range.nearestOnGrid?).getD ⟨0, 0⟩

/-- The digits of a positive decimal number without zeros at the end, with the power of ten of the
first one. -/
def Decimal.normal (number : Decimal) : Text × Int :=
  let digits := Text.ofNat number.digits
  (Text.trimEnd (· == '0') digits, number.power + digits.length - 1)

/-- Writes a positive decimal number: positional from `10 ^ -4` up to below `10 ^ 16`, with a digit
on both sides of the point, and otherwise with an exponent of a sign and at least two digits. -/
def Decimal.text (number : Decimal) : Text :=
  let (digits, leading) := number.normal
  let zeros (count : Int) : Text := List.replicate count.toNat (CodePoint.ofChar '0')
  if leading < -4 ∨ 16 ≤ leading then
    let mantissa : Text :=
      match digits with
      | [] => []
      | [digit] => [digit]
      | digit :: places => digit :: CodePoint.ofChar '.' :: places
    let size := Text.ofNat leading.natAbs
    let sign : CodePoint := if leading < 0 then '-' else '+'
    mantissa ++ [CodePoint.ofChar 'e', sign] ++
      List.replicate (2 - size.length) (CodePoint.ofChar '0') ++ size
  else if leading < 0 then "0." ++ zeros (-leading - 1) ++ digits
  else
    let whole := (leading + 1).toNat
    let places := digits.drop whole
    digits.take whole ++ zeros (whole - digits.length) ++ CodePoint.ofChar '.' ::
      (if places = [] then [CodePoint.ofChar '0'] else places)

def text (x : Real) : Text :=
  if x.isNaN then "nan"
  else
    let size : Text :=
      if x.isInfinite then "inf" else if x.isZero then "0.0" else x.shortest.text
    if x.negative then CodePoint.ofChar '-' :: size else size

end Real

end Startup
