import Startup.Text.Printable

/-!
# Quoted texts

The form in which messages show a text that may hold anything: between quotes, with a backslash
before what would end or distort it, and with the number of every code point that has no visible
form.
-/

namespace Startup

/-- The number of a code point in base sixteen: two, four or eight digits after `x`, `u` or `U`. -/
def CodePoint.numbered (point : CodePoint) : Text :=
  if point.toNat ≤ 0xFF then CodePoint.ofChar '\\' :: CodePoint.ofChar 'x' :: Text.hex 2 point.toNat
  else if point.toNat ≤ 0xFFFF then
    CodePoint.ofChar '\\' :: CodePoint.ofChar 'u' :: Text.hex 4 point.toNat
  else CodePoint.ofChar '\\' :: CodePoint.ofChar 'U' :: Text.hex 8 point.toNat

def CodePoint.quoted (quote point : CodePoint) : Text :=
  if point = quote ∨ point = '\\' then ['\\', point]
  else if point = '\t' then ['\\', 't']
  else if point = '\n' then ['\\', 'n']
  else if point = '\r' then ['\\', 'r']
  else if point.isPrintable then [point]
  else point.numbered

/-- The text between single quotes, or between double quotes if it holds only single ones. -/
def Text.quoted (text : Text) : Text :=
  let quote : CodePoint := if text.contains '\'' && !text.contains '"' then '"' else '\''
  quote :: text.flatMap (CodePoint.quoted quote) ++ [quote]

end Startup
