import Startup.Text.Quoted

/-!
# UTF-8 without loss

Every byte sequence has a text, and encoding that text gives the bytes back. A byte that belongs to
no well-formed sequence becomes the surrogate `0xDC00` plus its value, one for each byte; since bytes
below `0x80` are always well formed, these surrogates lie in `0xDC80` to `0xDCFF`.

Encoding turns such a surrogate back into its byte and fails at every other surrogate.
-/

namespace Startup

abbrev Bytes := List UInt8

namespace Utf8

/-- What the first byte of a sequence says: the bits it contributes, how many bytes follow, and the
least number that needs a sequence of this length. -/
structure Lead where
  payload : Nat
  tails : Nat
  least : Nat

def lead? (byte : UInt8) : Option Lead :=
  let n := byte.toNat
  if n < 0x80 then some ⟨n, 0, 0⟩
  else if 0xC0 ≤ n ∧ n < 0xE0 then some ⟨n - 0xC0, 1, 0x80⟩
  else if 0xE0 ≤ n ∧ n < 0xF0 then some ⟨n - 0xE0, 2, 0x800⟩
  else if 0xF0 ≤ n ∧ n < 0xF8 then some ⟨n - 0xF0, 3, 0x10000⟩
  else none

/-- Appends the six bits of each of `tails` continuation bytes to `payload`. -/
def extend? (payload : Nat) : Nat → Bytes → Option Nat
  | 0, _ => some payload
  | _ + 1, [] => none
  | tails + 1, byte :: rest =>
      if 0x80 ≤ byte.toNat ∧ byte.toNat < 0xC0 then
        extend? (payload * 64 + (byte.toNat - 0x80)) tails rest
      else none

/-- The code point whose well-formed sequence is `first` and bytes at the head of `rest`, with the
number of those bytes. -/
def scalar? (first : UInt8) (rest : Bytes) : Option (CodePoint × Nat) := do
  let lead ← lead? first
  let n ← extend? lead.payload lead.tails rest
  let point ← CodePoint.ofNat? n
  if lead.least ≤ n ∧ point.isSurrogate = false then some (point, lead.tails) else none

/-- The surrogate that stands for a byte outside every well-formed sequence. -/
def stray (byte : UInt8) : CodePoint :=
  ⟨0xDC00 + byte.toNat, by have := byte.toNat_lt; omega⟩

/-- The text of the bytes that follow the first `skip` ones. -/
def decodeFrom : Nat → Bytes → Text
  | _, [] => []
  | skip + 1, _ :: rest => decodeFrom skip rest
  | 0, first :: rest =>
      match scalar? first rest with
      | some (point, tails) => point :: decodeFrom tails rest
      | none => stray first :: decodeFrom 0 rest

def decode (bytes : Bytes) : Text :=
  decodeFrom 0 bytes

/-- The byte for which a surrogate stands. -/
def strayByte? (point : CodePoint) : Option UInt8 :=
  if 0xDC80 ≤ point.toNat ∧ point.toNat ≤ 0xDCFF then some (UInt8.ofNat (point.toNat - 0xDC00))
  else none

def sequence (n : Nat) : Bytes :=
  if n < 0x80 then [UInt8.ofNat n]
  else if n < 0x800 then [UInt8.ofNat (0xC0 + n / 64), UInt8.ofNat (0x80 + n % 64)]
  else if n < 0x10000 then
    [UInt8.ofNat (0xE0 + n / 4096), UInt8.ofNat (0x80 + n / 64 % 64), UInt8.ofNat (0x80 + n % 64)]
  else
    [UInt8.ofNat (0xF0 + n / 262144), UInt8.ofNat (0x80 + n / 4096 % 64),
      UInt8.ofNat (0x80 + n / 64 % 64), UInt8.ofNat (0x80 + n % 64)]

/-- The bytes of a code point; a surrogate has them only if it stands for a byte. -/
def encodePoint? (point : CodePoint) : Option Bytes :=
  if point.isSurrogate then (strayByte? point).map ([·]) else some (sequence point.toNat)

/-- The bytes of a text, or `none` if one of its code points has none. -/
def encode? : Text → Option Bytes
  | [] => some []
  | point :: rest => do return (← encodePoint? point) ++ (← encode? rest)

/-- Where a text cannot be encoded: the first code point without bytes, its position, and the
position behind the run of surrogates that starts there. -/
structure Unencodable where
  point : CodePoint
  start : Nat
  stop : Nat
deriving DecidableEq

def Unencodable.message (place : Unencodable) : Text :=
  let what : Text :=
    if place.stop = place.start + 1 then
      "character '" ++ place.point.numbered ++ "' in position " ++ Text.ofNat place.start
    else
      "characters in position " ++ Text.ofNat place.start ++ "-" ++ Text.ofNat (place.stop - 1)
  "'utf-8' codec can't encode " ++ what ++ ": surrogates not allowed"

def firstRefused? (refused : CodePoint → Bool) (text : Text) : Option Unencodable :=
  let start := (text.takeWhile fun point => !refused point).length
  match text.drop start with
  | [] => none
  | point :: rest =>
      some ⟨point, start, start + 1 + (rest.takeWhile CodePoint.isSurrogate).length⟩

def unencodable? (text : Text) : Option Unencodable :=
  firstRefused? (fun point => (encodePoint? point).isNone) text

/-- Where encoding fails if no surrogate is allowed at all. -/
def firstSurrogate? (text : Text) : Option Unencodable :=
  firstRefused? CodePoint.isSurrogate text

/-- Whether a text holds no surrogate. -/
def Plain (text : Text) : Prop :=
  ∀ point ∈ text, point.isSurrogate = false

instance (text : Text) : Decidable (Plain text) :=
  inferInstanceAs (Decidable (∀ _ ∈ _, _))

/-- A text is stable when encoding it and decoding the bytes gives the text back. -/
def Stable (text : Text) : Prop :=
  (encode? text).map decode = some text

instance (text : Text) : Decidable (Stable text) :=
  inferInstanceAs (Decidable (_ = _))

end Utf8

end Startup
