import Startup.Proofs.Text.Pieces
import Startup.Proofs.Text.Stable
import Startup.Proofs.Text.Trimming

/-!
# Separators among bytes

The byte of an ASCII code point never belongs to a longer sequence, however damaged the bytes around
it are. So what is done to the text of some bytes at an ASCII code point, splitting it, cutting it or
trimming it, may as well be done to the bytes at the byte of that code point.
-/

namespace Startup

def CodePoint.Ascii (point : CodePoint) : Prop :=
  point.toNat < 0x80

instance (point : CodePoint) : Decidable point.Ascii :=
  inferInstanceAs (Decidable (_ < _))

def CodePoint.byte (point : CodePoint) : UInt8 :=
  UInt8.ofNat point.toNat

namespace Utf8

section Ascii

variable {point : CodePoint} (ascii : point.Ascii)

include ascii

theorem plain_of_ascii : point.isSurrogate = false := by
  have small : point.toNat < 0x80 := ascii
  simp only [CodePoint.isSurrogate, Bool.and_eq_false_iff, decide_eq_false_iff_not]
  omega

theorem sequence_of_ascii : sequence point.toNat = [point.byte] :=
  if_pos ascii

theorem decode_append_cons (left right : Bytes) :
    decode (left ++ point.byte :: right) = decode left ++ point :: decode right := by
  have parts := decode_append_sequence (plain_of_ascii ascii) left right
  rwa [sequence_of_ascii ascii, List.singleton_append] at parts

/-- Where an ASCII code point stands in a text, its byte stands in the bytes. -/
theorem exists_of_decode_eq {bytes : Bytes} {left right : Text}
    (decoded : decode bytes = left ++ point :: right) :
    ∃ front back, bytes = front ++ point.byte :: back ∧ decode front = left ∧
      decode back = right := by
  have stable := stable_decode bytes
  have encoded := encode?_decode bytes
  rw [decoded] at stable encoded
  obtain ⟨before, after⟩ := (stable_append_cons (plain_of_ascii ascii)).mp stable
  obtain ⟨front, encodedFront, decodedFront⟩ := stable_iff_exists.mp before
  obtain ⟨back, encodedBack, decodedBack⟩ := stable_iff_exists.mp after
  refine ⟨front, back, ?_, decodedFront, decodedBack⟩
  rw [encode?_append, encode?_cons, encodePoint?_of_plain (plain_of_ascii ascii), encodedFront,
    encodedBack, sequence_of_ascii ascii] at encoded
  exact (Option.some.inj encoded).symm

theorem mem_decode_iff {bytes : Bytes} : point ∈ decode bytes ↔ point.byte ∈ bytes := by
  constructor
  · intro member
    obtain ⟨left, right, decoded⟩ := List.append_of_mem member
    obtain ⟨front, back, rfl, -, -⟩ := exists_of_decode_eq ascii decoded
    exact List.mem_append_right front List.mem_cons_self
  · intro member
    obtain ⟨front, back, rfl⟩ := List.append_of_mem member
    rw [decode_append_cons ascii]
    exact List.mem_append_right (decode front) List.mem_cons_self

end Ascii

theorem decode_eq_nil_iff {bytes : Bytes} : decode bytes = [] ↔ bytes = [] := by
  constructor
  · intro empty
    have encoded := encode?_decode bytes
    rw [empty] at encoded
    exact (Option.some.inj encoded).symm
  · rintro rfl
    rfl

section Ends

variable {point : CodePoint} (ascii : point.Ascii)

include ascii

theorem head?_decode_iff {bytes : Bytes} :
    (decode bytes).head? = some point ↔ bytes.head? = some point.byte := by
  simp only [List.head?_eq_some_iff]
  constructor
  · rintro ⟨rest, decoded⟩
    rw [← List.nil_append (point :: rest)] at decoded
    obtain ⟨front, back, rfl, empty, -⟩ := exists_of_decode_eq ascii decoded
    rw [decode_eq_nil_iff.mp empty]
    exact ⟨back, rfl⟩
  · rintro ⟨back, rfl⟩
    exact ⟨decode back, decode_append_cons ascii [] back⟩

theorem getLast?_decode_iff {bytes : Bytes} :
    (decode bytes).getLast? = some point ↔ bytes.getLast? = some point.byte := by
  simp only [List.getLast?_eq_some_iff]
  constructor
  · rintro ⟨init, decoded⟩
    obtain ⟨front, back, rfl, -, empty⟩ := exists_of_decode_eq ascii decoded
    rw [decode_eq_nil_iff.mp empty]
    exact ⟨front, rfl⟩
  · rintro ⟨front, rfl⟩
    exact ⟨decode front, decode_append_cons ascii front []⟩

end Ends

end Utf8

namespace Bytes

/-- The bytes without one final `byte`, if they end in one. -/
def dropFinal (byte : UInt8) (bytes : Bytes) : Bytes :=
  if bytes.getLast? = some byte then bytes.dropLast else bytes

def behind (byte : UInt8) (bytes : Bytes) : Bytes :=
  (bytes.dropWhile (· != byte)).tail

/-- Whether a byte is a space or a tab. -/
def isBlank (byte : UInt8) : Bool :=
  byte == 32 || byte == 9

def trim (bytes : Bytes) : Bytes :=
  (bytes.dropWhile isBlank).rdropWhile isBlank

theorem behind_append_cons {byte : UInt8} {front : Bytes} (free : byte ∉ front) (back : Bytes) :
    behind byte (front ++ byte :: back) = back := by
  have dropped : ∀ other ∈ front, (other != byte) = true := by
    intro other member
    rw [bne_iff_ne]
    rintro rfl
    exact free member
  rw [behind, List.dropWhile_append_of_pos dropped, List.dropWhile_cons_of_neg (by simp)]
  rfl

theorem exists_of_isBlank {byte : UInt8} (blank : isBlank byte = true) :
    ∃ point : CodePoint, point.Ascii ∧ point.isBlank = true ∧ point.byte = byte := by
  simp only [isBlank, Bool.or_eq_true, beq_iff_eq] at blank
  rcases blank with rfl | rfl
  · exact ⟨' ', by decide, rfl, rfl⟩
  · exact ⟨'\t', by decide, rfl, rfl⟩

end Bytes

theorem CodePoint.isBlank_cases {point : CodePoint} (blank : point.isBlank = true) :
    point.Ascii ∧ Bytes.isBlank point.byte = true := by
  simp only [CodePoint.isBlank, Bool.or_eq_true, beq_iff_eq] at blank
  rcases blank with rfl | rfl
  · exact ⟨by decide, rfl⟩
  · exact ⟨by decide, rfl⟩

namespace Utf8

theorem decode_dropFinal {point : CodePoint} (ascii : point.Ascii) (bytes : Bytes) :
    decode (Bytes.dropFinal point.byte bytes) = Text.dropFinal point (decode bytes) := by
  rw [Bytes.dropFinal, Text.dropFinal]
  by_cases last : bytes.getLast? = some point.byte
  · rw [if_pos last, if_pos ((getLast?_decode_iff ascii).mpr last)]
    obtain ⟨front, rfl⟩ := List.getLast?_eq_some_iff.mp last
    rw [decode_append_cons ascii, List.dropLast_concat]
    exact List.dropLast_concat.symm
  · rw [if_neg last, if_neg (mt (getLast?_decode_iff ascii).mp last)]

/-- Bytes that begin with no blank have a text that begins with none. -/
theorem beginsWith_isBlank_decode {byte : UInt8} (kept : Bytes.isBlank byte = false)
    (rest : Bytes) : Text.beginsWith CodePoint.isBlank (decode (byte :: rest)) = false := by
  cases decoded : decode (byte :: rest) with
  | nil => rfl
  | cons point others =>
      rw [Text.beginsWith_cons, Bool.eq_false_iff]
      intro blank
      obtain ⟨ascii, blankByte⟩ := CodePoint.isBlank_cases blank
      have first : (byte :: rest).head? = some point.byte := by
        rw [← head?_decode_iff ascii, decoded, List.head?_cons]
      rw [Option.some.inj first, blankByte] at kept
      cases kept

theorem endsWith_isBlank_decode {byte : UInt8} (kept : Bytes.isBlank byte = false)
    (init : Bytes) : Text.endsWith CodePoint.isBlank (decode (init ++ [byte])) = false := by
  rcases List.eq_nil_or_concat' (decode (init ++ [byte])) with decoded | ⟨others, point, decoded⟩
  · rw [decoded]
    rfl
  · rw [decoded, Text.endsWith_concat, Bool.eq_false_iff]
    intro blank
    obtain ⟨ascii, blankByte⟩ := CodePoint.isBlank_cases blank
    have last : (init ++ [byte]).getLast? = some point.byte := by
      rw [← getLast?_decode_iff ascii, decoded, List.getLast?_concat]
    rw [List.getLast?_concat] at last
    rw [Option.some.inj last, blankByte] at kept
    cases kept

theorem decode_dropWhile (bytes : Bytes) :
    decode (bytes.dropWhile Bytes.isBlank) = (decode bytes).dropWhile CodePoint.isBlank := by
  induction bytes with
  | nil => rfl
  | cons byte rest ih =>
      cases kept : Bytes.isBlank byte with
      | true =>
          obtain ⟨point, ascii, blank, rfl⟩ := Bytes.exists_of_isBlank kept
          have whole : decode (point.byte :: rest) = point :: decode rest :=
            decode_append_cons ascii [] rest
          rw [List.dropWhile_cons_of_pos kept, whole, List.dropWhile_cons_of_pos blank, ih]
      | false =>
          have first := beginsWith_isBlank_decode kept rest
          rw [List.dropWhile_cons_of_neg (by simp [kept])]
          cases decoded : decode (byte :: rest) with
          | nil => rfl
          | cons point others =>
              rw [decoded, Text.beginsWith_cons] at first
              rw [List.dropWhile_cons_of_neg (by simp [first])]

theorem decode_rdropWhile (bytes : Bytes) :
    decode (bytes.rdropWhile Bytes.isBlank) = Text.trimEnd CodePoint.isBlank (decode bytes) := by
  rw [Text.trimEnd_eq_rdropWhile]
  induction bytes using List.reverseRecOn with
  | nil => rfl
  | append_singleton init byte ih =>
      cases kept : Bytes.isBlank byte with
      | true =>
          obtain ⟨point, ascii, blank, rfl⟩ := Bytes.exists_of_isBlank kept
          have whole : decode (init ++ [point.byte]) = decode init ++ [point] :=
            decode_append_cons ascii init []
          rw [List.rdropWhile_concat_pos _ _ _ kept, whole, List.rdropWhile_concat_pos _ _ _ blank,
            ih]
      | false =>
          have last := endsWith_isBlank_decode kept init
          rw [List.rdropWhile_concat_neg _ _ _ (by simp [kept])]
          rcases List.eq_nil_or_concat' (decode (init ++ [byte])) with
            decoded | ⟨others, point, decoded⟩
          · rw [decoded]
            rfl
          · rw [decoded, Text.endsWith_concat] at last
            rw [decoded, List.rdropWhile_concat_neg _ _ _ (by simp [last])]

/-- Bytes may be trimmed in place of their text. -/
theorem decode_trim (bytes : Bytes) : decode (Bytes.trim bytes) = Text.trimBlanks (decode bytes) := by
  rw [Bytes.trim, decode_rdropWhile, decode_dropWhile, Text.trimBlanks, Text.trim]

/-- Bytes may be cut at a byte in place of their text at its code point. -/
theorem decode_behind {point : CodePoint} (ascii : point.Ascii) {bytes : Bytes} {left right : Text}
    (cut : Text.cut? point (decode bytes) = some (left, right)) :
    decode (Bytes.behind point.byte bytes) = right := by
  obtain ⟨whole, free⟩ := Text.cut?_eq_some_iff.mp cut
  obtain ⟨front, back, rfl, rfl, rfl⟩ := exists_of_decode_eq ascii whole
  rw [Bytes.behind_append_cons (mt (mem_decode_iff ascii).mpr free)]

/-- Bytes may be split at a byte in place of their text at its code point. -/
theorem split_decode {point : CodePoint} (ascii : point.Ascii) (bytes : Bytes) :
    Text.split point (decode bytes) = (bytes.splitOn point.byte).map decode := by
  by_cases inside : point.byte ∈ bytes
  · obtain ⟨front, back, parts⟩ := List.append_of_mem inside
    have size : bytes.length = front.length + (back.length + 1) := by
      rw [parts, List.length_append, List.length_cons]
    rw [parts, decode_append_cons ascii, Text.split_append_cons, split_decode ascii front,
      split_decode ascii back, List.splitOn_append_cons_self, List.map_append]
  · have absent : point ∉ decode bytes := mt (mem_decode_iff ascii).mp inside
    rw [Text.split_eq_splitOn, List.splitOn_eq_singleton absent, List.splitOn_eq_singleton inside,
      List.map_singleton]
termination_by bytes.length
decreasing_by all_goals omega

end Utf8

end Startup
