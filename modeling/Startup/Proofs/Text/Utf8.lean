import Startup.Text.Utf8
import Mathlib.Data.List.TakeWhile
import Mathlib.Data.List.Infix

/-!
# Reading back what was encoded

`scalar?` reads exactly the sequences that `sequence` writes, so decoding loses no byte: encoding
the text of some bytes gives the bytes back. A text can be encoded when each of its code points can.
-/

namespace Startup.Utf8

theorem ofNat?_toNat (point : CodePoint) : CodePoint.ofNat? point.toNat = some point :=
  dif_pos point.toNat_lt

theorem ofNat?_eq_some {n : Nat} {point : CodePoint} (found : CodePoint.ofNat? n = some point) :
    point.toNat = n := by
  unfold CodePoint.ofNat? at found
  split at found
  · rw [← Option.some.inj found]
  · cases found

theorem scalar?_eq_some_iff_parts {first : UInt8} {rest : Bytes} {point : CodePoint} {tails : Nat} :
    scalar? first rest = some (point, tails) ↔
      ∃ lead, lead? first = some lead ∧ extend? lead.payload lead.tails rest = some point.toNat ∧
        lead.least ≤ point.toNat ∧ point.isSurrogate = false ∧ lead.tails = tails := by
  simp only [scalar?, Option.bind_eq_bind, Option.bind_eq_some_iff, Option.ite_none_right_eq_some,
    Option.some.injEq, Prod.mk.injEq]
  constructor
  · rintro ⟨lead, found, n, extended, other, valid, ⟨least, plain⟩, rfl, same⟩
    have value := ofNat?_eq_some valid
    subst value
    exact ⟨lead, found, extended, least, plain, same⟩
  · rintro ⟨lead, found, extended, least, plain, same⟩
    exact ⟨lead, found, _, extended, point, ofNat?_toNat point, ⟨least, plain⟩, rfl, same⟩

/-- A continuation byte appends its six bits. -/
theorem extend?_ofNat {bits : Nat} (bound : bits < 64) (payload tails : Nat) (rest : Bytes) :
    extend? payload (tails + 1) (UInt8.ofNat (0x80 + bits) :: rest) =
      extend? (payload * 64 + bits) tails rest := by
  have value : (UInt8.ofNat (0x80 + bits)).toNat = 0x80 + bits :=
    UInt8.toNat_ofNat_of_lt' (by show _ < 256; omega)
  rw [extend?, if_pos (by omega), value, Nat.add_sub_cancel_left]

theorem scalar?_of_sequence (point : CodePoint) (plain : point.isSurrogate = false) (more : Bytes) :
    ∃ first rest, sequence point.toNat = first :: rest ∧
      scalar? first (rest ++ more) = some (point, rest.length) := by
  have bound := point.toNat_lt
  simp only [scalar?_eq_some_iff_parts]
  unfold sequence
  split
  next one =>
    refine ⟨_, [], rfl, ⟨point.toNat, 0, 0⟩, ?_, rfl, Nat.zero_le _, plain, rfl⟩
    rw [lead?, UInt8.toNat_ofNat_of_lt' (by show _ < 256; omega)]
    exact if_pos one
  next many =>
  split
  next two =>
    refine ⟨_, [_], rfl, ⟨point.toNat / 64, 1, 0x80⟩, ?_, ?_, by show 128 ≤ _; omega, plain, rfl⟩
    · rw [lead?, UInt8.toNat_ofNat_of_lt' (by show _ < 256; omega)]
      simp only [Nat.add_sub_cancel_left]
      rw [if_neg (by omega), if_pos (by omega)]
    · rw [List.singleton_append, extend?_ofNat (Nat.mod_lt _ (by decide)), extend?]
      congr 1
      dsimp only
      omega
  next many =>
  split
  next three =>
    refine ⟨_, [_, _], rfl, ⟨point.toNat / 4096, 2, 0x800⟩, ?_, ?_, by show 2048 ≤ _; omega, plain,
      rfl⟩
    · rw [lead?, UInt8.toNat_ofNat_of_lt' (by show _ < 256; omega)]
      simp only [Nat.add_sub_cancel_left]
      rw [if_neg (by omega), if_neg (by omega), if_pos (by omega)]
    · rw [List.cons_append, List.singleton_append, extend?_ofNat (Nat.mod_lt _ (by decide)),
        extend?_ofNat (Nat.mod_lt _ (by decide)), extend?]
      congr 1
      dsimp only
      omega
  next four =>
    refine ⟨_, [_, _, _], rfl, ⟨point.toNat / 262144, 3, 0x10000⟩, ?_, ?_, by show 65536 ≤ _; omega,
      plain, rfl⟩
    · rw [lead?, UInt8.toNat_ofNat_of_lt' (by show _ < 256; omega)]
      simp only [Nat.add_sub_cancel_left]
      rw [if_neg (by omega), if_neg (by omega), if_neg (by omega), if_pos (by omega)]
    · rw [List.cons_append, List.cons_append, List.singleton_append,
        extend?_ofNat (Nat.mod_lt _ (by decide)), extend?_ofNat (Nat.mod_lt _ (by decide)),
        extend?_ofNat (Nat.mod_lt _ (by decide)), extend?]
      congr 1
      dsimp only
      omega

theorem eq_ofNat_of_toNat {byte : UInt8} (n : Nat) (value : byte.toNat = n) :
    byte = UInt8.ofNat n := by
  rw [← value, UInt8.ofNat_toNat]

theorem exists_of_extend?_succ {payload tails n : Nat} {bytes : Bytes}
    (extended : extend? payload (tails + 1) bytes = some n) :
    ∃ bits rest, bits < 64 ∧ bytes = UInt8.ofNat (0x80 + bits) :: rest ∧
      extend? (payload * 64 + bits) tails rest = some n := by
  cases bytes with
  | nil => cases extended
  | cons byte rest =>
      rw [extend?] at extended
      split at extended
      next range =>
        refine ⟨byte.toNat - 0x80, rest, by omega, ?_, extended⟩
        exact congrArg (· :: rest) (eq_ofNat_of_toNat _ (by omega))
      next => cases extended

/-- The bytes that are read as a code point are those that are written for it. -/
theorem sequence_of_scalar? {first : UInt8} {rest : Bytes} {point : CodePoint} {tails : Nat}
    (found : scalar? first rest = some (point, tails)) :
    sequence point.toNat = first :: rest.take tails ∧ tails ≤ rest.length := by
  obtain ⟨lead, leading, extended, least, -, rfl⟩ := scalar?_eq_some_iff_parts.mp found
  unfold lead? at leading
  dsimp only at leading
  split at leading
  next one =>
    obtain rfl := Option.some.inj leading
    have value : first.toNat = point.toNat := Option.some.inj extended
    rw [sequence, if_pos (by omega), ← eq_ofNat_of_toNat _ value]
    exact ⟨rfl, Nat.zero_le _⟩
  split at leading
  next two =>
    obtain rfl := Option.some.inj leading
    obtain ⟨a, more, _, rfl, last⟩ := exists_of_extend?_succ extended
    have value : (first.toNat - 0xC0) * 64 + a = point.toNat := Option.some.inj last
    have least : 0x80 ≤ point.toNat := least
    rw [sequence, if_neg (by omega), if_pos (by omega),
      @eq_ofNat_of_toNat first (0xC0 + point.toNat / 64) (by omega),
      show point.toNat % 64 = a by omega]
    exact ⟨rfl, Nat.le_add_left _ _⟩
  split at leading
  next three =>
    obtain rfl := Option.some.inj leading
    obtain ⟨a, _, _, rfl, second⟩ := exists_of_extend?_succ extended
    obtain ⟨b, more, _, rfl, last⟩ := exists_of_extend?_succ second
    have value : ((first.toNat - 0xE0) * 64 + a) * 64 + b = point.toNat := Option.some.inj last
    have least : 0x800 ≤ point.toNat := least
    rw [sequence, if_neg (by omega), if_neg (by omega), if_pos (by omega),
      @eq_ofNat_of_toNat first (0xE0 + point.toNat / 4096) (by omega),
      show point.toNat / 64 % 64 = a by omega, show point.toNat % 64 = b by omega]
    exact ⟨rfl, Nat.le_add_left _ _⟩
  split at leading
  next four =>
    obtain rfl := Option.some.inj leading
    obtain ⟨a, _, _, rfl, second⟩ := exists_of_extend?_succ extended
    obtain ⟨b, _, _, rfl, third⟩ := exists_of_extend?_succ second
    obtain ⟨c, more, _, rfl, last⟩ := exists_of_extend?_succ third
    have value : (((first.toNat - 0xF0) * 64 + a) * 64 + b) * 64 + c = point.toNat :=
      Option.some.inj last
    have least : 0x10000 ≤ point.toNat := least
    rw [sequence, if_neg (by omega), if_neg (by omega), if_neg (by omega),
      @eq_ofNat_of_toNat first (0xF0 + point.toNat / 262144) (by omega),
      show point.toNat / 4096 % 64 = a by omega, show point.toNat / 64 % 64 = b by omega,
      show point.toNat % 64 = c by omega]
    exact ⟨rfl, Nat.le_add_left _ _⟩
  next => cases leading

theorem lt_of_scalar?_eq_none {first : UInt8} {rest : Bytes} (none : scalar? first rest = none) :
    0x80 ≤ first.toNat := by
  by_contra small
  have bound : first.toNat < 0x110000 := by omega
  have plain : (⟨first.toNat, bound⟩ : CodePoint).isSurrogate = false := by
    simp [CodePoint.isSurrogate]
    omega
  have found : scalar? first rest = some (⟨first.toNat, bound⟩, 0) :=
    scalar?_eq_some_iff_parts.mpr
      ⟨⟨first.toNat, 0, 0⟩, if_pos (by omega), rfl, Nat.zero_le _, plain, rfl⟩
  rw [none] at found
  cases found

theorem decodeFrom_eq_decode_drop (skip : Nat) (bytes : Bytes) :
    decodeFrom skip bytes = decode (bytes.drop skip) := by
  induction bytes generalizing skip with
  | nil => cases skip <;> rfl
  | cons first rest ih =>
      cases skip with
      | zero => rfl
      | succ skip => exact ih skip

theorem decode_cons_of_some {first : UInt8} {rest : Bytes} {point : CodePoint} {tails : Nat}
    (found : scalar? first rest = some (point, tails)) :
    decode (first :: rest) = point :: decode (rest.drop tails) := by
  rw [← decodeFrom_eq_decode_drop, decode, decodeFrom, found]

theorem decode_cons_of_none {first : UInt8} {rest : Bytes} (none : scalar? first rest = none) :
    decode (first :: rest) = stray first :: decode rest := by
  rw [decode, decodeFrom, none, decode]

theorem decode_sequence_append {point : CodePoint} (plain : point.isSurrogate = false)
    (more : Bytes) : decode (sequence point.toNat ++ more) = point :: decode more := by
  obtain ⟨first, rest, shape, found⟩ := scalar?_of_sequence point plain more
  rw [shape, List.cons_append, decode_cons_of_some found, List.drop_left]

theorem encodePoint?_of_plain {point : CodePoint} (plain : point.isSurrogate = false) :
    encodePoint? point = some (sequence point.toNat) := by
  rw [encodePoint?, plain]
  rfl

theorem encode?_cons (point : CodePoint) (rest : Text) :
    encode? (point :: rest) =
      (encodePoint? point).bind fun bytes => (encode? rest).map (bytes ++ ·) := by
  rw [encode?]
  cases encodePoint? point <;> cases encode? rest <;> rfl

theorem encode?_append (left right : Text) :
    encode? (left ++ right) =
      (encode? left).bind fun bytes => (encode? right).map (bytes ++ ·) := by
  induction left with
  | nil => simp [encode?]
  | cons point rest ih =>
      rw [List.cons_append, encode?_cons, encode?_cons, ih]
      cases encodePoint? point <;> cases encode? rest <;> cases encode? right <;>
        simp

theorem encode?_append_eq_some_iff {left right : Text} {bytes : Bytes} :
    encode? (left ++ right) = some bytes ↔
      ∃ front back, encode? left = some front ∧ encode? right = some back ∧
        front ++ back = bytes := by
  simp only [encode?_append, Option.bind_eq_some_iff, Option.map_eq_some_iff, exists_and_left]

theorem encodePoint?_stray {byte : UInt8} (high : 0x80 ≤ byte.toNat) :
    (stray byte).isSurrogate = true ∧ strayByte? (stray byte) = some byte := by
  have bound := byte.toNat_lt
  constructor
  · have value : (stray byte).toNat = 0xDC00 + byte.toNat := rfl
    simp only [CodePoint.isSurrogate, Bool.and_eq_true, decide_eq_true_eq]
    omega
  · rw [strayByte?, if_pos (by simp only [stray]; omega)]
    simp [stray]

theorem stray_of_strayByte? {point : CodePoint} {byte : UInt8}
    (found : strayByte? point = some byte) : stray byte = point := by
  unfold strayByte? at found
  split at found
  next range =>
    have value : byte.toNat = point.toNat - 0xDC00 := by
      rw [← Option.some.inj found]
      exact UInt8.toNat_ofNat_of_lt' (by show _ < 256; omega)
    have same : 0xDC00 + byte.toNat = point.toNat := by omega
    cases point
    simpa [stray] using same
  next => cases found

/-- Decoding loses nothing: the bytes come back from their text. -/
theorem encode?_decode (bytes : Bytes) : encode? (decode bytes) = some bytes := by
  induction size : bytes.length using Nat.strong_induction_on generalizing bytes with
  | h n ih =>
      cases bytes with
      | nil => rfl
      | cons first rest =>
          subst size
          cases found : scalar? first rest with
          | none =>
              obtain ⟨surrogate, byte⟩ := encodePoint?_stray (lt_of_scalar?_eq_none found)
              rw [decode_cons_of_none found, encode?_cons, encodePoint?, if_pos surrogate, byte,
                ih rest.length (Nat.lt_succ_self _) rest rfl]
              rfl
          | some result =>
              obtain ⟨point, tails⟩ := result
              obtain ⟨shape, -⟩ := sequence_of_scalar? found
              obtain ⟨_, -, -, -, plain, -⟩ := scalar?_eq_some_iff_parts.mp found
              have smaller : (rest.drop tails).length < (first :: rest).length := by
                rw [List.length_drop, List.length_cons]
                omega
              rw [decode_cons_of_some found, encode?_cons, encodePoint?_of_plain plain,
                ih _ smaller _ rfl, shape]
              simp

/-- A text can be encoded when each of its code points has bytes. -/
def Encodable (text : Text) : Prop :=
  (encode? text).isSome = true

instance (text : Text) : Decidable (Encodable text) :=
  inferInstanceAs (Decidable (_ = _))

theorem encodable_nil : Encodable [] := rfl

theorem encodable_append {left right : Text} :
    Encodable (left ++ right) ↔ Encodable left ∧ Encodable right := by
  unfold Encodable
  rw [encode?_append]
  cases encode? left <;> cases encode? right <;> simp

theorem encodable_cons_of_plain {point : CodePoint} (plain : point.isSurrogate = false)
    {rest : Text} : Encodable (point :: rest) ↔ Encodable rest := by
  unfold Encodable
  rw [encode?_cons, encodePoint?_of_plain plain]
  cases encode? rest <;> simp

theorem encodable_iff_forall {text : Text} :
    Encodable text ↔ ∀ point ∈ text, (encodePoint? point).isSome = true := by
  induction text with
  | nil => simp [encodable_nil]
  | cons point rest ih =>
      rw [List.forall_mem_cons, ← ih, Encodable, Encodable, encode?_cons]
      cases encodePoint? point <;> simp

theorem firstRefused?_eq_none_iff {refused : CodePoint → Bool} {text : Text} :
    firstRefused? refused text = none ↔ ∀ point ∈ text, refused point = false := by
  have rest : text.drop (text.takeWhile fun point => !refused point).length =
      text.dropWhile fun point => !refused point := by
    have parts := @List.drop_left _ (text.takeWhile fun point => !refused point)
      (text.dropWhile fun point => !refused point)
    rwa [List.takeWhile_append_dropWhile] at parts
  have none_iff : firstRefused? refused text = none ↔
      (text.dropWhile fun point => !refused point) = [] := by
    unfold firstRefused?
    simp only [rest]
    cases text.dropWhile fun point => !refused point <;> simp
  rw [none_iff, List.dropWhile_eq_nil_iff]
  simp

theorem unencodable?_eq_none_iff {text : Text} : unencodable? text = none ↔ Encodable text := by
  rw [unencodable?, firstRefused?_eq_none_iff, encodable_iff_forall]
  simp [Option.isSome_iff_ne_none]

end Startup.Utf8
