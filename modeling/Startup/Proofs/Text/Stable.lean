import Startup.Proofs.Text.Utf8

/-!
# Texts that survive encoding

Encoding a text without surrogates loses no code point. A surrogate comes back as long as the bytes
after it do not complete its byte to a sequence. Hence every part of a stable text is stable, and a
code point that is no surrogate keeps the texts around it apart.
-/

namespace Startup.Utf8

theorem stable_iff_exists {text : Text} :
    Stable text ↔ ∃ bytes, encode? text = some bytes ∧ decode bytes = text :=
  Option.map_eq_some_iff

theorem stable_decode (bytes : Bytes) : Stable (decode bytes) :=
  stable_iff_exists.mpr ⟨bytes, encode?_decode bytes, rfl⟩

theorem Stable.encodable {text : Text} (stable : Stable text) : Encodable text := by
  obtain ⟨bytes, encoded, -⟩ := stable_iff_exists.mp stable
  rw [Encodable, encoded, Option.isSome_some]

theorem stable_nil : Stable [] := rfl

theorem stable_cons_of_plain {point : CodePoint} (plain : point.isSurrogate = false)
    {rest : Text} : Stable (point :: rest) ↔ Stable rest := by
  rw [Stable, Stable, encode?_cons, encodePoint?_of_plain plain]
  cases encode? rest with
  | none => simp
  | some bytes => simp [decode_sequence_append plain]

/-- A surrogate comes back when the bytes after its own one do not complete a sequence. -/
theorem stable_cons_of_surrogate {point : CodePoint} (surrogate : point.isSurrogate = true)
    {rest : Text} :
    Stable (point :: rest) ↔
      Stable rest ∧ ∃ byte bytes, strayByte? point = some byte ∧ encode? rest = some bytes ∧
        scalar? byte bytes = none := by
  have encoding : encodePoint? point = (strayByte? point).map ([·]) := if_pos surrogate
  constructor
  · intro stable
    obtain ⟨whole, encoded, decoded⟩ := stable_iff_exists.mp stable
    rw [encode?_cons, encoding] at encoded
    simp only [Option.bind_eq_some_iff, Option.map_eq_some_iff] at encoded
    obtain ⟨_, ⟨byte, own, rfl⟩, bytes, after, rfl⟩ := encoded
    rw [List.singleton_append] at decoded
    cases found : scalar? byte bytes with
    | some result =>
        obtain ⟨_, _, _, _, plain, _⟩ := scalar?_eq_some_iff_parts.mp found
        rw [decode_cons_of_some found] at decoded
        rw [(List.cons.inj decoded).1, surrogate] at plain
        cases plain
    | none =>
        rw [decode_cons_of_none found] at decoded
        exact ⟨stable_iff_exists.mpr ⟨bytes, after, (List.cons.inj decoded).2⟩, byte, bytes, own,
          after, found⟩
  · rintro ⟨stable, byte, bytes, own, after, none⟩
    obtain ⟨same, encoded, decoded⟩ := stable_iff_exists.mp stable
    rw [after] at encoded
    obtain rfl := Option.some.inj encoded
    refine stable_iff_exists.mpr ⟨byte :: bytes, ?_, ?_⟩
    · rw [encode?_cons, encoding, own, after]
      rfl
    · rw [decode_cons_of_none none, stray_of_strayByte? own, decoded]

theorem Stable.of_cons {point : CodePoint} {rest : Text} (stable : Stable (point :: rest)) :
    Stable rest := by
  cases kind : point.isSurrogate with
  | false => exact (stable_cons_of_plain kind).mp stable
  | true => exact ((stable_cons_of_surrogate kind).mp stable).1

theorem Stable.of_append_right {left right : Text} (stable : Stable (left ++ right)) :
    Stable right := by
  induction left with
  | nil => exact stable
  | cons point rest ih => exact ih stable.of_cons

/-- Bytes after a sequence do not keep it from being read. -/
theorem scalar?_append {first : UInt8} {rest : Bytes} {point : CodePoint} {tails : Nat}
    (found : scalar? first rest = some (point, tails)) (more : Bytes) :
    scalar? first (rest ++ more) = some (point, tails) := by
  obtain ⟨shape, enough⟩ := sequence_of_scalar? found
  obtain ⟨_, _, _, _, plain, _⟩ := scalar?_eq_some_iff_parts.mp found
  obtain ⟨start, others, parts, read⟩ := scalar?_of_sequence point plain (rest.drop tails ++ more)
  rw [shape] at parts
  obtain ⟨rfl, rfl⟩ := List.cons.inj parts
  rwa [← List.append_assoc, List.take_append_drop, List.length_take, Nat.min_eq_left enough] at read

theorem Stable.of_append_left {left right : Text} (stable : Stable (left ++ right)) :
    Stable left := by
  induction left with
  | nil => exact stable_nil
  | cons point rest ih =>
      rw [List.cons_append] at stable
      cases kind : point.isSurrogate with
      | false => exact (stable_cons_of_plain kind).mpr (ih stable.of_cons)
      | true =>
          obtain ⟨tail, byte, bytes, own, after, none⟩ := (stable_cons_of_surrogate kind).mp stable
          obtain ⟨front, back, encoded, -, rfl⟩ := encode?_append_eq_some_iff.mp after
          refine (stable_cons_of_surrogate kind).mpr ⟨ih tail, byte, front, own, encoded, ?_⟩
          cases found : scalar? byte front with
          | none => rfl
          | some result => rw [scalar?_append found] at none; cases none

/-- Every part of a stable text is stable. -/
theorem Stable.of_isInfix {part whole : Text} (stable : Stable whole) (within : part <:+: whole) :
    Stable part := by
  obtain ⟨before, after, rfl⟩ := within
  exact stable.of_append_left.of_append_right

/-- Bytes that continue every sequence alike. -/
def ContinueAlike (left right : Bytes) : Prop :=
  ∀ payload tails, extend? payload tails left = extend? payload tails right

theorem ContinueAlike.append {left right : Bytes} (alike : ContinueAlike left right)
    (front : Bytes) : ContinueAlike (front ++ left) (front ++ right) := by
  induction front with
  | nil => exact alike
  | cons byte rest ih =>
      intro payload tails
      cases tails with
      | zero => rfl
      | succ tails => rw [List.cons_append, List.cons_append, extend?, extend?, ih]

theorem ContinueAlike.scalar? {left right : Bytes} (alike : ContinueAlike left right)
    (first : UInt8) : scalar? first left = Utf8.scalar? first right := by
  simp only [Utf8.scalar?, alike _ _]

/-- The bytes of a code point that is no surrogate continue no sequence. -/
theorem continueAlike_sequence {point : CodePoint} (plain : point.isSurrogate = false)
    (more : Bytes) : ContinueAlike [] (sequence point.toNat ++ more) := by
  obtain ⟨first, rest, shape, found⟩ := scalar?_of_sequence point plain more
  obtain ⟨lead, leading, -⟩ := scalar?_eq_some_iff_parts.mp found
  have outside : ¬(0x80 ≤ first.toNat ∧ first.toNat < 0xC0) := by
    intro inside
    rw [lead?] at leading
    rw [if_neg (by omega), if_neg (by omega), if_neg (by omega), if_neg (by omega)] at leading
    cases leading
  intro payload tails
  cases tails with
  | zero => rw [extend?, extend?]
  | succ tails => rw [shape, List.cons_append, extend?, extend?, if_neg outside]

/-- Texts are alike when they can be encoded together, are stable together, and their bytes continue
every sequence alike. -/
structure Alike (left right : Text) : Prop where
  encodable_iff : Encodable left ↔ Encodable right
  stable_iff : Stable left ↔ Stable right
  continueAlike : ∀ {front back}, encode? left = some front → encode? right = some back →
    ContinueAlike front back

theorem Alike.symm {left right : Text} (alike : Alike left right) : Alike right left :=
  ⟨alike.encodable_iff.symm, alike.stable_iff.symm,
    fun front back payload tails => (alike.continueAlike back front payload tails).symm⟩

theorem alike_nil : Alike [] [] := by
  refine ⟨Iff.rfl, Iff.rfl, fun front back => ?_⟩
  rw [Option.some.inj front.symm, Option.some.inj back.symm]
  exact fun _ _ => rfl

/-- Texts that begin with code points that are no surrogates are alike already when their rests can
be encoded together and are stable together. -/
theorem alike_cons_of_plain {first second : CodePoint} (plain : first.isSurrogate = false)
    (plain' : second.isSurrogate = false) {left right : Text}
    (encodable : Encodable left ↔ Encodable right) (stable : Stable left ↔ Stable right) :
    Alike (first :: left) (second :: right) := by
  refine ⟨?_, ?_, fun {front back} encoded encoded' payload tails => ?_⟩
  · rwa [encodable_cons_of_plain plain, encodable_cons_of_plain plain']
  · rwa [stable_cons_of_plain plain, stable_cons_of_plain plain']
  · rw [encode?_cons, encodePoint?_of_plain plain, Option.bind_some] at encoded
    rw [encode?_cons, encodePoint?_of_plain plain', Option.bind_some] at encoded'
    obtain ⟨more, -, rfl⟩ := Option.map_eq_some_iff.mp encoded
    obtain ⟨more', -, rfl⟩ := Option.map_eq_some_iff.mp encoded'
    rw [← continueAlike_sequence plain more, ← continueAlike_sequence plain' more']

theorem Alike.cons (point : CodePoint) {left right : Text} (alike : Alike left right) :
    Alike (point :: left) (point :: right) := by
  cases kind : point.isSurrogate with
  | false => exact alike_cons_of_plain kind kind alike.encodable_iff alike.stable_iff
  | true =>
      have transfer : ∀ {left right : Text}, Alike left right →
          Stable (point :: left) → Stable (point :: right) := by
        intro left right alike stable
        obtain ⟨tail, byte, bytes, own, after, none⟩ := (stable_cons_of_surrogate kind).mp stable
        obtain ⟨bytes', after', -⟩ := stable_iff_exists.mp (alike.stable_iff.mp tail)
        refine (stable_cons_of_surrogate kind).mpr
          ⟨alike.stable_iff.mp tail, byte, bytes', own, after', ?_⟩
        rw [← (alike.continueAlike after after').scalar?, none]
      refine ⟨?_, ⟨transfer alike, transfer alike.symm⟩, fun {front back} encoded encoded' => ?_⟩
      · rw [← List.singleton_append, ← List.singleton_append (l := right), encodable_append,
          encodable_append, alike.encodable_iff]
      · rw [encode?_cons] at encoded encoded'
        simp only [Option.bind_eq_some_iff, Option.map_eq_some_iff] at encoded encoded'
        obtain ⟨own, found, more, after, rfl⟩ := encoded
        obtain ⟨own', found', more', after', rfl⟩ := encoded'
        rw [found] at found'
        rw [← Option.some.inj found']
        exact (alike.continueAlike after after').append own

/-- A code point that is no surrogate keeps the texts around it apart. -/
theorem stable_append_cons {point : CodePoint} (plain : point.isSurrogate = false)
    {left right : Text} : Stable (left ++ point :: right) ↔ Stable left ∧ Stable right := by
  constructor
  · intro stable
    exact ⟨stable.of_append_left, stable.of_append_right.of_cons⟩
  · rintro ⟨before, after⟩
    induction left with
    | nil => exact (stable_cons_of_plain plain).mpr after
    | cons first rest ih =>
        rw [List.cons_append]
        cases kind : first.isSurrogate with
        | false => exact (stable_cons_of_plain kind).mpr (ih before.of_cons)
        | true =>
            obtain ⟨tail, byte, front, own, encoded, none⟩ :=
              (stable_cons_of_surrogate kind).mp before
            obtain ⟨back, encoded', -⟩ := stable_iff_exists.mp after
            refine (stable_cons_of_surrogate kind).mpr
              ⟨ih tail, byte, front ++ (sequence point.toNat ++ back), own, ?_, ?_⟩
            · rw [encode?_append, encode?_cons, encoded, encoded', encodePoint?_of_plain plain]
              rfl
            · rw [← ((continueAlike_sequence plain back).append front).scalar?, List.append_nil, none]

/-- The bytes of a code point that is no surrogate keep the bytes around them apart. -/
theorem decode_append_sequence {point : CodePoint} (plain : point.isSurrogate = false)
    (left right : Bytes) :
    decode (left ++ (sequence point.toNat ++ right)) = decode left ++ point :: decode right := by
  have stable : Stable (decode left ++ point :: decode right) :=
    (stable_append_cons plain).mpr ⟨stable_decode left, stable_decode right⟩
  rw [Stable, encode?_append, encode?_cons, encode?_decode, encode?_decode,
    encodePoint?_of_plain plain] at stable
  exact Option.some.inj stable

end Startup.Utf8
