import Startup.Application.Options
import Startup.Proofs.Number.Integer
import Startup.Settings.Typed

/-!
# Integers as settings and options read and write them

The convertor of integers reads what denotes a number and falls back to a default value for anything
else. Settings, options and the test of ports read in the same way.

Many texts denote the same number. The one that is written for it has no blanks, no plus sign, no
zero in front of other digits, and no minus sign in front of zero alone.
-/

namespace Startup

namespace CodePoint

theorem eq_of_toNat {point other : CodePoint} (same : point.toNat = other.toNat) :
    point = other := by
  cases point
  cases other
  cases same
  rfl

end CodePoint

namespace Text

theorem ofNat_digit {point : CodePoint} (digit : point.isDigit = true) :
    ofNat (point.toNat - 48) = [point] := by
  rw [CodePoint.isDigit_iff] at digit
  have small : point.toNat - 48 < 10 := by omega
  have same : CodePoint.ofChar (Nat.digitChar (point.toNat - 48)) = point := by
    apply CodePoint.eq_of_toNat
    change (Nat.digitChar (point.toNat - 48)).toNat = point.toNat
    rw [Nat.toNat_digitChar_of_lt_ten small]
    omega
  rw [ofNat, Nat.toDigits_of_lt_base small, List.map_singleton, same]

/-- The number that some digits make behind those of another number. -/
def digitsBehind (front : Nat) (digits : Text) : Nat :=
  digits.foldl (fun value digit => 10 * value + (digit.toNat - 48)) front

theorem digitsBehind_cons (front : Nat) (point : CodePoint) (rest : Text) :
    digitsBehind front (point :: rest) = digitsBehind (10 * front + (point.toNat - 48)) rest := by
  rw [digitsBehind, List.foldl_cons, digitsBehind]

theorem digitsValue_eq_digitsBehind (digits : Text) :
    digits.digitsValue = digitsBehind 0 digits := rfl

theorem ofNat_append_digit {front digit : Nat} (positive : 0 < front) (small : digit < 10) :
    ofNat front ++ ofNat digit = ofNat (10 * front + digit) := by
  rw [ofNat, ofNat, ← List.map_append,
    Nat.toDigits_append_toDigits (by decide) positive small, ofNat]

/-- Digits behind a number that is not zero go on writing it. -/
theorem ofNat_append {front : Nat} (positive : 0 < front) {digits : Text}
    (all : ∀ point ∈ digits, point.isDigit = true) :
    ofNat front ++ digits = ofNat (digitsBehind front digits) := by
  induction digits generalizing front with
  | nil => exact List.append_nil _
  | cons point rest ih =>
      rw [List.forall_mem_cons] at all
      have digit := CodePoint.isDigit_iff.mp all.1
      rw [digitsBehind_cons, ← ih (by omega) all.2, ← ofNat_append_digit positive (by omega),
        ofNat_digit all.1, List.append_assoc, List.singleton_append]

/-- Digits that begin with no zero are those that are written for their value. -/
theorem ofNat_digitsValue {first : CodePoint} {rest : Text} (other : first ≠ '0')
    (all : ∀ point ∈ first :: rest, point.isDigit = true) :
    ofNat (digitsValue (first :: rest)) = first :: rest := by
  rw [List.forall_mem_cons] at all
  have digit := CodePoint.isDigit_iff.mp all.1
  have different : first.toNat ≠ 48 := fun same => other (CodePoint.eq_of_toNat same)
  rw [digitsValue_eq_digitsBehind, digitsBehind_cons, Nat.mul_zero, Nat.zero_add,
    ← ofNat_append (by omega) all.2, ofNat_digit all.1, List.singleton_append]

/-- Digits behind a number make it greater by their places at most. -/
theorem digitsBehind_lt {digits : Text} (all : ∀ point ∈ digits, point.isDigit = true)
    (front : Nat) : digitsBehind front digits < (front + 1) * 10 ^ digits.length := by
  induction digits generalizing front with
  | nil =>
      rw [List.length_nil, Nat.pow_zero, Nat.mul_one]
      exact Nat.lt_succ_self front
  | cons point rest ih =>
      rw [List.forall_mem_cons] at all
      have digit := CodePoint.isDigit_iff.mp all.1
      calc digitsBehind front (point :: rest)
          < (10 * front + (point.toNat - 48) + 1) * 10 ^ rest.length := ih all.2 _
        _ ≤ (front + 1) * 10 * 10 ^ rest.length := Nat.mul_le_mul_right _ (by omega)
        _ = (front + 1) * 10 ^ (point :: rest).length := by
            rw [List.length_cons, Nat.pow_succ', Nat.mul_assoc]

theorem digitsValue_lt {digits : Text} (all : ∀ point ∈ digits, point.isDigit = true) :
    digits.digitsValue < 10 ^ digits.length := by
  have bound := digitsBehind_lt all 0
  rwa [Nat.zero_add, Nat.one_mul] at bound

theorem head?_ofNat_ne {n : Nat} (positive : 0 < n) :
    (ofNat n).head? ≠ some (CodePoint.ofChar '0') := by
  induction n using Nat.strong_induction_on with
  | h n ih =>
      by_cases small : n < 10
      · intro zero
        rw [ofNat, Nat.toDigits_of_lt_base small, List.map_singleton, List.head?_cons,
          Option.some.injEq] at zero
        have number : (Nat.digitChar n).toNat = 48 := congrArg CodePoint.toNat zero
        rw [Nat.toNat_digitChar_of_lt_ten small] at number
        omega
      · have parts := ofNat_append_digit (by omega : 0 < n / 10) (Nat.mod_lt n (by decide : 0 < 10))
        rw [Nat.div_add_mod] at parts
        rw [← parts, List.head?_append_of_ne_nil _ (ofNat_ne_nil _)]
        exact ih (n / 10) (by omega) (by omega)

/-- A number that begins with a zero is zero. -/
theorem eq_nil_of_ofNat_eq {n : Nat} {rest : Text} (zero : ofNat n = CodePoint.ofChar '0' :: rest) :
    rest = [] := by
  rcases Nat.eq_zero_or_pos n with rfl | positive
  · exact (List.cons.inj zero).2.symm
  · exact absurd (congrArg List.head? zero) (head?_ofNat_ne positive)

theorem notMem_ofNat (n : Nat) {point : CodePoint} (other : point.isDigit = false) :
    point ∉ ofNat n :=
  fun member => absurd (isDigit_of_mem_ofNat member) (Bool.eq_false_iff.mp other)

end Text

namespace Integer

structure Canonical (text : Text) : Prop where
  blanks : ∀ point ∈ text, point.isBlank = false
  plus : CodePoint.ofChar '+' ∉ text
  leading : ∀ (sign : Sign) (rest : Text),
    text = sign.text ++ CodePoint.ofChar '0' :: rest → rest = []
  minusZero : text ≠ "-0"

theorem small_of_write? {n : Int} {text : Text} (written : write? n = some text) :
    n.natAbs < 10 ^ digitLimit := by
  unfold write? at written
  simp only [Option.ite_none_right_eq_some] at written
  exact (Text.length_ofNat_le_iff (by decide)).mp written.1

theorem canonical_of_write? {n : Int} {text : Text} (written : write? n = some text) :
    Canonical text := by
  rw [write?_of_small (small_of_write? written), Option.some.injEq] at written
  have noMinus : CodePoint.ofChar '-' ∉ Text.ofNat n.natAbs := Text.notMem_ofNat _ rfl
  have noPlus : CodePoint.ofChar '+' ∉ Text.ofNat n.natAbs := Text.notMem_ofNat _ rfl
  have noBlank : ∀ point ∈ Text.ofNat n.natAbs, point.isBlank = false := fun _ member =>
    CodePoint.isBlank_of_isDigit (Text.isDigit_of_mem_ofNat member)
  -- The number is negative, and a minus sign stands in front of its digits, or they stand alone.
  by_cases negative : n < 0
  · rw [Sign.ofInt, if_pos negative] at written
    obtain rfl : CodePoint.ofChar '-' :: Text.ofNat n.natAbs = text := written
    refine ⟨List.forall_mem_cons.mpr ⟨rfl, noBlank⟩, ?_, ?_, ?_⟩
    · rw [List.mem_cons, not_or]
      exact ⟨by decide, noPlus⟩
    · intro sign rest whole
      cases sign with
      | none => exact absurd (List.cons.inj whole).1 (by decide)
      | plus => exact absurd (List.cons.inj whole).1 (by decide)
      | minus => exact Text.eq_nil_of_ofNat_eq (List.cons.inj whole).2
    · intro whole
      have zero := congrArg Text.digitsValue (List.cons.inj whole).2
      rw [Text.digitsValue_ofNat] at zero
      have nothing : n.natAbs = 0 := zero
      omega
  · rw [Sign.ofInt, if_neg negative] at written
    obtain rfl : Text.ofNat n.natAbs = text := written
    refine ⟨noBlank, noPlus, ?_, ?_⟩
    · intro sign rest whole
      cases sign with
      | none => exact Text.eq_nil_of_ofNat_eq whole
      | plus => exact absurd (whole ▸ List.mem_cons_self) noPlus
      | minus => exact absurd (whole ▸ List.mem_cons_self) noMinus
    · intro whole
      exact noMinus (whole ▸ List.mem_cons_self)

theorem natAbs_lt_of_digits {digits : Text} (sign : Sign) (run : Digits digits) :
    (signed sign.isNegative digits.digitsValue).natAbs < 10 ^ digitLimit := by
  rw [natAbs_signed]
  exact (Text.digitsValue_lt run.all).trans_le (Nat.pow_le_pow_right (by decide) run.short)

theorem Denotes.natAbs_lt {text : Text} {n : Int} (denotes : Denotes text n) :
    n.natAbs < 10 ^ digitLimit := by
  obtain ⟨sign, -, -, run⟩ := denotes
  exact natAbs_lt_of_digits sign run

theorem Sign.ofInt_signed {sign : Sign} (other : sign ≠ .plus) {size : Nat} (positive : 0 < size) :
    ofInt (signed sign.isNegative size) = sign := by
  cases sign with
  | none => exact if_neg (Int.not_lt.mpr (Int.natCast_nonneg size))
  | plus => exact absurd rfl other
  | minus =>
      have negative : -(size : Int) < 0 := by omega
      exact if_pos negative

theorem Canonical.eq_nil_of_isBlank {text run : Text} (canonical : Canonical text)
    (within : ∀ point ∈ run, point ∈ text) (blank : ∀ point ∈ run, point.isBlank = true) :
    run = [] :=
  List.eq_nil_iff_forall_not_mem.mpr fun point member =>
    absurd (blank point member) (Bool.eq_false_iff.mp (canonical.blanks point (within point member)))

theorem write?_of_canonical {text : Text} {n : Int} (denotes : Denotes text n)
    (canonical : Canonical text) : write? n = some text := by
  cases denotes with
  | @intro before digits after sign blankBefore blankAfter run =>
      have earlier : ∀ point ∈ before, point ∈ before ++ (sign.text ++ digits) ++ after :=
        fun _ member => List.mem_append_left _ (List.mem_append_left _ member)
      have later : ∀ point ∈ after, point ∈ before ++ (sign.text ++ digits) ++ after :=
        fun _ member => List.mem_append_right _ member
      obtain rfl := canonical.eq_nil_of_isBlank earlier blankBefore
      obtain rfl := canonical.eq_nil_of_isBlank later blankAfter
      rw [List.nil_append, List.append_nil] at canonical ⊢
      obtain ⟨-, plus, leading, minusZero⟩ := canonical
      have unsigned : sign ≠ .plus := by
        rintro rfl
        exact plus List.mem_cons_self
      obtain ⟨first, rest, rfl⟩ := List.exists_cons_of_ne_nil run.nonempty
      by_cases zero : first = '0'
      · subst zero
        obtain rfl := leading sign rest rfl
        cases sign with
        | none => rfl
        | plus => exact absurd rfl unsigned
        | minus => exact absurd rfl minusZero
      · have same := Text.ofNat_digitsValue zero run.all
        have positive : 0 < Text.digitsValue (first :: rest) := by
          refine Nat.pos_of_ne_zero fun nothing => zero ?_
          rw [nothing] at same
          exact (List.cons.inj same).1.symm
        rw [write?_of_small (natAbs_lt_of_digits sign run), natAbs_signed, same,
          Sign.ofInt_signed unsigned positive]

theorem write?_eq_some_iff_canonical {text : Text} {n : Int} (denotes : Denotes text n) :
    write? n = some text ↔ Canonical text :=
  ⟨canonical_of_write?, write?_of_canonical denotes⟩

/-- What reading a text as an integer gives, with a value to fall back to. -/
def readOr (text : Text) (fallback : Value) : Except ConversionError Value :=
  Registry.standard.readD Class.lineage .integer (some text) fallback

theorem readOr_eq (text : Text) (fallback : Value) :
    readOr text fallback =
      .ok (((read (Text.trimBlanks text)).toOption.map Value.integer).getD fallback) := by
  cases text with
  | nil => rfl
  | cons first rest =>
      have read_eq : Registry.standard.read Class.lineage .integer (first :: rest) =
          Convertor.readInteger .integer (first :: rest) := rfl
      unfold readOr Registry.readD
      dsimp only
      rw [read_eq, Convertor.readInteger]
      cases read (Text.trimBlanks (first :: rest)) with
      | ok n => rfl
      | error error => cases error <;> rfl

theorem readOr_of_denotes {text : Text} {n : Int} (denotes : Denotes text n) (fallback : Value) :
    readOr text fallback = .ok (.integer n) := by
  rw [readOr_eq, read_trimBlanks_eq_ok_iff.mpr denotes]
  rfl

theorem readOr_of_not_denotes {text : Text} (other : ∀ n, ¬ Denotes text n) (fallback : Value) :
    readOr text fallback = .ok fallback := by
  cases found : read (Text.trimBlanks text) with
  | ok n => exact absurd (read_trimBlanks_eq_ok_iff.mp found) (other n)
  | error error =>
      rw [readOr_eq, found]
      rfl

theorem write_integer_eq_ok_iff {n : Int} {text : Text} :
    Registry.standard.write Class.lineage (.integer n) = .ok text ↔ write? n = some text := by
  have write_eq : Registry.standard.write Class.lineage (.integer n) = Value.quoted (.integer n) :=
    rfl
  rw [write_eq, Value.quoted]
  cases write? n with
  | none =>
      constructor <;> intro impossible <;> cases impossible
  | some written => rw [Except.ok.injEq, Option.some.injEq]

theorem readOr_setting (settings : Settings) (sectionName key : Text) (fallback : Int) :
    readOr ((settings.value? sectionName key).getD []) (.integer fallback) =
      .ok (.integer ((settings.integer? sectionName key).getD fallback)) := by
  rw [readOr_eq, Settings.integer?]
  cases settings.value? sectionName key with
  | none => rfl
  | some text =>
      rw [Option.getD_some, Option.bind_some]
      cases read (Text.trimBlanks text) <;> rfl

theorem readOr_option (interface : Arguments.Interface) (name : Text) (fallback : Int) :
    readOr (interface.value name []) (.integer fallback) =
      .ok (.integer ((interface.integer? name).getD fallback)) := by
  rw [readOr_eq, Arguments.Interface.integer?]
  cases read (Text.trimBlanks (interface.value name [])) <;> rfl

theorem isPort_iff_readOr (text : Text) :
    Application.isPort text = true ↔
      ∃ n : Int, readOr text (.integer 0) = .ok (.integer n) ∧ 1 ≤ n ∧ n ≤ 65535 := by
  rw [readOr_eq, Application.isPort]
  cases read (Text.trimBlanks text) with
  | ok n =>
      change (decide (1 ≤ n) && decide (n ≤ 65535)) = true ↔ _
      rw [Bool.and_eq_true, decide_eq_true_eq, decide_eq_true_eq]
      constructor
      · intro range
        exact ⟨n, rfl, range⟩
      · rintro ⟨other, same, range⟩
        cases same
        exact range
  | error error =>
      constructor
      · intro impossible
        cases impossible
      · rintro ⟨other, same, positive, -⟩
        cases same
        exact absurd positive (by decide)

/-- Reading an integer never fails: it gives the number that the text denotes, else the value to
fall back to, and settings, options and ports are read in this way. The text that is written for a
number is read as that number, and it is the only canonical one among the texts that denote it. -/
theorem readOr_iff_denotes :
    (∀ text fallback, ∃ value, readOr text fallback = .ok value ∧
      (∀ n, Denotes text n → value = .integer n) ∧
      ((∀ n, ¬ Denotes text n) → value = fallback)) ∧
    (∀ (settings : Settings) sectionName key (fallback : Int),
      readOr ((settings.value? sectionName key).getD []) (.integer fallback) =
        .ok (.integer ((settings.integer? sectionName key).getD fallback))) ∧
    (∀ (interface : Arguments.Interface) name (fallback : Int),
      readOr (interface.value name []) (.integer fallback) =
        .ok (.integer ((interface.integer? name).getD fallback))) ∧
    (∀ text, Application.isPort text = true ↔
      ∃ n : Int, readOr text (.integer 0) = .ok (.integer n) ∧ 1 ≤ n ∧ n ≤ 65535) ∧
    (∀ n : Int, n.natAbs < 10 ^ digitLimit →
      ∃ text, Registry.standard.write Class.lineage (.integer n) = .ok text ∧
        ∀ fallback, readOr text fallback = .ok (.integer n)) ∧
    ∀ text n, Denotes text n →
      ∃ written, Registry.standard.write Class.lineage (.integer n) = .ok written ∧
        (written = text ↔ Canonical text) := by
  refine ⟨fun text fallback => ?_, readOr_setting, readOr_option, isPort_iff_readOr,
    fun n small => ?_, fun text n denotes => ?_⟩
  · by_cases readable : ∃ n, Denotes text n
    · obtain ⟨n, denotes⟩ := readable
      refine ⟨.integer n, readOr_of_denotes denotes fallback, fun other denotes' => ?_,
        fun impossible => absurd denotes (impossible n)⟩
      have same := (readOr_of_denotes denotes fallback).symm.trans
        (readOr_of_denotes denotes' fallback)
      exact Except.ok.inj same
    · rw [not_exists] at readable
      exact ⟨fallback, readOr_of_not_denotes readable fallback,
        fun n denotes => absurd denotes (readable n), fun _ => rfl⟩
  · have written := write?_of_small small
    exact ⟨_, write_integer_eq_ok_iff.mpr written,
      readOr_of_denotes (denotes_write? small written)⟩
  · have written := write?_of_small denotes.natAbs_lt
    refine ⟨_, write_integer_eq_ok_iff.mpr written, ?_⟩
    rw [← write?_eq_some_iff_canonical denotes, written, Option.some.injEq]

/-- A number with blanks, a sign and zeros in front of it, and the text that is written for it. -/
theorem readOr_padded :
    readOr " -007\t" (.integer 5) = .ok (.integer (-7)) ∧
      ∃ written, Registry.standard.write Class.lineage (.integer (-7)) = .ok written ∧
        written ≠ " -007\t" := by
  obtain ⟨reads, -, -, -, -, writes⟩ := readOr_iff_denotes
  have denotes : Denotes " -007\t" (-7) := read_trimBlanks_eq_ok_iff.mp rfl
  obtain ⟨value, result, number, -⟩ := reads " -007\t" (.integer 5)
  obtain ⟨written, writes, canonical⟩ := writes " -007\t" (-7) denotes
  refine ⟨result.trans (congrArg _ (number (-7) denotes)), written, writes, fun same => ?_⟩
  exact absurd ((canonical.mp same).blanks ' ' List.mem_cons_self) (by decide)

end Integer

end Startup
