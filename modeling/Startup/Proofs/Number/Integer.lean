import Startup.Number.Integer
import Startup.Proofs.Text.Trimming
import Mathlib.Algebra.Group.Nat.Defs

/-!
# Integers in decimal

The digits that are written for a number denote it again. A text is read as a number exactly when it
is made of an optional sign and some digits, and spaces and tabs around them make no difference when
they are trimmed first.
-/

namespace Startup

namespace CodePoint

theorem isDigit_iff {point : CodePoint} :
    point.isDigit = true ↔ 48 ≤ point.toNat ∧ point.toNat ≤ 57 := by
  simp only [isDigit, Bool.and_eq_true, decide_eq_true_eq]

theorem isBlank_of_isDigit {point : CodePoint} (digit : point.isDigit = true) :
    point.isBlank = false := by
  rw [Bool.eq_false_iff]
  intro blank
  simp only [isBlank, Bool.or_eq_true, beq_iff_eq] at blank
  rcases blank with rfl | rfl <;> cases digit

end CodePoint

namespace Text

theorem digitsValue_ofNat (n : Nat) : (ofNat n).digitsValue = n := by
  rw [digitsValue, ofNat, List.foldl_map]
  exact Nat.ofDigitChars_ten_toDigits

theorem isDigit_of_mem_ofNat {n : Nat} {point : CodePoint} (member : point ∈ ofNat n) :
    point.isDigit = true := by
  obtain ⟨char, inside, rfl⟩ := List.mem_map.mp member
  have digit := Nat.isDigit_of_mem_toDigits (by decide) (by decide) inside
  simp only [Char.isDigit, ge_iff_le, Bool.and_eq_true, decide_eq_true_eq,
    UInt32.le_iff_toNat_le] at digit
  exact CodePoint.isDigit_iff.mpr digit

theorem ofNat_ne_nil (n : Nat) : ofNat n ≠ [] := by
  intro empty
  exact Nat.toDigits_ne_nil (List.map_eq_nil_iff.mp empty)

theorem length_ofNat_le_iff {n places : Nat} (positive : 0 < places) :
    (ofNat n).length ≤ places ↔ n < 10 ^ places := by
  rw [ofNat, List.length_map]
  exact Nat.length_toDigits_le_iff (by decide) positive

end Text

namespace Integer

inductive Sign where
  | none
  | plus
  | minus
deriving DecidableEq

namespace Sign

def text : Sign → Text
  | none => []
  | plus => "+"
  | minus => "-"

def isNegative : Sign → Bool
  | minus => true
  | _ => false

end Sign

/-- Whether a text is a run of digits that is not too long. -/
structure Digits (digits : Text) : Prop where
  nonempty : digits ≠ []
  all : ∀ point ∈ digits, point.isDigit = true
  short : digits.length ≤ digitLimit

/-- Whether a text denotes a number: spaces and tabs, a sign or none, digits, spaces and tabs. -/
inductive Denotes : Text → Int → Prop where
  | intro {before digits after : Text} (sign : Sign)
      (blankBefore : ∀ point ∈ before, point.isBlank = true)
      (blankAfter : ∀ point ∈ after, point.isBlank = true) (run : Digits digits) :
      Denotes (before ++ (sign.text ++ digits) ++ after)
        (signed sign.isNegative digits.digitsValue)

theorem splitSign_append {digits : Text} (sign : Sign)
    (all : ∀ point ∈ digits, point.isDigit = true) :
    (sign.text ++ digits).splitSign = (sign.isNegative, digits) := by
  cases sign with
  | plus => rfl
  | minus => rfl
  | none =>
      cases digits with
      | nil => rfl
      | cons first rest =>
          have digit := all first List.mem_cons_self
          have noMinus : first ≠ '-' := by
            rintro rfl
            cases digit
          have noPlus : first ≠ '+' := by
            rintro rfl
            cases digit
          change Text.splitSign (first :: rest) = (false, first :: rest)
          rw [Text.splitSign, if_neg noMinus, if_neg noPlus]

theorem exists_sign (text : Text) :
    ∃ sign : Sign, text = sign.text ++ text.splitSign.2 ∧ text.splitSign.1 = sign.isNegative := by
  cases text with
  | nil => exact ⟨.none, rfl, rfl⟩
  | cons first rest =>
      rw [Text.splitSign]
      by_cases minus : first = '-'
      · rw [if_pos minus, minus]
        exact ⟨.minus, rfl, rfl⟩
      rw [if_neg minus]
      by_cases plus : first = '+'
      · rw [if_pos plus, plus]
        exact ⟨.plus, rfl, rfl⟩
      rw [if_neg plus]
      exact ⟨.none, rfl, rfl⟩

theorem read_eq_ok_iff {text : Text} {n : Int} :
    read text = .ok n ↔
      ∃ sign digits, text = Sign.text sign ++ digits ∧ Digits digits ∧
        n = signed sign.isNegative digits.digitsValue := by
  constructor
  · intro accepted
    obtain ⟨sign, whole, negative⟩ := exists_sign text
    unfold read ofDigits at accepted
    simp only [negative] at accepted
    split at accepted
    next shaped =>
      split at accepted
      next short =>
        exact ⟨sign, text.splitSign.2, whole, ⟨shaped.1, List.all_eq_true.mp shaped.2, short⟩,
          (Except.ok.inj accepted).symm⟩
      next => cases accepted
    next => cases accepted
  · rintro ⟨sign, digits, rfl, run, rfl⟩
    unfold read ofDigits
    rw [splitSign_append sign run.all]
    simp only [run.nonempty, List.all_eq_true.mpr run.all, run.short, ne_eq, not_false_eq_true,
      and_self, if_true]

/-- Neither end of a number is blank. -/
theorem trimBlanks_number {sign : Sign} {digits : Text} (run : Digits digits) :
    Text.trimBlanks (sign.text ++ digits) = sign.text ++ digits := by
  rw [Text.trimBlanks, Text.trim_eq_self_iff, Text.endsWith_append _ run.nonempty]
  constructor
  · cases sign with
    | plus => rfl
    | minus => rfl
    | none =>
        cases digits with
        | nil => rfl
        | cons first rest => exact CodePoint.isBlank_of_isDigit (run.all first List.mem_cons_self)
  · rcases List.eq_nil_or_concat' digits with rfl | ⟨init, last, rfl⟩
    · rfl
    · rw [Text.endsWith_concat]
      exact CodePoint.isBlank_of_isDigit (run.all last (by simp))

/-- Reading a text without the spaces and tabs around it gives the number that it denotes. -/
theorem read_trimBlanks_eq_ok_iff {text : Text} {n : Int} :
    read (Text.trimBlanks text) = .ok n ↔ Denotes text n := by
  constructor
  · intro accepted
    obtain ⟨sign, digits, trimmed, run, rfl⟩ := read_eq_ok_iff.mp accepted
    obtain ⟨before, after, whole, blankBefore, blankAfter⟩ :=
      Text.exists_append_trim CodePoint.isBlank text
    rw [← Text.trimBlanks, trimmed] at whole
    rw [whole]
    exact .intro sign blankBefore blankAfter run
  · rintro ⟨sign, blankBefore, blankAfter, run⟩
    rw [Text.trimBlanks, Text.trim_append_right blankAfter, Text.trim_append_left blankBefore,
      ← Text.trimBlanks, trimBlanks_number run]
    exact read_eq_ok_iff.mpr ⟨sign, _, rfl, run, rfl⟩

theorem natAbs_signed (negative : Bool) (size : Nat) : (signed negative size).natAbs = size := by
  cases negative with
  | false => exact Int.natAbs_natCast size
  | true => exact (Int.natAbs_neg _).trans (Int.natAbs_natCast size)

/-- The digits of a number are all the digits in its text. -/
theorem Denotes.natAbs_eq {text : Text} {n : Int} (denotes : Denotes text n) :
    n.natAbs = Text.digitsValue (text.filter CodePoint.isDigit) := by
  obtain ⟨sign, blankBefore, blankAfter, run⟩ := denotes
  have noDigit : ∀ point : CodePoint, point.isBlank = true → ¬ point.isDigit = true :=
    fun _ blank digit => absurd blank (Bool.eq_false_iff.mp (CodePoint.isBlank_of_isDigit digit))
  have signs : sign.text.filter CodePoint.isDigit = [] := by cases sign <;> rfl
  rw [natAbs_signed, List.filter_append, List.filter_append, List.filter_append, signs,
    List.filter_eq_nil_iff.mpr fun point member => noDigit point (blankBefore point member),
    List.filter_eq_nil_iff.mpr fun point member => noDigit point (blankAfter point member),
    List.filter_eq_self.mpr run.all, List.nil_append, List.nil_append, List.append_nil]

theorem digits_ofNat {n : Nat} (small : n < 10 ^ digitLimit) : Digits (Text.ofNat n) where
  nonempty := Text.ofNat_ne_nil n
  all _ := Text.isDigit_of_mem_ofNat
  short := (Text.length_ofNat_le_iff (by decide)).mpr small

def Sign.ofInt (n : Int) : Sign :=
  if n < 0 then .minus else .none

theorem signed_ofInt (n : Int) : signed (Sign.ofInt n).isNegative n.natAbs = n := by
  by_cases negative : n < 0
  · rw [Sign.ofInt, if_pos negative]
    change -(n.natAbs : Int) = n
    omega
  · rw [Sign.ofInt, if_neg negative]
    change (n.natAbs : Int) = n
    omega

/-- A number that is not too long is written with its sign and its digits. -/
theorem write?_of_small {n : Int} (small : n.natAbs < 10 ^ digitLimit) :
    write? n = some ((Sign.ofInt n).text ++ Text.ofNat n.natAbs) := by
  unfold write? Sign.ofInt
  simp only [(digits_ofNat small).short, if_true]
  split <;> rfl

/-- The text that is written for a number denotes it. -/
theorem denotes_write? {n : Int} {text : Text} (small : n.natAbs < 10 ^ digitLimit)
    (written : write? n = some text) : Denotes text n := by
  have denotes : Denotes ([] ++ ((Sign.ofInt n).text ++ Text.ofNat n.natAbs) ++ [])
      (signed (Sign.ofInt n).isNegative (Text.ofNat n.natAbs).digitsValue) :=
    .intro _ (fun _ member => absurd member List.not_mem_nil)
      (fun _ member => absurd member List.not_mem_nil) (digits_ofNat small)
  rw [write?_of_small small, Option.some.injEq] at written
  rwa [Text.digitsValue_ofNat, signed_ofInt, List.nil_append, List.append_nil, written] at denotes

theorem write?_natCast {n : Nat} (small : n < 10 ^ digitLimit) :
    write? (n : Int) = some (Text.ofNat n) := by
  have positive : Sign.ofInt n = .none := if_neg (Int.not_lt.mpr (Int.natCast_nonneg n))
  rw [write?_of_small (by rwa [Int.natAbs_natCast]), positive, Int.natAbs_natCast]
  rfl

theorem denotes_ofNat {n : Nat} (small : n < 10 ^ digitLimit) : Denotes (Text.ofNat n) n :=
  denotes_write? (by rwa [Int.natAbs_natCast]) (write?_natCast small)

end Integer

end Startup
