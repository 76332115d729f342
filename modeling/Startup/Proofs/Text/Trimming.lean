import Startup.Text.Basic
import Mathlib.Data.List.DropRight
import Mathlib.Data.List.Infix
import Mathlib.Data.List.TakeWhile

/-!
# The ends of a text

Trimming stops at the first code point that is kept, so around such a code point the two ends of a
text are trimmed apart. A text is left alone exactly when neither of its ends is to be dropped.
-/

namespace Startup.Text

def beginsWith (test : CodePoint → Bool) (text : Text) : Bool :=
  text.head?.any test

def endsWith (test : CodePoint → Bool) (text : Text) : Bool :=
  text.getLast?.any test

section Ends

variable {test : CodePoint → Bool} {point : CodePoint}

@[simp]
theorem beginsWith_nil : beginsWith test [] = false := rfl

@[simp]
theorem beginsWith_cons (rest : Text) : beginsWith test (point :: rest) = test point := rfl

@[simp]
theorem endsWith_nil : endsWith test [] = false := rfl

@[simp]
theorem endsWith_concat (text : Text) : endsWith test (text ++ [point]) = test point := by
  simp [endsWith]

theorem endsWith_cons (rest : Text) :
    endsWith test (point :: rest) = if rest = [] then test point else endsWith test rest := by
  rcases List.eq_nil_or_concat' rest with rfl | ⟨init, last, rfl⟩
  · rfl
  · rw [← List.cons_append, endsWith_concat, endsWith_concat, if_neg (by simp)]

theorem endsWith_beq_iff {text : Text} :
    endsWith (· == point) text = true ↔ text.getLast? = some point := by
  cases last : text.getLast? <;> simp [endsWith, last]

theorem beginsWith_eq_false_of_imp {weaker : CodePoint → Bool} {text : Text}
    (imp : ∀ point, test point = true → weaker point = true)
    (fails : beginsWith weaker text = false) : beginsWith test text = false := by
  cases text with
  | nil => rfl
  | cons first rest => exact Bool.eq_false_iff.mpr (mt (imp first) (Bool.eq_false_iff.mp fails))

theorem endsWith_eq_false_of_imp {weaker : CodePoint → Bool} {text : Text}
    (imp : ∀ point, test point = true → weaker point = true)
    (fails : endsWith weaker text = false) : endsWith test text = false := by
  rcases List.eq_nil_or_concat' text with rfl | ⟨init, last, rfl⟩
  · rfl
  · rw [endsWith_concat] at fails ⊢
    exact Bool.eq_false_iff.mpr (mt (imp last) (Bool.eq_false_iff.mp fails))

theorem beginsWith_eq_false_of_forall {text : Text} (fails : ∀ point ∈ text, test point = false) :
    beginsWith test text = false := by
  cases text with
  | nil => rfl
  | cons first rest => exact fails first List.mem_cons_self

theorem endsWith_eq_false_of_forall {text : Text} (fails : ∀ point ∈ text, test point = false) :
    endsWith test text = false := by
  rcases List.eq_nil_or_concat' text with rfl | ⟨init, last, rfl⟩
  · rfl
  · rw [endsWith_concat]
    exact fails last (by simp)

theorem beginsWith_append_cons (fails : test point = false) (left right : Text) :
    beginsWith test (left ++ point :: right) = beginsWith test left := by
  cases left with
  | nil => exact fails
  | cons first rest => rfl

theorem endsWith_append_cons (fails : test point = false) (left right : Text) :
    endsWith test (left ++ point :: right) = endsWith test right := by
  rcases List.eq_nil_or_concat' right with rfl | ⟨init, last, rfl⟩
  · rw [endsWith_concat, fails, endsWith_nil]
  · rw [← List.cons_append, ← List.append_assoc, endsWith_concat, endsWith_concat]

theorem beginsWith_append {text : Text} (nonempty : text ≠ []) (more : Text) :
    beginsWith test (text ++ more) = beginsWith test text := by
  cases text with
  | nil => exact absurd rfl nonempty
  | cons first rest => rfl

theorem endsWith_append {text : Text} (before : Text) (nonempty : text ≠ []) :
    endsWith test (before ++ text) = endsWith test text := by
  obtain ⟨init, last, rfl⟩ := (List.eq_nil_or_concat' text).resolve_left nonempty
  rw [← List.append_assoc, endsWith_concat, endsWith_concat]

end Ends

section Trimming

variable {drop : CodePoint → Bool}

theorem trimEnd_eq_rdropWhile (text : Text) : trimEnd drop text = text.rdropWhile drop := rfl

theorem trimEnd_isPrefix (drop : CodePoint → Bool) (text : Text) : trimEnd drop text <+: text :=
  List.rdropWhile_prefix drop text

theorem trim_isInfix (text : Text) : trim drop text <:+: text :=
  (trimEnd_isPrefix drop _).isInfix.trans (List.dropWhile_suffix drop).isInfix

theorem length_trim_le (drop : CodePoint → Bool) (text : Text) :
    (trim drop text).length ≤ text.length :=
  (trim_isInfix text).length_le

theorem endsWith_trimEnd (drop : CodePoint → Bool) (text : Text) :
    endsWith drop (trimEnd drop text) = false := by
  rcases List.eq_nil_or_concat' (trimEnd drop text) with empty | ⟨init, last, shape⟩
  · rw [empty, endsWith_nil]
  · have kept := List.rdropWhile_last_not drop text
    simp only [← trimEnd_eq_rdropWhile, shape] at kept
    simpa [shape] using kept

theorem beginsWith_dropWhile (drop : CodePoint → Bool) (text : Text) :
    beginsWith drop (text.dropWhile drop) = false := by
  have first := List.head?_dropWhile_not drop text
  cases rest : text.dropWhile drop with
  | nil => rfl
  | cons point others =>
      rw [rest] at first
      exact first

theorem endsWith_trim (text : Text) : endsWith drop (trim drop text) = false :=
  endsWith_trimEnd drop _

theorem beginsWith_trim (text : Text) : beginsWith drop (trim drop text) = false := by
  obtain ⟨dropped, whole⟩ := trimEnd_isPrefix drop (text.dropWhile drop)
  have first := beginsWith_dropWhile drop text
  rw [← whole] at first
  unfold trim
  cases trimmed : trimEnd drop (text.dropWhile drop) with
  | nil => rfl
  | cons point rest => rwa [trimmed] at first

/-- Trimming leaves a text alone exactly when it drops neither end. -/
theorem trim_eq_self_iff {text : Text} :
    trim drop text = text ↔ beginsWith drop text = false ∧ endsWith drop text = false := by
  constructor
  · intro same
    exact ⟨same ▸ beginsWith_trim text, same ▸ endsWith_trim text⟩
  · rintro ⟨first, last⟩
    have front : text.dropWhile drop = text := by
      cases text with
      | nil => rfl
      | cons point rest => exact List.dropWhile_cons_of_neg (by simpa using first)
    rw [trim, front, trimEnd_eq_rdropWhile]
    rcases List.eq_nil_or_concat' text with rfl | ⟨init, point, rfl⟩
    · rfl
    · exact List.rdropWhile_concat_neg drop init point (by simpa using last)

theorem dropWhile_append_cons {point : CodePoint} (kept : drop point = false) (left right : Text) :
    (left ++ point :: right).dropWhile drop = left.dropWhile drop ++ point :: right := by
  rw [List.dropWhile_append]
  cases rest : left.dropWhile drop with
  | nil => simp [kept]
  | cons first others => rfl

theorem trimEnd_append_cons {point : CodePoint} (kept : drop point = false) (left right : Text) :
    trimEnd drop (left ++ point :: right) = left ++ point :: trimEnd drop right := by
  simp only [trimEnd, List.reverse_append, List.reverse_cons, List.append_assoc,
    List.singleton_append]
  rw [dropWhile_append_cons kept]
  simp

/-- Around a code point that is kept, both ends are trimmed apart. -/
theorem trim_append_cons {point : CodePoint} (kept : drop point = false) (left right : Text) :
    trim drop (left ++ point :: right) = left.dropWhile drop ++ point :: trimEnd drop right := by
  rw [trim, dropWhile_append_cons kept, trimEnd_append_cons kept]

/-- The two ends may be trimmed in either order. -/
theorem dropWhile_trimEnd (text : Text) : (trimEnd drop text).dropWhile drop = trim drop text := by
  by_cases all : ∀ point ∈ text, drop point = true
  · have empty : trimEnd drop text = [] := List.rdropWhile_eq_nil_iff.mpr all
    have empty' : text.dropWhile drop = [] := List.dropWhile_eq_nil_iff.mpr all
    rw [trim, empty, empty']
    rfl
  · simp only [not_forall, Bool.not_eq_true] at all
    obtain ⟨point, member, kept⟩ := all
    obtain ⟨left, right, rfl⟩ := List.append_of_mem member
    rw [trimEnd_append_cons kept, dropWhile_append_cons kept, trim_append_cons kept]

theorem endsWith_trim_eq (test : CodePoint → Bool) (text : Text) :
    endsWith test (trim drop text) = endsWith test (trimEnd drop text) := by
  rw [← dropWhile_trimEnd]
  have kept := endsWith_trimEnd drop text
  rcases List.eq_nil_or_concat' (trimEnd drop text) with empty | ⟨init, last, shape⟩
  · rw [empty]
    rfl
  · rw [shape, endsWith_concat] at kept
    rw [shape, dropWhile_append_cons kept, endsWith_concat, endsWith_concat]

theorem trim_dropWhile (text : Text) : trim drop (text.dropWhile drop) = trim drop text := by
  rw [trim, List.dropWhile_idempotent, trim]

theorem trim_cons_of_drop {point : CodePoint} (dropped : drop point = true) (text : Text) :
    trim drop (point :: text) = trim drop text := by
  rw [trim, List.dropWhile_cons_of_pos dropped, trim]

theorem trim_concat_of_drop {point : CodePoint} (dropped : drop point = true) (text : Text) :
    trim drop (text ++ [point]) = trim drop text := by
  rw [trim, List.dropWhile_append]
  cases rest : text.dropWhile drop with
  | nil => simp [trim, rest, dropped, trimEnd]
  | cons first others =>
      rw [if_neg (by simp), trim, rest, trimEnd_eq_rdropWhile, trimEnd_eq_rdropWhile]
      exact List.rdropWhile_concat_pos drop _ point dropped

theorem trim_trimEnd (text : Text) : trim drop (trimEnd drop text) = trim drop text := by
  induction text using List.reverseRecOn with
  | nil => rfl
  | append_singleton text point ih =>
      cases dropped : drop point with
      | true =>
          rw [trim_concat_of_drop dropped, trimEnd_eq_rdropWhile,
            List.rdropWhile_concat_pos drop text point dropped, ← trimEnd_eq_rdropWhile, ih]
      | false =>
          rw [trimEnd_eq_rdropWhile, List.rdropWhile_concat_neg drop text point (by simp [dropped])]

/-- What trimming drops stands around what it keeps. -/
theorem exists_append_trim (drop : CodePoint → Bool) (text : Text) :
    ∃ before after, text = before ++ trim drop text ++ after ∧
      (∀ point ∈ before, drop point = true) ∧ ∀ point ∈ after, drop point = true := by
  have front := List.takeWhile_append_dropWhile (p := drop) (l := text)
  have back := List.takeWhile_append_dropWhile (p := drop) (l := (text.dropWhile drop).reverse)
  refine ⟨text.takeWhile drop, ((text.dropWhile drop).reverse.takeWhile drop).reverse, ?_, ?_, ?_⟩
  · have kept := congrArg List.reverse back
    rw [List.reverse_append, List.reverse_reverse] at kept
    rw [List.append_assoc, trim, trimEnd, kept, front]
  · intro point member
    exact List.mem_takeWhile_imp member
  · intro point member
    exact List.mem_takeWhile_imp (List.mem_reverse.mp member)

theorem trim_append_left {before : Text} (dropped : ∀ point ∈ before, drop point = true)
    (text : Text) : trim drop (before ++ text) = trim drop text := by
  induction before with
  | nil => rfl
  | cons point rest ih =>
      rw [List.forall_mem_cons] at dropped
      rw [List.cons_append, trim_cons_of_drop dropped.1, ih dropped.2]

theorem trim_append_right {after : Text} (dropped : ∀ point ∈ after, drop point = true)
    (text : Text) : trim drop (text ++ after) = trim drop text := by
  induction after generalizing text with
  | nil => rw [List.append_nil]
  | cons point rest ih =>
      rw [List.forall_mem_cons] at dropped
      rw [List.append_cons, ih dropped.2, trim_concat_of_drop dropped.1]

end Trimming

section Final

variable {point : CodePoint}

theorem dropFinal_isPrefix (text : Text) : dropFinal point text <+: text := by
  unfold dropFinal
  split
  · exact List.dropLast_prefix text
  · exact List.prefix_refl text

theorem length_dropFinal_le (text : Text) : (dropFinal point text).length ≤ text.length :=
  (dropFinal_isPrefix text).length_le

theorem dropFinal_concat_self (text : Text) : dropFinal point (text ++ [point]) = text := by
  simp [dropFinal]

theorem dropFinal_of_ne {text : Text} (other : text.getLast? ≠ some point) :
    dropFinal point text = text :=
  if_neg other

theorem dropFinal_eq_self_iff {text : Text} :
    dropFinal point text = text ↔ text.getLast? ≠ some point := by
  constructor
  · intro same last
    have shorter := congrArg List.length same
    rw [dropFinal, if_pos last, List.length_dropLast] at shorter
    have nonempty : text ≠ [] := by
      rintro rfl
      cases last
    have positive := List.length_pos_of_ne_nil nonempty
    omega
  · exact dropFinal_of_ne

theorem dropFinal_append_cons {other : CodePoint} (different : other ≠ point)
    (left right : Text) :
    dropFinal point (left ++ other :: right) = left ++ other :: dropFinal point right := by
  rcases List.eq_nil_or_concat' right with rfl | ⟨init, last, rfl⟩
  · rw [dropFinal_of_ne (by simpa using different), dropFinal_of_ne (by simp)]
  · by_cases same : last = point
    · subst same
      rw [dropFinal_concat_self, ← List.cons_append, ← List.append_assoc, dropFinal_concat_self]
    · rw [dropFinal_of_ne (by simpa [List.getLast?_cons] using same),
        dropFinal_of_ne (by simpa using same)]

end Final

end Startup.Text
