import Startup.Text.Basic
import Mathlib.Data.List.Infix

/-!
# Cutting and joining texts

Splitting a text at a separator and joining the pieces are inverse to each other. Each piece lies
within the text and is free of the separator. Cutting at the first separator gives the one
decomposition of the text whose left part is free of it.
-/

namespace Startup.Text

theorem split_eq_splitOn (separator : CodePoint) (text : Text) :
    split separator text = text.splitOn separator := by
  induction text with
  | nil => rfl
  | cons point rest ih =>
      rw [split, List.splitOn_cons_eq_if_modifyHead, ih]
      by_cases same : point = separator
      · rw [if_pos same, if_pos (beq_iff_eq.mpr same)]
      · rw [if_neg same, if_neg (mt beq_iff_eq.mp same)]
        cases pieces : rest.splitOn separator with
        | nil => exact absurd pieces (List.splitOn_ne_nil separator rest)
        | cons piece others => rfl

theorem join_eq_intercalate (separator : Text) (pieces : List Text) :
    join separator pieces = separator.intercalate pieces := by
  induction pieces with
  | nil => rfl
  | cons piece others ih =>
      cases others with
      | nil => simp [join]
      | cons next others => simp [join, ih]

/-- Pieces that are free of the separator come back from the text in which they are joined. -/
theorem split_join {separator : CodePoint} {pieces : List Text} (nonempty : pieces ≠ [])
    (free : ∀ piece ∈ pieces, separator ∉ piece) :
    split separator (join [separator] pieces) = pieces := by
  rw [split_eq_splitOn, join_eq_intercalate]
  exact List.splitOn_intercalate separator free nonempty

theorem join_split (separator : CodePoint) (text : Text) :
    join [separator] (split separator text) = text := by
  rw [split_eq_splitOn, join_eq_intercalate]
  exact List.intercalate_splitOn separator

theorem notMem_of_mem_split {separator : CodePoint} {text piece : Text}
    (member : piece ∈ split separator text) : separator ∉ piece := by
  induction text generalizing piece with
  | nil =>
      rw [split, List.mem_singleton] at member
      simp [member]
  | cons point rest ih =>
      rw [split] at member
      by_cases same : point = separator
      · rw [if_pos same, List.mem_cons] at member
        rcases member with rfl | member
        · exact List.not_mem_nil
        · exact ih member
      · rw [if_neg same] at member
        cases pieces : split separator rest with
        | nil => simp_all [split_eq_splitOn]
        | cons first others =>
            rw [pieces] at ih
            simp only [pieces, List.mem_cons] at member
            rcases member with rfl | member
            · have free := ih List.mem_cons_self
              simp [Ne.symm same, free]
            · exact ih (List.mem_cons_of_mem _ member)

theorem split_append_cons (separator : CodePoint) (left right : Text) :
    split separator (left ++ separator :: right) =
      split separator left ++ split separator right := by
  induction left with
  | nil => simp [split]
  | cons point rest ih =>
      rw [List.cons_append, split, split, ih]
      by_cases same : point = separator
      · rw [if_pos same, if_pos same, List.cons_append]
      · rw [if_neg same, if_neg same]
        cases pieces : split separator rest with
        | nil =>
            rw [split_eq_splitOn] at pieces
            exact absurd pieces (List.splitOn_ne_nil separator rest)
        | cons piece others => rfl

theorem isInfix_join_of_mem (separator : Text) {piece : Text} {pieces : List Text}
    (member : piece ∈ pieces) : piece <:+: join separator pieces := by
  induction pieces with
  | nil => cases member
  | cons first others ih =>
      cases others with
      | nil =>
          rw [List.mem_singleton] at member
          rw [member]
          exact List.infix_refl _
      | cons next others =>
          rw [join, List.append_assoc]
          rcases List.mem_cons.mp member with rfl | member
          · exact (List.prefix_append _ _).isInfix
          · exact (ih member).trans ((List.suffix_append _ _).trans (List.suffix_append _ _)).isInfix

theorem isInfix_of_mem_split {separator : CodePoint} {text piece : Text}
    (member : piece ∈ split separator text) : piece <:+: text := by
  have within := isInfix_join_of_mem [separator] member
  rwa [join_split] at within

theorem cut?_eq_some_iff {separator : CodePoint} {text left right : Text} :
    cut? separator text = some (left, right) ↔
      text = left ++ separator :: right ∧ separator ∉ left := by
  induction text generalizing left with
  | nil => simp [cut?]
  | cons point rest ih =>
      by_cases same : point = separator
      · subst same
        cases left with
        | nil => simp [cut?, eq_comm]
        | cons first others =>
            rw [cut?, if_pos rfl]
            constructor
            · intro found
              cases found
            · rintro ⟨whole, free⟩
              simp only [List.cons_append, List.cons.injEq] at whole
              exact absurd (whole.1 ▸ List.mem_cons_self) free
      · cases left with
        | nil => simp [cut?, same]
        | cons first others =>
            simp only [cut?, same, if_false, Option.map_eq_some_iff, Prod.exists]
            constructor
            · rintro ⟨before, after, found, parts⟩
              cases parts
              obtain ⟨whole, free⟩ := ih.mp found
              simp [whole, free, Ne.symm same]
            · rintro ⟨whole, free⟩
              simp only [List.cons_append, List.cons.injEq] at whole
              refine ⟨others, right, ih.mpr ⟨whole.2, fun member => free ?_⟩, by rw [whole.1]⟩
              exact List.mem_cons_of_mem _ member

theorem cut?_eq_none_iff {separator : CodePoint} {text : Text} :
    cut? separator text = none ↔ separator ∉ text := by
  induction text with
  | nil => simp [cut?]
  | cons point rest ih =>
      by_cases same : point = separator
      · simp [cut?, same]
      · simp [cut?, same, ih, Ne.symm same]

end Startup.Text
