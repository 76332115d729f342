import Startup.Text.Basic
import Mathlib.Data.List.Lex
import Mathlib.Data.List.Nodup

/-!
# Texts in order

Texts are ordered by the numbers of their code points at the first difference. Two lists of entries
whose keys are strictly increasing in this order are the same as soon as they have the same members.
-/

namespace Startup

/-- Whether one code point has a smaller number than another one. -/
def CodePoint.Less (first second : CodePoint) : Prop :=
  first.toNat < second.toNat

namespace CodePoint

instance : Std.Asymm Less where
  asymm _ _ less := Nat.lt_asymm less

instance : Std.Trichotomous Less where
  trichotomous first second notLess notGreater := by
    cases first
    cases second
    congr
    exact Nat.le_antisymm (Nat.not_lt.mp notGreater) (Nat.not_lt.mp notLess)

instance : IsOrderConnected CodePoint Less where
  conn first second third less := by
    unfold Less at *
    omega

end CodePoint

namespace Text

/-- Whether one text comes before another one: it has the smaller code point at their first
difference, or it is a proper beginning of the other one. -/
def Before (left right : Text) : Prop :=
  List.Lex CodePoint.Less left right

instance : Std.Asymm Before :=
  inferInstanceAs (Std.Asymm (List.Lex CodePoint.Less))

instance : Std.Trichotomous Before :=
  inferInstanceAs (Std.Trichotomous (List.Lex CodePoint.Less))

instance : IsOrderConnected Text Before :=
  inferInstanceAs (IsOrderConnected (List CodePoint) (List.Lex CodePoint.Less))

theorem Before.ne {left right : Text} (before : Before left right) : left ≠ right := by
  rintro rfl
  exact Std.Asymm.asymm _ _ before before

theorem ble_eq_true_iff {left right : Text} : ble left right = true ↔ ¬Before right left := by
  fun_induction ble left right with
  | case1 right => exact iff_of_true rfl List.not_lex_nil
  | case2 first rest => exact iff_of_false Bool.false_ne_true fun before => before .nil
  | case3 first rest second others less =>
      refine iff_of_true rfl ?_
      rintro (_ | greater | _)
      · exact Nat.lt_asymm less greater
      · exact Nat.lt_irrefl _ less
  | case4 first rest second others _ greater =>
      exact iff_of_false Bool.false_ne_true fun before => before (.rel greater)
  | case5 first rest second others notLess notGreater ih =>
      have same : first = second :=
        Std.Trichotomous.trichotomous (r := CodePoint.Less) first second notLess notGreater
      rw [ih, same, Before, Before, List.lex_cons_iff]

theorem ble_trans (first second third : Text) (early : ble first second = true)
    (late : ble second third = true) : ble first third = true := by
  rw [ble_eq_true_iff] at *
  intro before
  exact (IsOrderConnected.conn third second first before).elim late early

theorem ble_total (first second : Text) : (ble first second || ble second first) = true := by
  rw [Bool.or_eq_true, ble_eq_true_iff, ble_eq_true_iff]
  by_cases before : Before second first
  · exact Or.inr (Std.Asymm.asymm _ _ before)
  · exact Or.inl before

theorem before_of_ble_of_ne {left right : Text} (le : ble left right = true) (ne : left ≠ right) :
    Before left right := by
  by_contra notBefore
  exact ne (Std.Trichotomous.trichotomous left right notBefore (ble_eq_true_iff.mp le))

def Increasing {α : Type} (entries : List (Text × α)) : Prop :=
  (entries.map Prod.fst).Pairwise Before

theorem Increasing.nodup {α : Type} {entries : List (Text × α)}
    (increasing : Increasing entries) : entries.Nodup :=
  List.Nodup.of_map Prod.fst (increasing.imp Before.ne)

/-- Entries in strictly increasing order are known by their members. -/
theorem Increasing.eq_of_mem_iff {α : Type} {left right : List (Text × α)}
    (increasing : Increasing left) (increasing' : Increasing right)
    (same : ∀ entry, entry ∈ left ↔ entry ∈ right) : left = right := by
  have perm : left.Perm right :=
    (List.perm_ext_iff_of_nodup increasing.nodup increasing'.nodup).mpr same
  refine List.Perm.eq_of_pairwise ?_ (List.pairwise_map.mp increasing)
    (List.pairwise_map.mp increasing') perm
  intro first second _ _ before after
  exact absurd after (Std.Asymm.asymm _ _ before)

end Text

end Startup
