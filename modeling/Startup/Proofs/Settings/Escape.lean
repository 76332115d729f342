import Startup.Proofs.Text.Stable
import Startup.Proofs.Text.Trimming
import Startup.Settings.Escape

/-!
# Values on one line

Unescaping undoes escaping. An escaped value holds neither a newline nor a tab, so it stays on its
line, and trimming the line removes from it exactly the spaces at the ends of the value. Escaping
and unescaping exchange only code points that are no surrogates, hence keep a text stable.
-/

namespace Startup

def CodePoint.isSpace (point : CodePoint) : Bool :=
  point == ' '

namespace Settings

/-- The mark that follows the backslash in the pair for a code point that has one. -/
def mark? (point : CodePoint) : Option CodePoint :=
  if point = '\\' then some '\\'
  else if point = '\n' then some 'n'
  else if point = '\t' then some 't'
  else none

def escapePoint (point : CodePoint) : Text :=
  match mark? point with
  | some mark => ['\\', mark]
  | none => [point]

theorem mark?_cases {point mark : CodePoint} (marked : mark? point = some mark) :
    (point = '\\' ∧ mark = '\\') ∨ (point = '\n' ∧ mark = 'n') ∨ (point = '\t' ∧ mark = 't') := by
  unfold mark? at marked
  split at marked
  next same => exact Or.inl ⟨same, (Option.some.inj marked).symm⟩
  split at marked
  next same => exact Or.inr (Or.inl ⟨same, (Option.some.inj marked).symm⟩)
  split at marked
  next same => exact Or.inr (Or.inr ⟨same, (Option.some.inj marked).symm⟩)
  cases marked

theorem escapePoint_of_mark? {point mark : CodePoint} (marked : mark? point = some mark) :
    escapePoint point = [CodePoint.ofChar '\\', mark] := by
  rw [escapePoint, marked]

theorem escapePoint_of_mark?_eq_none {point : CodePoint} (unmarked : mark? point = none) :
    escapePoint point = [point] := by
  rw [escapePoint, unmarked]

theorem ne_of_mark?_eq_none {point : CodePoint} (unmarked : mark? point = none) :
    point ≠ '\\' ∧ point ≠ '\n' ∧ point ≠ '\t' := by
  refine ⟨?_, ?_, ?_⟩
  all_goals
    rintro rfl
    cases unmarked

theorem escaped?_eq_some_iff {mark point : CodePoint} :
    escaped? mark = some point ↔ mark? point = some mark := by
  unfold escaped? mark?
  constructor
  all_goals
    intro found
    split at found
    next same =>
      cases found
      subst same
      decide
    split at found
    next same =>
      cases found
      subst same
      decide
    split at found
    next same =>
      cases found
      subst same
      decide
    cases found

theorem escape_singleton (point : CodePoint) : escape [point] = escapePoint point := by
  by_cases backslash : point = '\\'
  · subst backslash
    rfl
  by_cases newline : point = '\n'
  · subst newline
    rfl
  by_cases tab : point = '\t'
  · subst tab
    rfl
  simp [escape, Text.replace, escapePoint, mark?, backslash, newline, tab]

theorem escape_eq_flatMap (value : Text) : escape value = value.flatMap escapePoint := by
  induction value with
  | nil => rfl
  | cons point rest ih =>
      have parts : escape (point :: rest) = escape [point] ++ escape rest := by
        simp [escape, Text.replace]
      rw [parts, escape_singleton, ih, List.flatMap_cons]

theorem escape_cons (point : CodePoint) (rest : Text) :
    escape (point :: rest) = escapePoint point ++ escape rest := by
  rw [escape_eq_flatMap, List.flatMap_cons, escape_eq_flatMap]

theorem escape_concat (value : Text) (point : CodePoint) :
    escape (value ++ [point]) = escape value ++ escapePoint point := by
  rw [escape_eq_flatMap, List.flatMap_append, List.flatMap_singleton, escape_eq_flatMap]

/-- Of the code points that have a pair, only the backslash is ever written. -/
theorem notMem_escape {point mark : CodePoint} (marked : mark? point = some mark)
    (other : point ≠ '\\') (value : Text) : point ∉ escape value := by
  rw [escape_eq_flatMap, List.mem_flatMap]
  rintro ⟨origin, -, member⟩
  cases written : mark? origin with
  | none =>
      rw [escapePoint_of_mark?_eq_none written, List.mem_singleton] at member
      rw [member, written] at marked
      cases marked
  | some _ =>
      rw [escapePoint_of_mark? written, List.mem_cons, List.mem_singleton] at member
      rcases member with same | rfl
      · exact other same
      · rcases mark?_cases written with ⟨-, rfl⟩ | ⟨-, rfl⟩ | ⟨-, rfl⟩
        · exact other rfl
        · cases marked
        · cases marked

theorem newline_notMem_escape (value : Text) : CodePoint.ofChar '\n' ∉ escape value :=
  notMem_escape rfl (by decide) value

theorem tab_notMem_escape (value : Text) : CodePoint.ofChar '\t' ∉ escape value :=
  notMem_escape rfl (by decide) value

theorem unescape_cons {point : CodePoint} (other : point ≠ '\\') (rest : Text) :
    unescape (point :: rest) = point :: unescape rest := by
  cases rest with
  | nil => rfl
  | cons next rest => rw [unescape, if_neg other]

theorem unescape_pair {mark point : CodePoint} (found : escaped? mark = some point)
    (rest : Text) : unescape ('\\' :: mark :: rest) = point :: unescape rest := by
  rw [unescape, if_pos rfl, found]

/-- Unescaping undoes escaping. -/
theorem unescape_escape (value : Text) : unescape (escape value) = value := by
  induction value with
  | nil => rfl
  | cons point rest ih =>
      rw [escape_cons]
      cases marked : mark? point with
      | none =>
          rw [escapePoint_of_mark?_eq_none marked, List.singleton_append,
            unescape_cons (ne_of_mark?_eq_none marked).1, ih]
      | some mark =>
          rw [escapePoint_of_mark? marked, List.cons_append, List.singleton_append,
            unescape_pair (escaped?_eq_some_iff.mpr marked), ih]

theorem unescape_eq_nil_iff (text : Text) : unescape text = [] ↔ text = [] := by
  fun_cases unescape text <;> simp_all

/-- A test that fails at the code points of the pairs and at those for which they stand. -/
def Uninvolved (test : CodePoint → Bool) : Prop :=
  ∀ point mark, mark? point = some mark → test point = false ∧ test mark = false

theorem uninvolved_of {test : CodePoint → Bool} (backslash : test '\\' = false)
    (newline : test '\n' = false) (tab : test '\t' = false) (n : test 'n' = false)
    (t : test 't' = false) : Uninvolved test := by
  intro point mark marked
  rcases mark?_cases marked with ⟨rfl, rfl⟩ | ⟨rfl, rfl⟩ | ⟨rfl, rfl⟩
  · exact ⟨backslash, backslash⟩
  · exact ⟨newline, n⟩
  · exact ⟨tab, t⟩

theorem endsWith_escape {test : CodePoint → Bool} (uninvolved : Uninvolved test) (value : Text) :
    Text.endsWith test (escape value) = Text.endsWith test value := by
  rcases List.eq_nil_or_concat' value with rfl | ⟨init, point, rfl⟩
  · rfl
  · rw [escape_concat, Text.endsWith_concat]
    cases marked : mark? point with
    | none => rw [escapePoint_of_mark?_eq_none marked, Text.endsWith_concat]
    | some mark =>
        rw [escapePoint_of_mark? marked, (uninvolved point mark marked).1,
          ← (uninvolved point mark marked).2]
        exact Text.endsWith_append (escape init) (List.cons_ne_nil _ _)

theorem beginsWith_unescape {test : CodePoint → Bool} (uninvolved : Uninvolved test)
    (text : Text) : Text.beginsWith test (unescape text) = Text.beginsWith test text := by
  have backslash : test '\\' = false := (uninvolved '\\' '\\' rfl).1
  fun_cases unescape text with
  | case3 mark rest meant found =>
      rw [Text.beginsWith_cons, Text.beginsWith_cons, backslash,
        (uninvolved meant mark (escaped?_eq_some_iff.mp found)).1]
  | _ => rfl

theorem endsWith_unescape {test : CodePoint → Bool} (uninvolved : Uninvolved test)
    (text : Text) : Text.endsWith test (unescape text) = Text.endsWith test text := by
  fun_induction unescape text with
  | case1 => rfl
  | case2 => rfl
  | case3 mark rest meant found ih =>
      obtain ⟨point, mark⟩ := uninvolved meant mark (escaped?_eq_some_iff.mp found)
      simp only [Text.endsWith_cons, unescape_eq_nil_iff, ih, point, mark]
      split <;> simp
  | case4 mark rest unmarked ih =>
      have nonempty := mt (unescape_eq_nil_iff (mark :: rest)).mp (List.cons_ne_nil _ _)
      rw [Text.endsWith_cons, if_neg nonempty, ih, Text.endsWith_cons (mark :: rest),
        if_neg (List.cons_ne_nil _ _)]
  | case5 point mark rest other ih =>
      have nonempty := mt (unescape_eq_nil_iff (mark :: rest)).mp (List.cons_ne_nil _ _)
      rw [Text.endsWith_cons, if_neg nonempty, ih, Text.endsWith_cons (mark :: rest),
        if_neg (List.cons_ne_nil _ _)]

theorem isBlank_eq_isSpace {point : CodePoint} (other : point ≠ '\t') :
    point.isBlank = point.isSpace := by
  simp [CodePoint.isBlank, CodePoint.isSpace, other]

theorem isSpace_uninvolved : Uninvolved CodePoint.isSpace :=
  uninvolved_of rfl rfl rfl rfl rfl

theorem dropWhile_escape (value : Text) :
    (escape value).dropWhile CodePoint.isBlank = escape (value.dropWhile CodePoint.isSpace) := by
  induction value with
  | nil => rfl
  | cons point rest ih =>
      rw [escape_cons, List.dropWhile_cons]
      cases marked : mark? point with
      | none =>
          rw [escapePoint_of_mark?_eq_none marked, List.singleton_append, List.dropWhile_cons,
            isBlank_eq_isSpace (ne_of_mark?_eq_none marked).2.2]
          split
          · exact ih
          · rw [escape_cons, escapePoint_of_mark?_eq_none marked, List.singleton_append]
      | some mark =>
          rw [if_neg (by simp [(isSpace_uninvolved point mark marked).1]), escape_cons,
            escapePoint_of_mark? marked]
          rfl

theorem trimEnd_escape (value : Text) :
    Text.trimEnd CodePoint.isBlank (escape value) =
      escape (Text.trimEnd CodePoint.isSpace value) := by
  induction value using List.reverseRecOn with
  | nil => rfl
  | append_singleton init point ih =>
      simp only [Text.trimEnd_eq_rdropWhile] at ih ⊢
      rw [escape_concat, List.rdropWhile_concat]
      cases marked : mark? point with
      | none =>
          rw [escapePoint_of_mark?_eq_none marked, List.rdropWhile_concat,
            isBlank_eq_isSpace (ne_of_mark?_eq_none marked).2.2]
          split
          · exact ih
          · rw [escape_concat, escapePoint_of_mark?_eq_none marked]
      | some mark =>
          have kept : mark.isBlank = false := by
            rcases mark?_cases marked with ⟨-, rfl⟩ | ⟨-, rfl⟩ | ⟨-, rfl⟩ <;> rfl
          rw [if_neg (by simp [(isSpace_uninvolved point mark marked).1]), escape_concat,
            escapePoint_of_mark? marked, List.append_cons, List.rdropWhile_concat_neg]
          simp [kept]

/-- Trimming an escaped value removes the spaces at the ends of the value. -/
theorem trimBlanks_escape (value : Text) :
    Text.trimBlanks (escape value) = escape (Text.trim CodePoint.isSpace value) := by
  rw [Text.trimBlanks, Text.trim, dropWhile_escape, trimEnd_escape, Text.trim]

theorem dropFinal_escape (value : Text) :
    Text.dropFinal '\r' (escape value) = escape (Text.dropFinal '\r' value) := by
  rcases List.eq_nil_or_concat' value with rfl | ⟨init, point, rfl⟩
  · rfl
  · by_cases same : point = '\r'
    · subst same
      rw [Text.dropFinal_concat_self, escape_concat]
      exact Text.dropFinal_concat_self (escape init)
    · have uninvolved : Uninvolved (· == CodePoint.ofChar '\r') :=
        uninvolved_of rfl rfl rfl rfl rfl
      have other : (init ++ [point]).getLast? ≠ some (CodePoint.ofChar '\r') := by
        simpa using same
      rw [Text.dropFinal_of_ne other, Text.dropFinal_of_ne]
      rwa [Ne, ← Text.endsWith_beq_iff, endsWith_escape uninvolved, Text.endsWith_beq_iff]

theorem isSurrogate_of_mark? {point mark : CodePoint} (marked : mark? point = some mark) :
    point.isSurrogate = false ∧ mark.isSurrogate = false := by
  rcases mark?_cases marked with ⟨rfl, rfl⟩ | ⟨rfl, rfl⟩ | ⟨rfl, rfl⟩ <;> decide

open Utf8 in
/-- A pair of code points that are no surrogates may stand for a single one. -/
theorem alike_pair {point mark : CodePoint} (marked : mark? point = some mark)
    {left right : Text} (alike : Alike left right) :
    Alike ('\\' :: mark :: left) (point :: right) := by
  obtain ⟨plain, plain'⟩ := isSurrogate_of_mark? marked
  refine alike_cons_of_plain rfl plain ?_ ?_
  · rw [encodable_cons_of_plain plain', alike.encodable_iff]
  · rw [stable_cons_of_plain plain', alike.stable_iff]

theorem alike_escape (value : Text) : Utf8.Alike (escape value) value := by
  induction value with
  | nil => exact Utf8.alike_nil
  | cons point rest ih =>
      rw [escape_cons]
      cases marked : mark? point with
      | none =>
          rw [escapePoint_of_mark?_eq_none marked]
          exact ih.cons point
      | some mark =>
          rw [escapePoint_of_mark? marked]
          exact alike_pair marked ih

theorem alike_unescape (text : Text) : Utf8.Alike text (unescape text) := by
  fun_induction unescape text with
  | case1 => exact Utf8.alike_nil
  | case2 last => exact Utf8.alike_nil.cons last
  | case3 mark rest meant found ih => exact alike_pair (escaped?_eq_some_iff.mp found) ih
  | case4 mark rest unmarked ih => exact ih.cons _
  | case5 point mark rest other ih => exact ih.cons point

end Settings

end Startup
