import Startup.Proofs.Settings.Escape
import Mathlib.Data.Set.Function

/-!
# Well-escaped texts

Not every text is the escaped form of a value: a backslash may stand alone, or a newline or a tab
may stand as it is. A text is well escaped if neither happens. Reading such a text and writing it
again gives it back, and it is the only kind of text for which that holds, so values and well-escaped
texts correspond one to one.
-/

namespace Startup.Settings

/-- Texts that can be read from left to right in steps of one code point or one pair, where every
backslash starts a pair that stands for something. -/
inductive Paired : Text → Prop where
  | nil : Paired []
  | plain {point : CodePoint} {rest : Text} (other : point ≠ '\\') (paired : Paired rest) :
      Paired (point :: rest)
  | pair {mark : CodePoint} {rest : Text} (known : mark = '\\' ∨ mark = 'n' ∨ mark = 't')
      (paired : Paired rest) : Paired ('\\' :: mark :: rest)

/-- The form of an escaped value. -/
structure WellEscaped (text : Text) : Prop where
  newline : CodePoint.ofChar '\n' ∉ text
  tab : CodePoint.ofChar '\t' ∉ text
  paired : Paired text

theorem paired_of_notMem {text : Text} (free : CodePoint.ofChar '\\' ∉ text) : Paired text := by
  induction text with
  | nil => exact .nil
  | cons point rest ih =>
      exact .plain (List.ne_of_not_mem_cons free).symm (ih (List.not_mem_of_not_mem_cons free))

theorem known_of_mark? {point mark : CodePoint} (marked : mark? point = some mark) :
    mark = '\\' ∨ mark = 'n' ∨ mark = 't' := by
  rcases mark?_cases marked with ⟨-, same⟩ | ⟨-, same⟩ | ⟨-, same⟩
  · exact Or.inl same
  · exact Or.inr (Or.inl same)
  · exact Or.inr (Or.inr same)

theorem paired_escape (value : Text) : Paired (escape value) := by
  induction value with
  | nil => exact .nil
  | cons point rest ih =>
      rw [escape_cons]
      cases marked : mark? point with
      | none =>
          rw [escapePoint_of_mark?_eq_none marked]
          exact .plain (ne_of_mark?_eq_none marked).1 ih
      | some mark =>
          rw [escapePoint_of_mark? marked]
          exact .pair (known_of_mark? marked) ih

theorem wellEscaped_escape (value : Text) : WellEscaped (escape value) where
  newline := newline_notMem_escape value
  tab := tab_notMem_escape value
  paired := paired_escape value

theorem exists_escaped {mark : CodePoint} (known : mark = '\\' ∨ mark = 'n' ∨ mark = 't') :
    ∃ point, escaped? mark = some point := by
  rcases known with rfl | rfl | rfl
  · exact ⟨'\\', rfl⟩
  · exact ⟨'\n', rfl⟩
  · exact ⟨'\t', rfl⟩

theorem mark?_eq_none {point : CodePoint} (backslash : point ≠ '\\') (newline : point ≠ '\n')
    (tab : point ≠ '\t') : mark? point = none := by
  rw [mark?, if_neg backslash, if_neg newline, if_neg tab]

theorem Paired.escape_unescape {text : Text} (paired : Paired text)
    (newline : CodePoint.ofChar '\n' ∉ text) (tab : CodePoint.ofChar '\t' ∉ text) :
    escape (unescape text) = text := by
  induction paired with
  | nil => rfl
  | @plain point rest other paired ih =>
      have unmarked := mark?_eq_none other (List.ne_of_not_mem_cons newline).symm
        (List.ne_of_not_mem_cons tab).symm
      have inner := ih (List.not_mem_of_not_mem_cons newline) (List.not_mem_of_not_mem_cons tab)
      rw [unescape_cons other, escape_cons, escapePoint_of_mark?_eq_none unmarked, inner,
        List.singleton_append]
  | @pair mark rest known paired ih =>
      obtain ⟨point, found⟩ := exists_escaped known
      have inner := ih
        (List.not_mem_of_not_mem_cons (List.not_mem_of_not_mem_cons newline))
        (List.not_mem_of_not_mem_cons (List.not_mem_of_not_mem_cons tab))
      rw [unescape_pair found, escape_cons, escapePoint_of_mark? (escaped?_eq_some_iff.mp found),
        inner, List.cons_append, List.singleton_append]

theorem escape_unescape_eq_iff (text : Text) :
    escape (unescape text) = text ↔ WellEscaped text := by
  constructor
  · intro same
    rw [← same]
    exact wellEscaped_escape (unescape text)
  · intro form
    exact form.paired.escape_unescape form.newline form.tab

/-- Values and well-escaped texts correspond one to one: each value comes back from its escaped
form, and a text comes back from its value exactly when it is well escaped. -/
theorem bijOn_escape_wellEscaped :
    (∀ value, unescape (escape value) = value) ∧
      (∀ text, escape (unescape text) = text ↔
        CodePoint.ofChar '\n' ∉ text ∧ CodePoint.ofChar '\t' ∉ text ∧ Paired text) ∧
      Set.BijOn escape Set.univ { text | WellEscaped text } := by
  refine ⟨unescape_escape, fun text => ?_, ?_, ?_, ?_⟩
  · rw [escape_unescape_eq_iff]
    exact ⟨fun form => ⟨form.newline, form.tab, form.paired⟩,
      fun ⟨newline, tab, paired⟩ => ⟨newline, tab, paired⟩⟩
  · intro value _
    exact wellEscaped_escape value
  · intro value _ other _ same
    rw [← unescape_escape value, same, unescape_escape]
  · intro text form
    exact ⟨unescape text, Set.mem_univ _, (escape_unescape_eq_iff text).mpr form⟩

/-- A backslash that stands alone is doubled when the value is written again. -/
example : escape (unescape ['\\', 'x']) = ['\\', '\\', 'x'] := by decide

end Startup.Settings
