import Startup.Proofs.Settings.Layout

/-!
# The grammar of assignments

An assignment is a name and a value around an equals sign, each with blanks on both sides. The name
is a key, or a section and a key around a point. Lines of this form are read, and no others.

The grammar is unambiguous: the name ends at the first equals sign and the section at the first point
of the name, while the blanks around name and value belong to neither.
-/

namespace Startup.Settings

/-- What a name says: a key alone belongs to no section, and a section goes up to the first point.
-/
inductive Names : Text → Text → Text → Prop where
  | key {key : Text} (plain : CodePoint.ofChar '.' ∉ key) : Names key [] key
  | dotted {sectionName key : Text} (first : CodePoint.ofChar '.' ∉ sectionName) :
      Names (sectionName ++ CodePoint.ofChar '.' :: key) sectionName key

theorem splitKey_eq_iff {name sectionName key : Text} :
    Assignment.splitKey name = (sectionName, key) ↔ Names name sectionName key := by
  constructor
  · intro parts
    unfold Assignment.splitKey at parts
    cases cut : Text.cut? '.' name with
    | none =>
        rw [cut, Option.getD_none, Prod.mk.injEq] at parts
        obtain ⟨rfl, rfl⟩ := parts
        exact .key (Text.cut?_eq_none_iff.mp cut)
    | some pair =>
        rw [cut, Option.getD_some] at parts
        obtain ⟨rfl, first⟩ := Text.cut?_eq_some_iff.mp (cut.trans (congrArg some parts))
        exact .dotted first
  · intro names
    cases names with
    | key plain => exact splitKey_of_notMem plain
    | dotted first =>
        rw [Assignment.splitKey, Text.cut?_eq_some_iff.mpr ⟨rfl, first⟩, Option.getD_some]

/-- A text that neither begins nor ends with a space or a tab. -/
structure Unpadded (text : Text) : Prop where
  first : Text.beginsWith CodePoint.isBlank text = false
  last : Text.endsWith CodePoint.isBlank text = false

/-- The text within some blanks is what trimming leaves. -/
theorem trimBlanks_eq_iff {text kept : Text} :
    Text.trimBlanks text = kept ↔
      Unpadded kept ∧ ∃ before after, Blanks before ∧ Blanks after ∧
        text = before ++ kept ++ after := by
  constructor
  · rintro rfl
    obtain ⟨before, after, whole, early, late⟩ := Text.exists_append_trim CodePoint.isBlank text
    exact ⟨⟨Text.beginsWith_trim text, Text.endsWith_trim text⟩, before, after, early, late, whole⟩
  · rintro ⟨unpadded, before, after, early, late, rfl⟩
    rw [Text.trimBlanks, Text.trim_append_right late, Text.trim_append_left early]
    exact Text.trim_eq_self_iff.mpr ⟨unpadded.first, unpadded.last⟩

theorem Blanks.notMem {blanks : Text} (blank : Blanks blanks) {point : CodePoint}
    (other : point.isBlank = false) : point ∉ blanks :=
  fun member => absurd (blank point member) (Bool.eq_false_iff.mp other)

/-- A line of the form that an assignment has, and what it assigns. -/
inductive Assigns : Text → Assignment → Prop where
  | intro {before name left right value after sectionName key : Text}
      (outer : Blanks before ∧ Blanks after) (inner : Blanks left ∧ Blanks right)
      (unpaddedName : Unpadded name) (unpaddedValue : Unpadded value)
      (equals : CodePoint.ofChar '=' ∉ name) (names : Names name sectionName key)
      (nonempty : key ≠ []) :
      Assigns (before ++ name ++ left ++ CodePoint.ofChar '=' :: (right ++ value ++ after))
        ⟨sectionName, key, value⟩

theorem assigns_of_read? {line : Text} {found : Assignment}
    (read : Assignment.read? line = some found) : Assigns line found := by
  obtain ⟨name, value, cut, nonempty, parts, trimmed⟩ := exists_cut?_of_read? read
  obtain ⟨rfl, free⟩ := Text.cut?_eq_some_iff.mp cut
  obtain ⟨unpaddedName, before, left, blankBefore, blankLeft, wholeName⟩ :=
    trimBlanks_eq_iff.mp (rfl : Text.trimBlanks name = _)
  obtain ⟨unpaddedValue, right, after, blankRight, blankAfter, wholeValue⟩ :=
    trimBlanks_eq_iff.mp trimmed.symm
  have equals : CodePoint.ofChar '=' ∉ Text.trimBlanks name := fun member =>
    free ((Text.trim_isInfix name).subset member)
  rw [wholeName, wholeValue]
  exact .intro ⟨blankBefore, blankAfter⟩ ⟨blankLeft, blankRight⟩ unpaddedName unpaddedValue equals
    (splitKey_eq_iff.mp parts) nonempty

theorem Assigns.read? {line : Text} {found : Assignment} (assigns : Assigns line found) :
    Assignment.read? line = some found := by
  cases assigns with
  | @intro before name left right value after sectionName key outer inner unpaddedName
      unpaddedValue equals names nonempty =>
      have noBlank : CodePoint.isBlank '=' = false := rfl
      have free : CodePoint.ofChar '=' ∉ before ++ name ++ left := by
        simp only [List.mem_append, not_or]
        exact ⟨⟨outer.1.notMem noBlank, equals⟩, inner.1.notMem noBlank⟩
      have trimmedName : Text.trimBlanks (before ++ name ++ left) = name :=
        trimBlanks_eq_iff.mpr ⟨unpaddedName, before, left, outer.1, inner.1, rfl⟩
      have trimmedValue : Text.trimBlanks (right ++ value ++ after) = value :=
        trimBlanks_eq_iff.mpr ⟨unpaddedValue, right, after, inner.2, outer.2, rfl⟩
      rw [Assignment.read?, Text.cut?_eq_some_iff.mpr ⟨rfl, free⟩]
      simp only [trimmedName, trimmedValue, splitKey_eq_iff.mpr names, if_neg nonempty]

/-- A line is read as an assignment exactly when it has the form of one; otherwise it is refused,
and it never has the form of two. -/
theorem read?_iff_assigns (line : Text) :
    (∀ found, Assignment.read? line = some found ↔ Assigns line found) ∧
      (Assignment.read? line = none ↔ ∀ found, ¬ Assigns line found) ∧
      ∀ found other, Assigns line found → Assigns line other → found = other := by
  have accepts : ∀ found, Assignment.read? line = some found ↔ Assigns line found :=
    fun found => ⟨assigns_of_read?, Assigns.read?⟩
  refine ⟨accepts, ?_, fun found other assigns assigns' => ?_⟩
  · rw [Option.eq_none_iff_forall_ne_some]
    exact forall_congr' fun found => not_congr (accepts found)
  · exact Option.some.inj (assigns.read?.symm.trans assigns'.read?)

/-- A line with several points and equals signs, whose section is empty. -/
def crowdedLine : Text := "\t.a. b = c=.d \t"

theorem read?_crowdedLine :
    Assigns crowdedLine ⟨[], "a. b", "c=.d"⟩ ∧
      ∀ other, Assigns crowdedLine other → other = ⟨[], "a. b", "c=.d"⟩ := by
  obtain ⟨accepts, -, unique⟩ := read?_iff_assigns crowdedLine
  have assigns : Assigns crowdedLine ⟨[], "a. b", "c=.d"⟩ := (accepts _).mp (by decide)
  exact ⟨assigns, fun other assigns' => unique other _ assigns' assigns⟩

end Startup.Settings
