import Startup.Proofs.Settings.Effects
import Startup.Proofs.Settings.Line
import Startup.Proofs.Text.Pieces

/-!
# What a file can put into a table

Whatever a file holds, the section names and keys that it brings are fragments of its lines, and so
are its values up to escaping. Keys are not empty, hold no equals sign and end in no blank; values
neither begin nor end with a space. Since the text of a file is stable, all its fragments are.
-/

namespace Startup.Settings

/-- An entry as files bring it about. -/
structure LoadedEntry (key value : Text) : Prop where
  nonempty : key ≠ []
  newline : CodePoint.ofChar '\n' ∉ key
  equals : CodePoint.ofChar '=' ∉ key
  last : Text.endsWith CodePoint.isBlank key = false
  valueFirst : Text.beginsWith CodePoint.isSpace value = false
  valueLast : Text.endsWith CodePoint.isSpace value = false

namespace Effect

/-- An effect whose texts stand in some lines; its section may also be the one at hand. -/
def From (current : Text) (lines : List Text) : Effect → Prop
  | opened name => ∃ line ∈ lines, name <:+: line
  | stored name key value =>
      (name = current ∨ ∃ line ∈ lines, name <:+: line) ∧
        ∃ line ∈ lines, ∃ found, ReadFrom line found ∧ found.key = key ∧
          unescape found.value = value

theorem From.cons {current name line : Text} {lines : List Text} {effect : Effect}
    (named : name = current ∨ name <:+: line) (origin : effect.From name lines) :
    effect.From current (line :: lines) := by
  cases effect with
  | opened other =>
      obtain ⟨piece, inside, within⟩ := origin
      exact ⟨piece, List.mem_cons_of_mem _ inside, within⟩
  | stored other key value =>
      obtain ⟨origin, piece, inside, found⟩ := origin
      refine ⟨?_, piece, List.mem_cons_of_mem _ inside, found⟩
      rcases origin with rfl | ⟨piece, inside, within⟩
      · exact named.imp_right fun within => ⟨line, List.mem_cons_self, within⟩
      · exact Or.inr ⟨piece, List.mem_cons_of_mem _ inside, within⟩

theorem From.section_isInfix {current : Text} {lines : List Text} {effect : Effect}
    (origin : effect.From current lines) :
    effect.sectionName = current ∨ ∃ line ∈ lines, effect.sectionName <:+: line := by
  cases effect with
  | opened name => exact Or.inr origin
  | stored name key value => exact origin.1

end Effect

/-- Everything that lines do comes from their fragments. -/
theorem from_of_mem_effectsFrom {current : Text} {lines : List Text} {effect : Effect}
    (member : effect ∈ effectsFrom current (lines.map Line.read)) : effect.From current lines := by
  induction lines generalizing current with
  | nil => cases member
  | cons line rest ih =>
      rw [List.map_cons] at member
      cases read : Line.read line with
      | skipped =>
          rw [read, effectsFrom] at member
          exact (ih member).cons (Or.inl rfl)
      | invalid text =>
          rw [read, effectsFrom] at member
          exact (ih member).cons (Or.inl rfl)
      | header name =>
          rw [read, effectsFrom, List.mem_cons] at member
          have within := isInfix_of_read_header read
          rcases member with rfl | later
          · exact ⟨line, List.mem_cons_self, within⟩
          · exact (ih later).cons (Or.inr within)
      | assignment found =>
          rw [read, effectsFrom, List.mem_cons] at member
          have origin := readFrom_of_read read
          have named : (if found.sectionName = [] then current else found.sectionName) = current ∨
              (if found.sectionName = [] then current else found.sectionName) <:+: line := by
            split
            · exact Or.inl rfl
            · exact Or.inr origin.section_isInfix
          rcases member with rfl | later
          · exact ⟨named.imp_right fun within => ⟨line, List.mem_cons_self, within⟩,
              line, List.mem_cons_self, found, origin, rfl, rfl⟩
          · exact (ih later).cons named

theorem section_of_load {content name : Text}
    (present : OrderedMap.contains (load ∅ content) name = true) :
    name = [] ∨ ∃ line ∈ Text.split '\n' content, name <:+: line := by
  rw [load_eq_applyAll, contains_applyAll] at present
  rcases present with ⟨effect, member, rfl⟩ | impossible
  · exact (from_of_mem_effectsFrom member).section_isInfix
  · cases impossible

theorem entry_of_load {content name key value : Text}
    (found : (load ∅ content).value? name key = some value) :
    ∃ line ∈ Text.split '\n' content, ∃ assigned, ReadFrom line assigned ∧ assigned.key = key ∧
      unescape assigned.value = value := by
  rw [load_eq_applyAll, value?_applyAll, value?_empty, Option.or_none] at found
  exact (from_of_mem_effectsFrom (mem_of_lastValue? found)).2

theorem ReadFrom.value_space {line : Text} {found : Assignment} (origin : ReadFrom line found) :
    Text.beginsWith CodePoint.isSpace (unescape found.value) = false ∧
      Text.endsWith CodePoint.isSpace (unescape found.value) = false := by
  rw [beginsWith_unescape isSpace_uninvolved, endsWith_unescape isSpace_uninvolved]
  have weaker : ∀ point : CodePoint, point.isSpace = true → point.isBlank = true := by
    intro point space
    rw [CodePoint.isBlank, ← CodePoint.isSpace, space, Bool.true_or]
  exact ⟨Text.beginsWith_eq_false_of_imp weaker origin.valueFirst,
    Text.endsWith_eq_false_of_imp weaker origin.valueLast⟩

/-- The entries of every table that a file fills. -/
theorem loadedEntry_load (content : Text) : (load ∅ content).Everywhere OnLine LoadedEntry := by
  rw [everywhere_iff]
  constructor
  · intro name present
    rcases section_of_load present with rfl | ⟨line, piece, within⟩
    · exact List.not_mem_nil
    · exact fun member => Text.notMem_of_mem_split piece (within.subset member)
  · intro name key value found
    obtain ⟨line, piece, assigned, origin, rfl, rfl⟩ := entry_of_load found
    exact ⟨origin.nonempty,
      fun member => Text.notMem_of_mem_split piece (origin.key_isInfix.subset member),
      origin.equals, origin.last, origin.value_space.1, origin.value_space.2⟩

/-- A table that is filled from a stable text holds stable texts only. -/
theorem allTexts_stable_load {content : Text} (stable : Utf8.Stable content) :
    (load ∅ content).AllTexts Utf8.Stable := by
  have pieces : ∀ line ∈ Text.split '\n' content, Utf8.Stable line := fun line piece =>
    stable.of_isInfix (Text.isInfix_of_mem_split piece)
  refine everywhere_iff.mpr ⟨?_, ?_⟩
  · intro name present
    rcases section_of_load present with rfl | ⟨line, piece, within⟩
    · exact Utf8.stable_nil
    · exact (pieces line piece).of_isInfix within
  · intro name key value found
    obtain ⟨line, piece, assigned, origin, rfl, rfl⟩ := entry_of_load found
    exact ⟨(pieces line piece).of_isInfix origin.key_isInfix,
      (alike_unescape _).stable_iff.mp ((pieces line piece).of_isInfix origin.value_isInfix)⟩

/-- A file brings in nothing that cannot be encoded, whatever its bytes are. -/
theorem allTexts_encodable_load {settings : Settings} (encodable : settings.AllTexts Utf8.Encodable)
    (bytes : Bytes) : (settings.load (Utf8.decode bytes)).AllTexts Utf8.Encodable := by
  have stable : (load ∅ (Utf8.decode bytes)).AllTexts Utf8.Stable :=
    allTexts_stable_load (Utf8.stable_decode bytes)
  exact encodable.load_over
    (stable.imp (fun _ name => name.encodable) fun _ _ both => ⟨both.1.encodable, both.2.encodable⟩)

end Startup.Settings
