import Startup.Proofs.Settings.Loaded
import Startup.Proofs.Settings.Render
import Startup.Settings.File

/-!
# Saving and loading again

Saving a table and loading the file gives the table back exactly when it is representable: the
entries fit their lines and the texts are stable. A table that was loaded from a file is not always
representable, since a line can bring in keys and values that no line of a saved file gives back.
-/

namespace Startup.Settings

/-- A property that a text has when the parts around its characters have it. -/
structure Piecewise (holds : Text → Prop) : Prop where
  nil : holds []
  append_cons : ∀ point : CodePoint, point.isSurrogate = false → ∀ {left right : Text},
    holds left → holds right → holds (left ++ point :: right)
  escape : ∀ {value : Text}, holds value → holds (escape value)

theorem piecewise_encodable : Piecewise Utf8.Encodable where
  nil := Utf8.encodable_nil
  append_cons _ plain _ _ left right :=
    Utf8.encodable_append.mpr ⟨left, (Utf8.encodable_cons_of_plain plain).mpr right⟩
  escape := (alike_escape _).encodable_iff.mpr

theorem piecewise_stable : Piecewise Utf8.Stable where
  nil := Utf8.stable_nil
  append_cons _ plain _ _ left right := (Utf8.stable_append_cons plain).mpr ⟨left, right⟩
  escape := (alike_escape _).stable_iff.mpr

section Piecewise

variable {holds : Text → Prop} (piecewise : Piecewise holds)

include piecewise

theorem Piecewise.plain {text : Text} (plain : ∀ point ∈ text, point.isSurrogate = false) :
    holds text := by
  induction text with
  | nil => exact piecewise.nil
  | cons point rest ih =>
      rw [List.forall_mem_cons] at plain
      exact piecewise.append_cons point plain.1 piecewise.nil (ih plain.2)

theorem Piecewise.join {pieces : List Text} (all : ∀ piece ∈ pieces, holds piece) :
    holds (Text.join ['\n'] pieces) := by
  fun_induction Text.join ['\n'] pieces with
  | case1 => exact piecewise.nil
  | case2 piece => exact all piece List.mem_cons_self
  | case3 piece next pieces ih =>
      rw [List.forall_mem_cons] at all
      rw [List.append_assoc, List.singleton_append]
      exact piecewise.append_cons '\n' rfl all.1 (ih all.2)

theorem Piecewise.assignmentLine {key value : Text} (onKey : holds key) (onValue : holds value) :
    holds (assignmentLine (key, value)) := by
  have right := piecewise.append_cons ' ' rfl piecewise.nil (piecewise.escape onValue)
  rw [assignmentLine_eq]
  exact piecewise.append_cons ' ' rfl onKey (piecewise.append_cons '=' rfl piecewise.nil right)

theorem Piecewise.lines {settings : Settings} (all : settings.AllTexts holds) {line : Text}
    (member : line ∈ settings.lines) : holds line := by
  have comments : ∀ comment ∈ fileHeader, ∀ point ∈ comment, point.isSurrogate = false := by decide
  rcases mem_lines_cases member with header | rfl | ⟨group, grouped, rfl⟩ |
    ⟨group, grouped, ⟨key, value⟩, inner, rfl⟩
  · exact piecewise.plain (comments line header)
  · exact piecewise.nil
  · have closed : holds (group.1 ++ [CodePoint.ofChar ']']) :=
      piecewise.append_cons ']' rfl (all group grouped).1 piecewise.nil
    exact piecewise.append_cons '[' rfl piecewise.nil closed
  · obtain ⟨onKey, onValue⟩ := (all group grouped).2 _ inner
    exact piecewise.assignmentLine onKey onValue

theorem Piecewise.render {settings : Settings} (all : settings.AllTexts holds) :
    holds settings.render :=
  piecewise.join fun _ member => piecewise.lines all member

end Piecewise

/-- The table that results from loading the file of a table into an empty one, if the file can be
encoded. -/
def reload? (settings : Settings) : Option Settings :=
  settings.bytes?.map fun bytes => load ∅ (Utf8.decode bytes)

theorem exists_reload? {settings : Settings} (encodable : settings.AllTexts Utf8.Encodable) :
    ∃ loaded, settings.reload? = some loaded := by
  obtain ⟨bytes, encoded⟩ := Option.isSome_iff_exists.mp (piecewise_encodable.render encodable)
  exact ⟨load ∅ (Utf8.decode bytes), by rw [reload?, bytes?, encoded, Option.map_some]⟩

/-- A reloaded table is what some bytes say. -/
theorem exists_bytes_of_reload? {settings loaded : Settings}
    (reloaded : settings.reload? = some loaded) :
    ∃ bytes, loaded = load ∅ (Utf8.decode bytes) := by
  obtain ⟨bytes, -, rfl⟩ := Option.map_eq_some_iff.mp reloaded
  exact ⟨bytes, rfl⟩

/-- When the texts are stable, the file is loaded as it was rendered. -/
theorem reload?_of_stable {settings : Settings} (stable : settings.AllTexts Utf8.Stable) :
    settings.reload? = some (load ∅ settings.render) := by
  obtain ⟨bytes, encoded, decoded⟩ := Utf8.stable_iff_exists.mp (piecewise_stable.render stable)
  rw [reload?, bytes?, encoded, Option.map_some, decoded]

/-- A table that a file can hold. -/
@[mk_iff]
structure Representable (settings : Settings) : Prop where
  entries : settings.Everywhere OnLine PlainEntry
  stable : settings.AllTexts Utf8.Stable

instance (settings : Settings) : Decidable settings.Representable :=
  decidable_of_iff _ (representable_iff settings).symm

theorem same_of_representable {settings : Settings} (representable : settings.Representable) :
    (load ∅ settings.render).Same settings := by
  have legible : settings.Legible :=
    representable.entries.imp (fun _ name => name) fun _ _ plain => plain.legibleEntry
  intro name
  refine ⟨contains_load_render legible name, fun key => ?_⟩
  rw [value?_load_render legible]
  cases found : settings.value? name key with
  | none => rfl
  | some value =>
      have plain := (everywhere_iff.mp representable.entries).2 name key value found
      rw [Option.map_some, plain.plainValue.keptValue]

/-- A table that comes back was representable: its texts came out of bytes, so the file was read as
it was rendered, and a file from which an entry cannot be read back holds too little. -/
theorem representable_of_same {settings loaded : Settings}
    (reloaded : settings.reload? = some loaded) (same : loaded.Same settings) :
    settings.Representable := by
  obtain ⟨bytes, rfl⟩ := exists_bytes_of_reload? reloaded
  have stable : settings.AllTexts Utf8.Stable :=
    same.everywhere (allTexts_stable_load (Utf8.stable_decode bytes))
  have image := same.everywhere (loadedEntry_load (Utf8.decode bytes))
  rw [reload?_of_stable stable] at reloaded
  obtain reloaded := Option.some.inj reloaded
  have free := image.imp (fun _ name => name) fun _ _ entry => And.intro entry.newline entry.equals
  refine ⟨(plainEntry_or_size_lt free).resolve_right ?_, stable⟩
  rw [reloaded, same.size_eq]
  exact lt_irrefl _

theorem same_iff_representable {settings loaded : Settings}
    (reloaded : settings.reload? = some loaded) :
    loaded.Same settings ↔ settings.Representable := by
  constructor
  · exact representable_of_same reloaded
  · intro representable
    rw [reload?_of_stable representable.stable] at reloaded
    obtain rfl := Option.some.inj reloaded
    exact same_of_representable representable

/-- Saving and loading is the identity exactly on the representable tables. -/
theorem reload?_same_iff_representable (settings : Settings)
    (encodable : settings.AllTexts Utf8.Encodable) :
    ∃ loaded, settings.reload? = some loaded ∧ (loaded.Same settings ↔ settings.Representable) := by
  obtain ⟨loaded, reloaded⟩ := exists_reload? encodable
  exact ⟨loaded, reloaded, same_iff_representable reloaded⟩

/-- A table with an empty section, the section without a name, and a value on several lines. -/
def varied : Settings :=
  OrderedMap.ofList
    [("log", ∅), ([], OrderedMap.ofList [("title", "[a = b]\n# c\t")]),
      ("x.y", OrderedMap.ofList [("[z", "\\n"), ("é", [])])]

theorem reload?_varied : ∃ loaded, varied.reload? = some loaded ∧ loaded.Same varied := by
  obtain ⟨loaded, reloaded, same⟩ := reload?_same_iff_representable varied (by decide)
  exact ⟨loaded, reloaded, same.mpr (by decide)⟩

/-- An entry of a loaded table that the line for it would give back. -/
structure Rewritable (key value : Text) : Prop where
  point : CodePoint.ofChar '.' ∉ key
  first : Text.beginsWith CodePoint.isBlank key = false
  comment : Text.beginsWith isCommentMark key = false
  noReturn : Text.endsWith isReturn value = false
  noBrackets : (Text.beginsWith isOpening key && Text.endsWith isClosing value) = false

theorem LoadedEntry.plainEntry_iff {key value : Text} (loaded : LoadedEntry key value) :
    PlainEntry key value ↔ Rewritable key value := by
  constructor
  · intro plain
    exact ⟨plain.plainKey.point, plain.plainKey.first, plain.plainKey.comment,
      plain.plainValue.noReturn, plain.noBrackets⟩
  · intro kept
    exact ⟨⟨loaded.nonempty, loaded.newline, loaded.equals, kept.point, kept.first, loaded.last,
      kept.comment⟩, ⟨loaded.valueFirst, loaded.valueLast, kept.noReturn⟩, kept.noBrackets⟩

theorem representable_load_iff (bytes : Bytes) :
    (load ∅ (Utf8.decode bytes)).Representable ↔
      (load ∅ (Utf8.decode bytes)).Everywhere (fun _ => True) Rewritable := by
  have image := loadedEntry_load (Utf8.decode bytes)
  constructor
  · intro representable
    exact (image.and representable.entries).imp (fun _ _ => trivial)
      fun _ _ both => both.1.plainEntry_iff.mp both.2
  · intro kept
    exact ⟨(image.and kept).imp (fun _ both => both.1)
      fun _ _ both => both.1.plainEntry_iff.mpr both.2,
      allTexts_stable_load (Utf8.stable_decode bytes)⟩

/-- A table that comes from a file comes back exactly when no key holds a point or begins with a
blank or a comment mark, no value ends in a carriage return, and no entry stands in brackets. -/
theorem reload?_load_same_iff (bytes : Bytes) :
    ∃ again, (load ∅ (Utf8.decode bytes)).reload? = some again ∧
      (again.Same (load ∅ (Utf8.decode bytes)) ↔
        (load ∅ (Utf8.decode bytes)).Everywhere (fun _ => True) Rewritable) := by
  have stable := allTexts_stable_load (Utf8.stable_decode bytes)
  have reloaded := reload?_of_stable stable
  exact ⟨_, reloaded, (same_iff_representable reloaded).trans (representable_load_iff bytes)⟩

def twoPoints : Bytes :=
  (Utf8.encode? "a.b.c = 1\n").getD []

/-- The second point of a key moves its entry to another section. -/
theorem not_same_reload?_twoPoints :
    ¬ ∃ again, (load ∅ (Utf8.decode twoPoints)).reload? = some again ∧
      again.Same (load ∅ (Utf8.decode twoPoints)) := by
  rintro ⟨again, reloaded, same⟩
  exact absurd (representable_of_same reloaded same) (by decide)

end Startup.Settings
