import Startup.Proofs.Files.Tree
import Startup.Proofs.Text.Pieces
import Startup.Proofs.Text.Utf8

/-!
# Where paths lead

The system takes a path if it can be encoded and holds no zero, and it follows it through existing
directories. Where a path with a longer last name leads to a name in a directory, the path itself
leads to that directory too, since its names and its text are shorter.
-/

namespace Startup

namespace Path

theorem join_concat (separator suffix last : Text) (above : List Text) :
    Text.join separator (above ++ [last ++ suffix]) =
      Text.join separator (above ++ [last]) ++ suffix := by
  induction above with
  | nil => rfl
  | cons name rest ih =>
      cases rest with
      | nil => simp [Text.join]
      | cons next others =>
          simp only [List.cons_append, Text.join, List.append_assoc] at ih ⊢
          rw [ih]

theorem join_isPrefix (separator last : Text) (above : List Text) :
    Text.join separator above <+: Text.join separator (above ++ [last]) := by
  induction above with
  | nil => exact List.nil_prefix
  | cons name rest ih =>
      cases rest with
      | nil => exact ⟨separator ++ last, by simp [Text.join]⟩
      | cons next others =>
          simp only [List.cons_append, Text.join, List.append_assoc] at ih ⊢
          exact (List.prefix_append_right_inj name).mpr
            ((List.prefix_append_right_inj separator).mpr ih)

theorem exists_of_withSuffix? {path longer : Path} {suffix : Text}
    (extended : path.withSuffix? suffix = some longer) :
    ∃ above last, path = ⟨path.start, above ++ [last]⟩ ∧
      longer = ⟨path.start, above ++ [last ++ suffix]⟩ := by
  unfold withSuffix? name at extended
  split at extended
  next => cases extended
  next nonempty =>
    have last := List.getLast?_eq_some_getLast nonempty
    rw [last, Option.getD_some, Option.some.injEq] at extended
    refine ⟨path.names.dropLast, path.names.getLast nonempty, ?_, extended.symm⟩
    rw [List.dropLast_append_getLast]

theorem text_concat (start : Start) (above : List Text) (last : Text) :
    text ⟨start, above ++ [last]⟩ = start.text ++ Text.join "/" (above ++ [last]) := by
  rw [text, if_neg]
  intro same
  have empty : above ++ [last] = [] := congrArg Path.names same
  simp at empty

/-- The text of a directory continues in the texts of the paths to what is in it. Only the working
directory has a text of its own. -/
theorem text_isPrefix {start : Start} {above : List Text} (apart : ⟨start, above⟩ ≠ here)
    (last : Text) : text ⟨start, above⟩ <+: text ⟨start, above ++ [last]⟩ := by
  rw [text_concat, text, if_neg apart]
  exact (List.prefix_append_right_inj _).mpr (join_isPrefix "/" last above)

theorem text_of_withSuffix? {path longer : Path} {suffix : Text}
    (extended : path.withSuffix? suffix = some longer) : longer.text = path.text ++ suffix := by
  obtain ⟨above, last, whole, rfl⟩ := exists_of_withSuffix? extended
  rw [whole, text_concat, text_concat, join_concat, List.append_assoc]

def stored (name : Text) : Bytes :=
  (Utf8.encode? name).getD []

theorem stored_append {left right : Text} (encodable : Utf8.Encodable (left ++ right)) :
    stored (left ++ right) = stored left ++ stored right := by
  obtain ⟨onLeft, onRight⟩ := Utf8.encodable_append.mp encodable
  obtain ⟨bytes, encoded⟩ := Option.isSome_iff_exists.mp onLeft
  obtain ⟨more, encoded'⟩ := Option.isSome_iff_exists.mp onRight
  rw [stored, stored, stored, Utf8.encode?_append, encoded, encoded']
  rfl

theorem systemNames_eq_ok_iff {path : Path} {names : List Bytes} :
    path.systemNames = .ok names ↔
      Utf8.Encodable path.text ∧ path.text.any (·.toNat == 0) = false ∧
        path.names.map stored = names := by
  unfold systemNames
  rw [← Utf8.unencodable?_eq_none_iff]
  cases Utf8.unencodable? path.text with
  | some place => simp
  | none =>
      cases path.text.any (·.toNat == 0) with
      | true => simp
      | false =>
          simp only [Bool.false_eq_true, if_false, Except.ok.injEq, true_and]
          exact Iff.rfl

theorem encodable_last {start : Start} {above : List Text} {last : Text}
    (encodable : Utf8.Encodable (text ⟨start, above ++ [last]⟩)) : Utf8.Encodable last := by
  rw [text_concat] at encodable
  have joined := (Utf8.encodable_append.mp encodable).2
  have member : last ∈ above ++ [last] := List.mem_append_right above (List.mem_singleton_self last)
  have within := Text.isInfix_join_of_mem "/" member
  rw [Utf8.encodable_iff_forall] at joined ⊢
  exact fun point member => joined point (within.subset member)

section Shorter

variable {path longer : Path} (shorter : path.text <+: longer.text)

include shorter

/-- A path is legal if one with a longer text is. -/
theorem systemNames_of_isPrefix {names : List Bytes} (legal : longer.systemNames = .ok names) :
    path.systemNames = .ok (path.names.map stored) := by
  obtain ⟨rest, text⟩ := shorter
  obtain ⟨encodable, noZero, -⟩ := systemNames_eq_ok_iff.mp legal
  rw [← text] at encodable noZero
  rw [List.any_append, Bool.or_eq_false_iff] at noZero
  exact systemNames_eq_ok_iff.mpr ⟨(Utf8.encodable_append.mp encodable).1, noZero.1, rfl⟩

theorem isTooLong_of_isPrefix (encodable : Utf8.Encodable longer.text)
    (short : longer.isTooLong = false) : path.isTooLong = false := by
  obtain ⟨rest, text⟩ := shorter
  rw [← text] at encodable
  rw [isTooLong, decide_eq_false_iff_not, ← text, ← stored, stored_append encodable,
    List.length_append] at short
  rw [isTooLong, decide_eq_false_iff_not, ← stored]
  omega

end Shorter

/-- The system takes the path to a directory if it takes one to something in it. -/
theorem legal_of_concat {start : Start} {above : List Text} {last : Text} {names : List Bytes}
    (legal : systemNames ⟨start, above ++ [last]⟩ = .ok names)
    (short : isTooLong ⟨start, above ++ [last]⟩ = false) :
    systemNames ⟨start, above⟩ = .ok (above.map stored) ∧ isTooLong ⟨start, above⟩ = false := by
  by_cases apart : ⟨start, above⟩ = here
  · rw [apart]
    obtain ⟨rfl, rfl⟩ := Path.mk.inj apart
    exact ⟨by decide, by decide⟩
  · have shorter := text_isPrefix apart last
    exact ⟨systemNames_of_isPrefix shorter legal,
      isTooLong_of_isPrefix shorter (systemNames_eq_ok_iff.mp legal).1 short⟩

end Path

namespace FileTree

/-- The place to which a path leads, if the system can follow it. -/
def place? (tree : FileTree) (path : Path) : Option Place :=
  match path.systemNames with
  | .ok names => (tree.place path names).toOption
  | .error _ => none

def lookUp? (tree : FileTree) (path : Path) : Option Entry :=
  (tree.place? path).bind tree.entryAt?

theorem place?_eq_some_iff {tree : FileTree} {path : Path} {place : Place} :
    tree.place? path = some place ↔
      ∃ names, path.systemNames = .ok names ∧ tree.place path names = .ok place := by
  unfold place?
  cases path.systemNames with
  | error fault => simp
  | ok names => cases placed : tree.place path names <;> simp [placed, Except.toOption]

theorem read_eq_ok_iff_lookUp? {tree : FileTree} {path : Path} {content : Bytes} :
    tree.read path = .ok content ↔ tree.lookUp? path = some (.file content) := by
  rw [read_eq_ok_iff, lookUp?, Option.bind_eq_some_iff]
  constructor
  · rintro ⟨names, place, legal, placed, here⟩
    exact ⟨place, place?_eq_some_iff.mpr ⟨names, legal, placed⟩, here⟩
  · rintro ⟨place, placed, here⟩
    obtain ⟨names, legal, placed⟩ := place?_eq_some_iff.mp placed
    exact ⟨names, place, legal, placed, here⟩

theorem place?_of_keeps {before after : FileTree} (keeps : before.Keeps after) {path : Path}
    {place : Place} (placed : before.place? path = some place) :
    after.place? path = some place := by
  obtain ⟨names, legal, placed⟩ := place?_eq_some_iff.mp placed
  exact place?_eq_some_iff.mpr ⟨names, legal, place_of_keeps keeps placed⟩

/-- Paths lead to the same places in trees with the same directories. -/
theorem place?_eq_of_keeps {before after : FileTree} (keeps : before.Keeps after)
    (back : after.Keeps before) (path : Path) : after.place? path = before.place? path :=
  Option.ext fun _ => ⟨place?_of_keeps back, place?_of_keeps keeps⟩

/-- A file that is put somewhere does not change where paths lead. -/
theorem place?_put {tree : FileTree} {location : Location}
    (free : tree.entry? location ≠ some .directory) (content : Bytes) (path : Path) :
    FileTree.place? (tree.put location (.file content)) path = tree.place? path := by
  apply place?_eq_of_keeps (keeps_put content free)
  refine ⟨rfl, fun other here => ?_⟩
  rw [entry?_put (ne_nil_of_entry?_ne free)] at here
  split at here
  next => cases here
  next => exact here

theorem place?_clear {tree : FileTree} {location : Location}
    (free : tree.entry? location ≠ some .directory) (path : Path) :
    FileTree.place? (tree.clear location) path = tree.place? path := by
  apply place?_eq_of_keeps (keeps_clear free)
  refine ⟨rfl, fun other here => ?_⟩
  rw [entry?_clear (ne_nil_of_entry?_ne free)] at here
  split at here
  next => cases here
  next => exact here

theorem lookUp?_eq_of_places {before after : FileTree} {path : Path}
    (places : after.place? path = before.place? path)
    (same : ∀ location, before.place? path = some (.named location) →
      after.entry? location = before.entry? location) :
    after.lookUp? path = before.lookUp? path := by
  unfold lookUp?
  rw [places]
  cases placed : before.place? path with
  | none => rfl
  | some place =>
      cases place with
      | directory location => rfl
      | named location => exact same location placed

theorem isTooLong_of_place {tree : FileTree} {path : Path} {names : List Bytes} {place : Place}
    (reached : tree.place path names = .ok place) : path.isTooLong = false := by
  unfold FileTree.place at reached
  split at reached
  next => cases reached
  next short => exact (Bool.not_eq_true _).mp short

theorem walk_concat (tree : FileTree) (start : Location) (names : List Bytes) (last : Bytes) :
    tree.walk start (names ++ [last]) = (tree.enter start names).bind fun above =>
      if last = parentName then .ok (.directory above.dropLast)
      else if Path.nameLimit < last.length then .error .nameTooLong
      else .ok (.named (above ++ [last])) := by
  unfold walk
  rw [List.getLast?_concat]
  dsimp only
  rw [List.dropLast_concat]
  rfl

theorem place?_concat (tree : FileTree) {start : Path.Start} {above : List Text} {last : Text}
    {names : List Bytes} (legal : Path.systemNames ⟨start, above ++ [last]⟩ = .ok names)
    (short : Path.isTooLong ⟨start, above ++ [last]⟩ = false) :
    tree.place? ⟨start, above ++ [last]⟩ =
      ((tree.enter (tree.startOf start) (above.map Path.stored)).bind fun directory =>
        if Path.stored last = parentName then .ok (.directory directory.dropLast)
        else if Path.nameLimit < (Path.stored last).length then .error .nameTooLong
        else .ok (.named (directory ++ [Path.stored last]))).toOption := by
  obtain ⟨-, -, rfl⟩ := Path.systemNames_eq_ok_iff.mp legal
  rw [place?, legal]
  dsimp only
  rw [FileTree.place, short, if_neg Bool.false_ne_true, List.map_append, List.map_singleton,
    walk_concat]

theorem enter_append (tree : FileTree) (start : Location) (names rest : List Bytes) :
    tree.enter start (names ++ rest) =
      (tree.enter start names).bind fun location => tree.enter location rest := by
  induction names generalizing start with
  | nil => rfl
  | cons name names ih =>
      rw [List.cons_append, enter, enter]
      by_cases up : name = parentName
      · rw [if_pos up, if_pos up, ih]
      rw [if_neg up, if_neg up]
      by_cases long : Path.nameLimit < name.length
      · rw [if_pos long, if_pos long]
        rfl
      rw [if_neg long, if_neg long]
      cases tree.entry? (start ++ [name]) with
      | none => rfl
      | some entry =>
          cases entry with
          | file content => rfl
          | directory => exact ih (start ++ [name])

/-- A walk through existing directories ends in a directory. -/
theorem exists_walk_of_enter {tree : FileTree} {start location : Location} {names : List Bytes}
    (entered : tree.enter start names = .ok location) :
    ∃ place, tree.walk start names = .ok place ∧ tree.entryAt? place = some .directory := by
  rcases List.eq_nil_or_concat' names with rfl | ⟨init, last, rfl⟩
  · exact ⟨.directory start, rfl, rfl⟩
  · rw [enter_append] at entered
    rw [walk_concat]
    cases outer : tree.enter start init with
    | error kind =>
        rw [outer] at entered
        cases entered
    | ok above =>
        rw [outer, Except.bind] at entered
        rw [Except.bind]
        by_cases up : last = parentName
        · rw [if_pos up]
          exact ⟨_, rfl, rfl⟩
        · rw [enter, if_neg up] at entered
          rw [if_neg up]
          split at entered
          next => cases entered
          next fits =>
            rw [if_neg fits]
            refine ⟨_, rfl, ?_⟩
            rw [entryAt?]
            split at entered
            next here => exact here
            next => cases entered
            next => cases entered

/-- A path that leads somewhere goes through an existing directory. -/
theorem lookUp?_of_concat {tree : FileTree} {start : Path.Start} {above : List Text} {last : Text}
    {place : Place} (placed : tree.place? ⟨start, above ++ [last]⟩ = some place) :
    tree.lookUp? ⟨start, above⟩ = some .directory := by
  obtain ⟨names, legal, reached⟩ := place?_eq_some_iff.mp placed
  have short := isTooLong_of_place reached
  obtain ⟨legal', short'⟩ := Path.legal_of_concat legal short
  rw [place?_concat tree legal short] at placed
  cases entered : tree.enter (tree.startOf start) (above.map Path.stored) with
  | error kind =>
      rw [entered] at placed
      cases placed
  | ok location =>
      obtain ⟨inner, walked, directory⟩ := exists_walk_of_enter entered
      have found : tree.place? ⟨start, above⟩ = some inner := by
        refine place?_eq_some_iff.mpr ⟨_, legal', ?_⟩
        rw [FileTree.place, short', if_neg Bool.false_ne_true]
        exact walked
      rw [lookUp?, found, Option.bind_some, directory]

/-- A path and the one with a longer last name lead to the same directory. -/
theorem place?_of_withSuffix? {tree : FileTree} {path longer : Path} {suffix : Text}
    (extended : path.withSuffix? suffix = some longer) {location : Location}
    (placed : tree.place? longer = some (.named location)) :
    ∃ directory name, location = directory ++ [name ++ Path.stored suffix] ∧
      (tree.place? path = some (.named (directory ++ [name])) ∨
        tree.place? path = some (.directory directory.dropLast)) := by
  obtain ⟨names, legal, reached⟩ := place?_eq_some_iff.mp placed
  have encodable := (Path.systemNames_eq_ok_iff.mp legal).1
  have short := isTooLong_of_place reached
  have extends' : path.text <+: longer.text := ⟨suffix, (Path.text_of_withSuffix? extended).symm⟩
  have shorter := Path.isTooLong_of_isPrefix extends' encodable short
  have legal' := Path.systemNames_of_isPrefix extends' legal
  obtain ⟨above, last, whole, rfl⟩ := Path.exists_of_withSuffix? extended
  rw [whole] at shorter legal'
  rw [whole, place?_concat tree legal' shorter]
  rw [place?_concat tree legal short, Path.stored_append (Path.encodable_last encodable)] at placed
  -- From here on, both paths go through the same directories, and only the last names differ.
  cases entered : tree.enter (tree.startOf path.start) (above.map Path.stored) with
  | error kind =>
      rw [entered] at placed
      cases placed
  | ok directory =>
      rw [entered, Except.bind] at placed
      rw [Except.bind]
      split at placed
      next => cases placed
      next =>
        split at placed
        next => cases placed
        next fits =>
          rw [List.length_append] at fits
          refine ⟨directory, Path.stored last, ?_, ?_⟩
          · cases placed
            rfl
          · by_cases up : Path.stored last = parentName
            · rw [if_pos up]
              exact Or.inr rfl
            · rw [if_neg up, if_neg (by omega)]
              exact Or.inl rfl

end FileTree

end Startup
