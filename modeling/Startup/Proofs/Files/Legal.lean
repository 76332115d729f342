import Startup.Proofs.Files.Directories

/-!
# Legal paths

The system takes a path if each of its code points has bytes and none of them is zero. What is cut
out of legal texts or put together from them is legal again, and so is everything that comes from the
system itself. At a legal path an operation either succeeds or is refused; nothing else can go wrong.
-/

namespace Startup

def Text.Legal (text : Text) : Prop :=
  ∀ point ∈ text, (Utf8.encodePoint? point).isSome = true ∧ point.toNat ≠ 0

instance (text : Text) : Decidable text.Legal :=
  inferInstanceAs (Decidable (∀ point ∈ text, _))

namespace Text

theorem legal_nil : Legal [] :=
  List.forall_mem_nil _

theorem legal_append {left right : Text} : Legal (left ++ right) ↔ left.Legal ∧ right.Legal :=
  List.forall_mem_append

theorem Legal.of_isInfix {text piece : Text} (legal : text.Legal) (within : piece <:+: text) :
    piece.Legal := by
  intro point member
  exact legal point (within.subset member)

theorem legal_iff {text : Text} :
    text.Legal ↔ Utf8.Encodable text ∧ text.any (·.toNat == 0) = false := by
  rw [Legal, forall₂_and, Utf8.encodable_iff_forall, List.any_eq_false]
  simp only [beq_iff_eq, ne_eq]

/-- The points of joined texts are those of the texts and, between two of them, of the separator. -/
theorem legal_join_iff {separator : Text} (plain : separator.Legal) {pieces : List Text} :
    Legal (join separator pieces) ↔ ∀ piece ∈ pieces, piece.Legal := by
  induction pieces with
  | nil => simp [join, legal_nil]
  | cons first others ih =>
      cases others with
      | nil => simp [join]
      | cons next others =>
          rw [join, legal_append, legal_append, ih, List.forall_mem_cons (l := next :: others)]
          simp only [plain, and_true]

end Text

namespace Utf8

theorem mem_of_encode? {text : Text} {bytes part : Bytes} {point : CodePoint} {byte : UInt8}
    (encoded : encode? text = some bytes) (member : point ∈ text)
    (has : encodePoint? point = some part) (inner : byte ∈ part) : byte ∈ bytes := by
  obtain ⟨left, right, rfl⟩ := List.mem_iff_append.mp member
  obtain ⟨before, rest, -, behind, rfl⟩ := encode?_append_eq_some_iff.mp encoded
  rw [encode?_cons, has, Option.bind_some] at behind
  obtain ⟨after, -, rfl⟩ := Option.map_eq_some_iff.mp behind
  exact List.mem_append_right _ (List.mem_append_left _ inner)

/-- What the system gives as bytes without a zero comes back as a legal text. -/
theorem legal_decode {bytes : Bytes} (free : 0 ∉ bytes) : (decode bytes).Legal := by
  have encoded := encode?_decode bytes
  have encodable : Encodable (decode bytes) := by rw [Encodable, encoded]; rfl
  intro point member
  refine ⟨encodable_iff_forall.mp encodable point member, ?_⟩
  intro zero
  have plain : point.isSurrogate = false := by simp [CodePoint.isSurrogate, zero]
  have has := encodePoint?_of_plain plain
  rw [zero] at has
  exact free (mem_of_encode? encoded member has (by decide))

end Utf8

namespace Path

def Legal (path : Path) : Prop :=
  ∀ name ∈ path.names, name.Legal

instance (path : Path) : Decidable path.Legal :=
  inferInstanceAs (Decidable (∀ name ∈ path.names, _))

theorem legal_startText (start : Start) : start.text.Legal := by
  cases start <;> decide

theorem legal_text_iff {path : Path} : path.text.Legal ↔ path.Legal := by
  rw [text]
  by_cases same : path = here
  · rw [if_pos same, same]
    exact iff_of_true (by decide) (List.forall_mem_nil _)
  · rw [if_neg same, Text.legal_append, Text.legal_join_iff (by decide)]
    exact and_iff_right (legal_startText path.start)

/-- Legal paths are those that the system can take. -/
theorem exists_systemNames_iff {path : Path} :
    (∃ names, path.systemNames = .ok names) ↔ path.Legal := by
  simp only [systemNames_eq_ok_iff, ← and_assoc, ← Text.legal_iff, legal_text_iff]
  simp

theorem legal_ofText {text : Text} (legal : text.Legal) : (ofText text).Legal := by
  intro name member
  exact legal.of_isInfix (Text.isInfix_of_mem_split (List.mem_filter.mp member).1)

theorem Legal.append {path next : Path} (legal : path.Legal) (further : next.Legal) :
    (path ++ next).Legal := by
  change (path.append next).Legal
  unfold Path.append
  split
  · exact List.forall_mem_append.mpr ⟨legal, further⟩
  · exact further

theorem Legal.join {path : Path} (legal : path.Legal) {part : Text} (further : part.Legal) :
    (path.join [part]).Legal :=
  legal.append (legal_ofText further)

theorem Legal.parent {path : Path} (legal : path.Legal) : path.parent.Legal := by
  intro name member
  exact legal name (List.dropLast_subset _ member)

theorem Legal.name {path : Path} (legal : path.Legal) : path.name.Legal := by
  unfold Path.name
  cases last : path.names.getLast? with
  | none => exact Text.legal_nil
  | some name => exact legal name (List.mem_of_getLast? last)

end Path

def FileFault.IsRefusal (fault : FileFault) : Prop :=
  ∃ error, fault = .refused error

namespace FileTree

/-- A tree whose working directory has a name that the system can give. -/
def Legal (tree : FileTree) : Prop :=
  ∀ name ∈ tree.workingDirectory, 0 ∉ name

theorem Legal.workingPath {tree : FileTree} (legal : tree.Legal) : tree.workingPath.Legal := by
  intro name member
  obtain ⟨bytes, place, rfl⟩ := List.mem_map.mp member
  exact Utf8.legal_decode (legal bytes place)

theorem Legal.of_same {before after : FileTree} (legal : before.Legal)
    (same : after.workingDirectory = before.workingDirectory) : after.Legal := by
  unfold Legal
  rw [same]
  exact legal

theorem isRefusal_of_atPlace {α : Type} {tree : FileTree} {path : Path} (legal : path.Legal)
    {operation : Place → Except FileErrorKind α} {fault : FileFault}
    (failed : tree.atPlace path operation = .error fault) : fault.IsRefusal := by
  obtain ⟨names, taken⟩ := Path.exists_systemNames_iff.mpr legal
  rw [atPlace, taken] at failed
  dsimp only at failed
  split at failed
  · cases failed
  · exact ⟨_, (Except.error.inj failed).symm⟩

theorem isRefusal_of_isDirectory {tree : FileTree} {path : Path} {fault : FileFault}
    (failed : tree.isDirectory path = .error fault) : fault.IsRefusal := by
  unfold isDirectory at failed
  dsimp only at failed
  split at failed
  · cases failed
  next error met =>
    split at failed
    · exact ⟨error, (Except.error.inj failed).symm⟩
    · cases failed
  · cases failed

theorem isRefusal_of_existing {tree : FileTree} {path : Path} {first fault : FileFault}
    (refusal : first.IsRefusal) (failed : (existing tree path first).2 = some fault) :
    fault.IsRefusal := by
  obtain ⟨error, rfl⟩ := refusal
  unfold existing at failed
  dsimp only at failed
  split at failed
  · cases failed
  · exact ⟨error, (Option.some.inj failed).symm⟩
  next other met =>
    rw [← Option.some.inj failed]
    exact isRefusal_of_isDirectory met

theorem isRefusal_of_makeReversed {tree : FileTree} {start : Path.Start} {names : List Text}
    (legal : ∀ name ∈ names, name.Legal) {fault : FileFault}
    (failed : (tree.makeReversed start names).2 = some fault) : fault.IsRefusal := by
  have whole : Path.Legal ⟨start, names.reverse⟩ := fun name member =>
    legal name (List.mem_reverse.mp member)
  induction names generalizing tree fault with
  | nil =>
      rw [makeReversed] at failed
      cases done : tree.makeDirectory ⟨start, []⟩ with
      | ok made =>
          rw [done] at failed
          cases failed
      | error fault =>
          rw [done] at failed
          exact isRefusal_of_existing (isRefusal_of_atPlace whole done) failed
  | cons name above ih =>
      have outer : ∀ name ∈ above, name.Legal := (List.forall_mem_cons.mp legal).2
      rw [makeReversed] at failed
      split at failed
      · cases failed
      next met =>
        have refusal := isRefusal_of_atPlace whole met
        split at failed
        · -- The directories above are missing, so they are made before the second attempt.
          split at failed
          next grown other inner =>
            rw [← Option.some.inj failed]
            have stopped : (tree.makeReversed start above).2 = some other := by rw [inner]
            exact ih outer stopped fun name member => outer name (List.mem_reverse.mp member)
          next grown inner =>
            split at failed
            · cases failed
            next again =>
              have refusal := isRefusal_of_atPlace whole again
              split at failed
              · rw [← Option.some.inj failed]
                exact refusal
              · exact isRefusal_of_existing refusal failed
        · exact isRefusal_of_existing refusal failed

/-- Making a directory at a legal path succeeds or is refused. -/
theorem isRefusal_of_makeDirectories {tree : FileTree} {path : Path} (legal : path.Legal)
    {fault : FileFault} (failed : (tree.makeDirectories path).2 = some fault) :
    fault.IsRefusal :=
  isRefusal_of_makeReversed (fun name member => legal name (List.mem_reverse.mp member)) failed

end FileTree

end Startup
