import Startup.Proofs.Number.Integer
import Startup.Proofs.Settings.LifeCycle
import Startup.Proofs.Settings.Saving

/-!
# Typed values in a file

A line loses nothing of the text of an integer or a truth value. So when a store was changed only by
writing such values and by removing values, its file gives back exactly the keys that it has, each
with the value that was written last.
-/

namespace Startup

namespace Settings

/-- Whether a code point can make a difference between a text and what its line gives back. -/
def isDelicate (point : CodePoint) : Bool :=
  point.isSpace || isReturn point || isClosing point || point.isSurrogate

/-- A text that comes back from its line under every plain key. -/
structure PlainText (text : Text) : Prop where
  plainValue : PlainValue text
  closing : Text.endsWith isClosing text = false
  stable : Utf8.Stable text

theorem plainText_of_forall {text : Text} (all : ∀ point ∈ text, isDelicate point = false) :
    PlainText text := by
  simp only [isDelicate, Bool.or_eq_false_iff, and_assoc] at all
  exact
    { plainValue :=
        { first := Text.beginsWith_eq_false_of_forall fun point member => (all point member).1
          last := Text.endsWith_eq_false_of_forall fun point member => (all point member).1
          noReturn := Text.endsWith_eq_false_of_forall fun point member => (all point member).2.1 }
      closing := Text.endsWith_eq_false_of_forall fun point member => (all point member).2.2.1
      stable := piecewise_stable.plain fun point member => (all point member).2.2.2 }

theorem PlainText.plainEntry {key text : Text} (plain : PlainText text) (plainKey : PlainKey key) :
    PlainEntry key text :=
  ⟨plainKey, plain.plainValue, by rw [plain.closing, Bool.and_false]⟩

theorem isDelicate_of_isDigit {point : CodePoint} (digit : point.isDigit = true) :
    isDelicate point = false := by
  rw [Bool.eq_false_iff]
  intro delicate
  simp only [isDelicate, CodePoint.isSpace, isReturn, isClosing, Bool.or_eq_true, beq_iff_eq]
    at delicate
  rcases delicate with ((rfl | rfl) | rfl) | surrogate
  · cases digit
  · cases digit
  · cases digit
  · simp only [CodePoint.isSurrogate, CodePoint.isDigit, Bool.and_eq_true, decide_eq_true_eq]
      at surrogate digit
    omega

theorem plainText_integer {n : Int} {text : Text} (written : Integer.write? n = some text) :
    PlainText text := by
  have digits : ∀ point ∈ Text.ofNat n.natAbs, isDelicate point = false := fun _ member =>
    isDelicate_of_isDigit (Text.isDigit_of_mem_ofNat member)
  simp only [Integer.write?, Option.ite_none_right_eq_some, Option.some.injEq] at written
  obtain ⟨-, rfl⟩ := written
  apply plainText_of_forall
  split
  next => exact List.forall_mem_cons.mpr ⟨rfl, digits⟩
  next => exact digits

theorem plainText_boolean (truth : Bool) : PlainText (Convertor.writeBoolean truth) := by
  apply plainText_of_forall
  cases truth <;> decide

theorem canonical_integer {n : Int} {text : Text} (written : Integer.write? n = some text) :
    canonical (.integer n) = .ok text := by
  change Value.quoted (.integer n) = .ok text
  rw [Value.quoted, written]

theorem integer?_of_write? {settings : Settings} {name key text : Text} {n : Int}
    (small : n.natAbs < 10 ^ Integer.digitLimit) (written : Integer.write? n = some text)
    (found : settings.value? name key = some text) : settings.integer? name key = some n := by
  have read := Integer.read_trimBlanks_eq_ok_iff.mpr (Integer.denotes_write? small written)
  rw [integer?, found, Option.bind_some, read]
  rfl

theorem truth?_of_writeBoolean {settings : Settings} {name key : Text} {truth : Bool}
    (found : settings.value? name key = some (Convertor.writeBoolean truth)) :
    settings.truth? name key = some truth := by
  rw [truth?, found, Option.bind_some]
  cases truth <;> decide

end Settings

namespace Store

open Settings

def Edit.place? : Edit → Option (Text × Text)
  | text name key _ | value name key _ | integer name key _ | truth name key _ | real name key _
  | remove name key => some (name, key)
  | defaults | reset | snapshot .. => none

/-- The last change of the value under a key. -/
def lastEdit? (edits : List Edit) (name key : Text) : Option Edit :=
  (edits.filter fun edit => edit.place? = some (name, key)).getLast?

/-- A section name and a key that a file gives back. -/
structure Storable (name key : Text) : Prop where
  onLine : OnLine name
  plainKey : PlainKey key
  stableName : Utf8.Stable name
  stableKey : Utf8.Stable key

/-- A change that writes an integer or a truth value, or that removes a value. -/
inductive Edit.Scalar : Edit → Prop where
  | integer {name key : Text} {content : Value} {n : Int} (storable : Storable name key)
      (whole : content.toInteger = .ok n) (small : n.natAbs < 10 ^ Integer.digitLimit) :
      Scalar (.integer name key content)
  | truth {name key : Text} {content : Value} (storable : Storable name key) :
      Scalar (.truth name key content)
  | remove {name key : Text} : Scalar (.remove name key)

/-- The text that a change leaves under its key, if it leaves one. -/
def Edit.text? : Edit → Option Text
  | integer _ _ content => content.toInteger.toOption.bind Integer.write?
  | truth _ _ content => some (Convertor.writeBoolean content.truth)
  | _ => none

/-- What one change does: it writes its text, of which a line loses nothing, or removes a value. -/
theorem Edit.Scalar.cases {edit : Edit} (scalar : edit.Scalar) :
    ∃ name key, edit.place? = some (name, key) ∧
      ((∃ text, edit.text? = some text ∧ Storable name key ∧ PlainText text ∧
          ∀ store, (edit.apply store).settings = store.settings.store name key text) ∨
        edit.text? = none ∧
          ∀ store, (edit.apply store).settings = store.settings.remove name key) := by
  cases scalar with
  | @integer name key content n storable whole small =>
      have written := Integer.write?_of_small small
      refine ⟨name, key, rfl, Or.inl ⟨_, ?_, storable, plainText_integer written, fun store => ?_⟩⟩
      · rw [text?, whole]
        exact written
      · simp only [apply, storeInteger, storeValue, whole, canonical_integer written, bind,
          Except.bind]
        rfl
  | @truth name key content storable =>
      exact ⟨name, key, rfl, Or.inl ⟨_, rfl, storable, plainText_boolean _, fun _ => rfl⟩⟩
  | @remove name key => exact ⟨name, key, rfl, Or.inr ⟨rfl, fun _ => rfl⟩⟩

theorem lastEdit?_concat {edit : Edit} {name key : Text} (place : edit.place? = some (name, key))
    (edits : List Edit) (other otherKey : Text) :
    lastEdit? (edits ++ [edit]) other otherKey =
      if name = other ∧ key = otherKey then some edit else lastEdit? edits other otherKey := by
  rw [lastEdit?, List.filter_append, List.getLast?_append, lastEdit?]
  by_cases here : name = other ∧ key = otherKey <;> simp [place, here]

def edited (directories? : Option Directories) (edits : List Edit) : Store :=
  edits.foldl Edit.apply (.empty directories?)

/-- A table that holds what some changes wrote last, and holds nothing that a file would not give
back. -/
structure Holds (edits : List Edit) (settings : Settings) : Prop where
  value? : ∀ name key, settings.value? name key = (lastEdit? edits name key).bind Edit.text?
  entries : settings.Everywhere OnLine PlainEntry
  stable : settings.AllTexts Utf8.Stable

theorem holds_nil : Holds [] ∅ :=
  ⟨fun _ _ => rfl, everywhere_empty, everywhere_empty⟩

/-- One change keeps a table in line with the changes. -/
theorem Holds.concat {edits : List Edit} {edit : Edit} {store : Store}
    (holds : Holds edits store.settings) (scalar : edit.Scalar) :
    Holds (edits ++ [edit]) (edit.apply store).settings := by
  obtain ⟨name, key, place, ⟨text, leaves, storable, plain, result⟩ | ⟨leaves, result⟩⟩ :=
    scalar.cases
  · rw [result]
    refine ⟨fun other otherKey => ?_, ?_, ?_⟩
    · rw [value?_store, lastEdit?_concat place]
      split
      next => exact leaves.symm
      next => exact holds.value? other otherKey
    · exact holds.entries.store storable.onLine (plain.plainEntry storable.plainKey)
    · exact Everywhere.store holds.stable storable.stableName ⟨storable.stableKey, plain.stable⟩
  · rw [result]
    refine ⟨fun other otherKey => ?_, holds.entries.remove name key,
      Everywhere.remove holds.stable name key⟩
    rw [value?_remove, lastEdit?_concat place]
    split
    next => exact leaves.symm
    next => exact holds.value? other otherKey

theorem holds_edited {edits : List Edit} (scalar : ∀ edit ∈ edits, edit.Scalar)
    (directories? : Option Directories) : Holds edits (edited directories? edits).settings := by
  induction edits using List.reverseRecOn with
  | nil => exact holds_nil
  | append_singleton edits edit ih =>
      rw [edited, List.foldl_concat, ← edited]
      exact (ih fun other member => scalar other (List.mem_append_left _ member)).concat
        (scalar edit (by simp))

/-- What a table knows of the typed values that some changes wrote into another one. -/
structure Recovers (edits : List Edit) (settings loaded : Settings) : Prop where
  keys : ∀ name key, (loaded.value? name key).isSome = (settings.value? name key).isSome
  integers : ∀ name key content n, lastEdit? edits name key = some (.integer name key content) →
    content.toInteger = .ok n → ∀ fallback, (loaded.integer? name key).getD fallback = n
  truths : ∀ name key content, lastEdit? edits name key = some (.truth name key content) →
    ∀ fallback, (loaded.truth? name key).getD fallback = content.truth

theorem scalar_of_lastEdit? {edits : List Edit} {edit : Edit} {name key : Text}
    (scalar : ∀ edit ∈ edits, edit.Scalar) (last : lastEdit? edits name key = some edit) :
    edit.Scalar :=
  scalar edit (List.mem_of_mem_filter (List.mem_of_getLast? last))

theorem Holds.recovers {edits : List Edit} {settings loaded : Settings}
    (holds : Holds edits settings) (scalar : ∀ edit ∈ edits, edit.Scalar)
    (same : loaded.Same settings) : Recovers edits settings loaded where
  keys name key := by rw [(same name).2]
  integers name key content n last whole fallback := by
    cases scalar_of_lastEdit? scalar last with
    | @integer _ _ _ n' storable whole' small =>
        obtain rfl : n' = n := Except.ok.inj (whole'.symm.trans whole)
        have written := Integer.write?_of_small small
        have found : loaded.value? name key = Integer.write? n' := by
          rw [(same name).2, holds.value?, last, Option.bind_some, Edit.text?, whole]
          rfl
        rw [integer?_of_write? small written (found.trans written), Option.getD_some]
  truths name key content last fallback := by
    have found : loaded.value? name key = some (Convertor.writeBoolean content.truth) := by
      rw [(same name).2, holds.value?, last]
      rfl
    rw [truth?_of_writeBoolean found, Option.getD_some]

/-- Whatever integers and truth values are written into an empty store and removed again, in any
order, the file of the store gives to a fresh one the same keys, each with the value that it was
given last. -/
theorem recovers_edited {edits : List Edit} (scalar : ∀ edit ∈ edits, edit.Scalar)
    (directories? : Option Directories) :
    ∃ loaded, (edited directories? edits).settings.reload? = some loaded ∧
      Recovers edits (edited directories? edits).settings loaded ∧
      ∀ target tree, ((edited directories? edits).settings.saveTo target tree).result = .ok true →
        ∃ valid, (loadFrom ∅ target
          ((edited directories? edits).settings.saveTo target tree).state).result =
            .ok (loaded, valid) := by
  have holds := holds_edited scalar directories?
  have reloaded := reload?_of_stable holds.stable
  have same := same_of_representable ⟨holds.entries, holds.stable⟩
  refine ⟨_, reloaded, holds.recovers scalar same, fun target tree saved => ?_⟩
  obtain ⟨loaded, valid, reloaded', result⟩ := loadFrom_saveTo saved
  rw [reloaded, Option.some.injEq] at reloaded'
  rw [reloaded']
  exact ⟨valid, result⟩

/-- A key that is given an integer after a truth value, one that is given a truth value after an
integer, and one that is removed. -/
def changing : List Edit :=
  [.truth "a" "n" (.boolean true), .integer "a" "on" (.integer 1), .integer "b" "x" (.boolean true),
    .integer "a" "n" (.integer (-12345678901234567890)), .remove "b" "x", .truth "a" "on" .nothing]

theorem recovers_edited_changing :
    ∃ loaded, (edited none changing).settings.reload? = some loaded ∧
      (∀ fallback, (loaded.integer? "a" "n").getD fallback = -12345678901234567890) ∧
      (∀ fallback, (loaded.truth? "a" "on").getD fallback = false) ∧
      (loaded.value? "b" "x").isSome = false := by
  have storable : ∀ key ∈ [Text.ofString "n", "on"], Storable "a" key := by
    intro key known
    have plain : ∀ key ∈ [Text.ofString "n", "on"], PlainKey key ∧ Utf8.Stable key := by decide
    exact ⟨by decide, (plain key known).1, by decide, (plain key known).2⟩
  have scalar : ∀ edit ∈ changing, edit.Scalar := by
    have small : ∀ n : Int, n.natAbs < 10 ^ 20 → n.natAbs < 10 ^ Integer.digitLimit :=
      fun n bound => bound.trans_le (Nat.pow_le_pow_right (by decide) (by decide))
    simp only [changing, List.forall_mem_cons]
    exact ⟨.truth (storable _ (by simp)), .integer (storable _ (by simp)) rfl (small 1 (by decide)),
      .integer ⟨by decide, by decide, by decide, by decide⟩ rfl (small 1 (by decide)),
      .integer (storable _ (by simp)) rfl (small _ (by decide)), .remove,
      .truth (storable _ (by simp)), List.forall_mem_nil _⟩
  obtain ⟨loaded, reloaded, recovers, -⟩ := recovers_edited scalar none
  refine ⟨loaded, reloaded, recovers.integers "a" "n" _ _ rfl rfl, recovers.truths "a" "on" _ rfl, ?_⟩
  rw [recovers.keys]
  decide +kernel

end Store

end Startup
