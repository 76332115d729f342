import Startup.Proofs.OrderedMap
import Startup.Proofs.Settings.Laws
import Startup.Proofs.Text.Utf8
import Startup.Settings.Tree
import Mathlib.Data.List.Basic

/-!
# Trees are lawful snapshots

Texts without surrogates are stored as they are, and a record of such texts as a structure of them,
whatever the tree held before. Reading follows the tree, and a number that is not finite is what it
fails at.
-/

namespace Startup

theorem bind_eq_ok_iff {ε α β : Type} {first : Except ε α} {next : α → Except ε β} {result : β} :
    (first >>= next) = .ok result ↔ ∃ between, first = .ok between ∧ next between = .ok result := by
  cases first with
  | error fault =>
      constructor
      · intro impossible
        cases impossible
      · rintro ⟨_, impossible, _⟩
        cases impossible
  | ok between =>
      constructor
      · exact fun continued => ⟨between, rfl, continued⟩
      · rintro ⟨_, same, continued⟩
        cases same
        exact continued

theorem bind_eq_error_iff {ε α β : Type} {first : Except ε α} {next : α → Except ε β} {error : ε} :
    (first >>= next) = .error error ↔
      first = .error error ∨ ∃ between, first = .ok between ∧ next between = .error error := by
  cases first with
  | error fault =>
      constructor
      · exact fun stopped => .inl (congrArg Except.error (Except.error.inj stopped))
      · rintro (stopped | ⟨_, impossible, -⟩)
        · exact congrArg Except.error (Except.error.inj stopped)
        · cases impossible
  | ok between =>
      constructor
      · exact fun continued => .inr ⟨between, rfl, continued⟩
      · rintro (impossible | ⟨_, same, continued⟩)
        · cases impossible
        · cases same
          exact continued

namespace Tree

/-! ## What is written -/

theorem checkText_of_plain {text : Text} (plain : Utf8.Plain text) : checkText text = .ok text := by
  rw [checkText, Utf8.firstSurrogate?, Utf8.firstRefused?_eq_none_iff.mpr plain]

def ofTexts (texts : List (Text × Text)) : List (Text × Tree) :=
  texts.map fun pair => (pair.1, .text pair.2)

theorem get?_ofTexts (texts : OrderedMap Text Text) (key : Text) :
    Entries.get? key (ofTexts texts.entries) = (texts.get? key).map .text :=
  Entries.get?_map Tree.text key texts.entries

theorem writeFields_ofTexts {texts : List (Text × Text)}
    (plain : ∀ pair ∈ texts, Utf8.Plain pair.1 ∧ Utf8.Plain pair.2) (trees : List (Text × Tree)) :
    writeFields trees (texts.map fun pair => (pair.1, .text pair.2)) =
      ((ofTexts texts).foldl (fun trees pair => Entries.insert pair.1 pair.2 trees) trees,
        none) := by
  induction texts generalizing trees with
  | nil =>
      rw [List.map_nil, writeFields]
      rfl
  | cons pair rest ih =>
      obtain ⟨⟨plainKey, plainText⟩, others⟩ := List.forall_mem_cons.mp plain
      rw [List.map_cons, writeFields, checkText_of_plain plainKey]
      simp only [write, checkText_of_plain plainText]
      exact ih others _

/-- Whatever there was before, the structure of the texts takes its place. -/
theorem write_ofTexts {texts : OrderedMap Text Text}
    (plain : ∀ pair ∈ texts.entries, Utf8.Plain pair.1 ∧ Utf8.Plain pair.2) (before : Tree) :
    write before (.ofTexts texts.entries) = (.structure (ofTexts texts.entries), none) := by
  have nodup : ((ofTexts texts.entries).map Prod.fst).Nodup := by
    rw [ofTexts, Entries.keys_map]
    exact texts.nodup
  rw [Value.ofTexts, write, writeFields_ofTexts plain,
    Entries.foldl_insert_of_nodup (by rwa [List.nil_append]), List.nil_append]

theorem writeFields_single {name : Text} {texts : OrderedMap Text Text} (plainName : Utf8.Plain name)
    (plainTexts : ∀ pair ∈ texts.entries, Utf8.Plain pair.1 ∧ Utf8.Plain pair.2)
    (trees : List (Text × Tree)) :
    writeFields trees [(name, .ofTexts texts.entries)] =
      (Entries.insert name (.structure (ofTexts texts.entries)) trees, none) := by
  rw [writeFields, checkText_of_plain plainName]
  simp only [write_ofTexts plainTexts, writeFields]

theorem writeFields_cons {trees next : List (Text × Tree)} {field : Text × Value}
    (written : writeFields trees [field] = (next, none)) (rest : List (Text × Value)) :
    writeFields trees (field :: rest) = writeFields next rest := by
  obtain ⟨name, value⟩ := field
  simp only [writeFields] at written ⊢
  cases checked : checkText name with
  | error fault =>
      rw [checked] at written
      cases written
  | ok _ =>
      rw [checked] at written
      dsimp only at written ⊢
      cases stored : write ((Entries.get? name trees).getD .absent) value with
      | mk tree fault? =>
          rw [stored] at written
          cases fault? <;> cases written
          rfl

/-! ## Proper trees -/

theorem get?_properFields (fields : List (Text × Tree)) (proper : ProperFields fields)
    (name : Text) :
    (Entries.get? name (properFields fields proper)).map Subtype.val = Entries.get? name fields := by
  induction fields with
  | nil => rfl
  | cons field fields ih =>
      rw [properFields, Entries.get?, Entries.get?]
      split
      · rfl
      · exact ih proper.2

theorem get?_toMap (fields : Fields) (name : Text) :
    (fields.toMap.get? name).map Subtype.val = Entries.get? name fields.entries :=
  get?_properFields fields.entries fields.proper name

theorem content_eq_text {tree : ProperTree} {text : Text} (same : tree.val = .text text) :
    content tree = .text text := by
  obtain ⟨_, proper⟩ := tree
  cases same
  rfl

theorem holdsTexts_of_eq {tree : ProperTree} {texts : OrderedMap Text Text}
    (same : tree.val = .structure (ofTexts texts.entries)) :
    SnapshotLibrary.trees.HoldsTexts tree texts := by
  obtain ⟨_, proper⟩ := tree
  cases same
  refine ⟨⟨_, proper.1, proper.2⟩, rfl, fun key => ?_⟩
  have inside := get?_properFields (ofTexts texts.entries) proper.2 key
  rw [get?_ofTexts] at inside
  change (Entries.get? key (properFields (ofTexts texts.entries) proper.2)).map content = _
  cases found : texts.get? key with
  | none =>
      rw [found] at inside
      rw [Option.map_eq_none_iff.mp inside]
      rfl
  | some text =>
      rw [found] at inside
      obtain ⟨tree, stored, same⟩ := Option.map_eq_some_iff.mp inside
      rw [stored, Option.map_some, content_eq_text same]
      rfl

/-! ## What is read -/

mutual

theorem reads_of_toValue {tree : Tree} (proper : tree.Proper) {value : Value}
    (read : toValue tree = .ok value) : SnapshotLibrary.trees.Reads ⟨tree, proper⟩ value := by
  cases tree with
  | absent =>
      rw [toValue] at read
      cases read
      exact .absent rfl
  | number x =>
      rw [toValue] at read
      split at read
      · cases read
        exact .number rfl
      · cases read
  | text content =>
      rw [toValue] at read
      cases read
      exact .text rfl
  | truth holds =>
      rw [toValue] at read
      cases read
      exact .truth rfl
  | sequence items =>
      rw [toValue] at read
      obtain ⟨values, inside, same⟩ := bind_eq_ok_iff.mp read
      cases same
      exact .sequence rfl (reads_of_toValues proper inside)
  | «structure» fields =>
      rw [toValue] at read
      obtain ⟨record, inside, same⟩ := bind_eq_ok_iff.mp read
      cases same
      exact .structure rfl inside

theorem reads_of_toValues {items : List Tree} (proper : ProperItems items) {values : List Value}
    (read : toValues items = .ok values) :
    List.Forall₂ SnapshotLibrary.trees.Reads (properItems items proper) values := by
  cases items with
  | nil =>
      rw [toValues] at read
      cases read
      exact .nil
  | cons item items =>
      rw [toValues] at read
      obtain ⟨value, first, others⟩ := bind_eq_ok_iff.mp read
      obtain ⟨values, rest, same⟩ := bind_eq_ok_iff.mp others
      cases same
      exact .cons (reads_of_toValue proper.1 first) (reads_of_toValues proper.2 rest)

end

theorem reads_of_toRecord {fields : List (Text × Tree)} (proper : ProperFields fields)
    {record : List (Text × Value)} (read : toRecord fields = .ok record) :
    List.Forall₂
      (fun field entry => field.1 = entry.1 ∧ SnapshotLibrary.trees.Reads field.2 entry.2)
      (properFields fields proper) record := by
  induction fields generalizing record with
  | nil =>
      rw [toRecord] at read
      cases read
      exact .nil
  | cons field fields ih =>
      obtain ⟨name, tree⟩ := field
      rw [toRecord] at read
      obtain ⟨value, first, others⟩ := bind_eq_ok_iff.mp read
      obtain ⟨record, rest, same⟩ := bind_eq_ok_iff.mp others
      cases same
      exact .cons ⟨rfl, reads_of_toValue proper.1 first⟩ (ih proper.2 rest)

/-! ## Numbers that are not finite -/

theorem exists_of_toValues {items : List Tree} {proper : ProperItems items} {values : List Value}
    (read : toValues items = .ok values) {item : ProperTree}
    (member : item ∈ properItems items proper) : ∃ value, toValue item.val = .ok value := by
  induction items generalizing values with
  | nil => cases member
  | cons first items ih =>
      rw [toValues] at read
      obtain ⟨value, valued, others⟩ := bind_eq_ok_iff.mp read
      obtain ⟨values, rest, -⟩ := bind_eq_ok_iff.mp others
      rcases List.mem_cons.mp member with rfl | later
      · exact ⟨value, valued⟩
      · exact ih rest later

theorem exists_of_toRecord {fields : List (Text × Tree)} {proper : ProperFields fields}
    {record : List (Text × Value)} (read : toRecord fields = .ok record) {name : Text}
    {tree : ProperTree} (found : Entries.get? name (properFields fields proper) = some tree) :
    ∃ value, toValue tree.val = .ok value := by
  induction fields generalizing record with
  | nil => cases found
  | cons field fields ih =>
      obtain ⟨other, first⟩ := field
      rw [toRecord] at read
      obtain ⟨value, valued, others⟩ := bind_eq_ok_iff.mp read
      obtain ⟨record, rest, -⟩ := bind_eq_ok_iff.mp others
      rw [properFields, Entries.get?] at found
      split at found
      · cases found
        exact ⟨value, valued⟩
      · exact ih rest found

/-- In a tree that can be read, every number is finite. -/
theorem isFinite_of_occurs {tree : SnapshotLibrary.trees.Node} {x : Real}
    (occurs : SnapshotLibrary.trees.Occurs x tree) {value : Value}
    (read : toValue (Subtype.val tree) = .ok value) : x.isFinite = true := by
  induction occurs generalizing value with
  | @here node holds =>
      obtain ⟨tree, proper⟩ := node
      cases tree with
      | number y =>
          cases holds
          rw [toValue] at read
          split at read
          next finite => exact finite
          next => cases read
      | absent | text | truth | sequence | «structure» => cases holds
  | @item node item _ holds member inside ih =>
      obtain ⟨tree, proper⟩ := node
      cases tree with
      | sequence items =>
          cases holds
          rw [toValue] at read
          obtain ⟨values, read, -⟩ := bind_eq_ok_iff.mp read
          obtain ⟨value, valued⟩ := exists_of_toValues read member
          exact ih valued
      | absent | number | text | truth | «structure» => cases holds
  | @field node field _ name holds found inside ih =>
      obtain ⟨tree, proper⟩ := node
      cases tree with
      | «structure» fields =>
          cases holds
          rw [toValue] at read
          obtain ⟨record, read, -⟩ := bind_eq_ok_iff.mp read
          obtain ⟨value, valued⟩ := exists_of_toRecord read found
          exact ih valued
      | absent | number | text | truth | sequence => cases holds

mutual

/-- A tree that cannot be read holds a number that is not finite. -/
theorem exists_occurs_of_toValue {tree : Tree} (proper : tree.Proper) {fault : Fault}
    (failed : toValue tree = .error fault) :
    ∃ x, SnapshotLibrary.trees.Occurs x ⟨tree, proper⟩ ∧ x.isFinite = false ∧
      fault = .notFinite x := by
  cases tree with
  | absent | text | truth =>
      rw [toValue] at failed
      cases failed
  | number x =>
      rw [toValue] at failed
      split at failed
      next => cases failed
      next infinite =>
        cases failed
        exact ⟨x, .here rfl, Bool.eq_false_iff.mpr infinite, rfl⟩
  | sequence items =>
      rw [toValue] at failed
      rcases bind_eq_error_iff.mp failed with failed | ⟨_, -, impossible⟩
      · obtain ⟨item, member, x, occurs, rest⟩ := exists_occurs_of_toValues proper failed
        exact ⟨x, .item rfl member occurs, rest⟩
      · cases impossible
  | «structure» fields =>
      rw [toValue] at failed
      rcases bind_eq_error_iff.mp failed with failed | ⟨_, -, impossible⟩
      · obtain ⟨name, field, member, x, occurs, rest⟩ :=
          exists_occurs_of_toRecord proper.2 failed
        have nodup := proper.1
        rw [← keys_properFields fields proper.2] at nodup
        exact ⟨x, .field rfl ((Entries.get?_eq_some_iff nodup name field).mpr member) occurs, rest⟩
      · cases impossible

theorem exists_occurs_of_toValues {items : List Tree} (proper : ProperItems items) {fault : Fault}
    (failed : toValues items = .error fault) :
    ∃ item ∈ properItems items proper, ∃ x, SnapshotLibrary.trees.Occurs x item ∧
      x.isFinite = false ∧ fault = .notFinite x := by
  cases items with
  | nil =>
      rw [toValues] at failed
      cases failed
  | cons item items =>
      rw [toValues] at failed
      rcases bind_eq_error_iff.mp failed with failed | ⟨_, -, failed⟩
      · exact ⟨_, List.mem_cons_self, exists_occurs_of_toValue proper.1 failed⟩
      · rcases bind_eq_error_iff.mp failed with failed | ⟨_, -, impossible⟩
        · obtain ⟨item, member, occurs⟩ := exists_occurs_of_toValues proper.2 failed
          exact ⟨item, List.mem_cons_of_mem _ member, occurs⟩
        · cases impossible

theorem exists_occurs_of_toRecord {fields : List (Text × Tree)} (proper : ProperFields fields)
    {fault : Fault} (failed : toRecord fields = .error fault) :
    ∃ name tree, (name, tree) ∈ properFields fields proper ∧
      ∃ x, SnapshotLibrary.trees.Occurs x tree ∧ x.isFinite = false ∧ fault = .notFinite x := by
  cases fields with
  | nil =>
      rw [toRecord] at failed
      cases failed
  | cons field fields =>
      obtain ⟨name, tree⟩ := field
      rw [toRecord] at failed
      rcases bind_eq_error_iff.mp failed with failed | ⟨_, -, failed⟩
      · exact ⟨name, _, List.mem_cons_self, exists_occurs_of_toValue proper.1 failed⟩
      · rcases bind_eq_error_iff.mp failed with failed | ⟨_, -, impossible⟩
        · obtain ⟨name, tree, member, occurs⟩ := exists_occurs_of_toRecord proper.2 failed
          exact ⟨name, tree, List.mem_cons_of_mem _ member, occurs⟩
        · cases impossible

end

/-! ## The laws -/

theorem lawful_trees : SnapshotLibrary.trees.Lawful where
  update_nil fields := rfl
  update_cons fields field rest next updated := by
    have stored : (writeFields fields.entries [field]).1 = next.entries :=
      congrArg (fun updated : Fields × Option Fault => updated.1.entries) updated
    have stopped : (writeFields fields.entries [field]).2 = none := (Prod.ext_iff.mp updated).2
    have written := Prod.ext_iff.mp (writeFields_cons (Prod.ext stored stopped) rest)
    exact Prod.ext (Fields.ext written.1) written.2
  update_texts fields name texts plainName plainTexts := by
    have written := Prod.ext_iff.mp (writeFields_single plainName plainTexts fields.entries)
    let next := (fields.update [(name, .ofTexts texts.entries)]).1
    have lookup : ∀ key, (next.toMap.get? key).map Subtype.val =
        if name = key then some (.structure (ofTexts texts.entries))
        else Entries.get? key fields.entries := by
      intro key
      have entries : next.entries = _ := written.1
      rw [get?_toMap, entries, Entries.get?_insert]
    obtain ⟨node, stored, same⟩ := Option.map_eq_some_iff.mp ((lookup name).trans (if_pos rfl))
    refine ⟨next, node, Prod.ext rfl written.2, stored, holdsTexts_of_eq same, ?_⟩
    intro other distinct
    refine Option.map_injective Subtype.val_injective ?_
    exact ((lookup other).trans (if_neg (Ne.symm distinct))).trans (get?_toMap fields other).symm
  reads {fields record} read := reads_of_toRecord fields.proper read
  finite {fields record} read name node x found occurs := by
    obtain ⟨value, valued⟩ := exists_of_toRecord read found
    exact isFinite_of_occurs occurs valued
  notFinite {fields fault} failed := by
    obtain ⟨name, tree, member, x, occurs, infinite, same⟩ :=
      exists_occurs_of_toRecord fields.proper failed
    exact ⟨name, tree, x, (OrderedMap.mem_entries_iff ..).mp member, occurs, infinite, same⟩

end Tree

end Startup
