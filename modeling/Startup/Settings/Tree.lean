import Startup.Settings.Snapshot

/-!
# Snapshots as trees

A library for snapshots whose nodes are trees. The fields of a structure come in the order in which
they were first stored, and their names are distinct at any depth.
-/

namespace Startup

inductive Tree where
  | absent
  | number (x : Real)
  | text (content : Text)
  | truth (content : Bool)
  | sequence (items : List Tree)
  | structure (fields : List (Text × Tree))

namespace Tree

mutual

/-- Whether the fields of each structure in a tree have distinct names. -/
def Proper : Tree → Prop
  | .sequence items => ProperItems items
  | .structure fields => (fields.map Prod.fst).Nodup ∧ ProperFields fields
  | .absent | .number _ | .text _ | .truth _ => True

def ProperItems : List Tree → Prop
  | [] => True
  | item :: items => item.Proper ∧ ProperItems items

def ProperFields : List (Text × Tree) → Prop
  | [] => True
  | (_, tree) :: fields => tree.Proper ∧ ProperFields fields

end

/-- What is under a name in proper fields, or stands in for it if nothing is. -/
theorem proper_getD_get? {fields : List (Text × Tree)} (proper : ProperFields fields)
    (name : Text) : ((Entries.get? name fields).getD .absent).Proper := by
  induction fields with
  | nil => simp [Entries.get?, Proper]
  | cons field fields ih =>
      rw [Entries.get?]
      split
      · exact proper.1
      · exact ih proper.2

theorem properFields_insert {fields : List (Text × Tree)} {tree : Tree}
    (proper : ProperFields fields) (inside : tree.Proper) (name : Text) :
    ProperFields (Entries.insert name tree fields) := by
  induction fields with
  | nil => exact ⟨inside, proper⟩
  | cons field fields ih =>
      rw [Entries.insert]
      split
      · exact ⟨inside, proper.2⟩
      · exact ⟨proper.1, ih proper.2⟩

/-- A text as trees store it; they cannot hold surrogates. -/
def checkText (text : Text) : Except Fault Text :=
  match Utf8.firstSurrogate? text with
  | some place => .error (.unencodable place)
  | none => .ok text

mutual

/-- Puts a value in place of a tree. A value that cannot be stored leaves the tree as it was, but a
list or record replaces it by what could be stored of its items. Integers become numbers. -/
def write (before : Tree) : Value → Tree × Option Fault
  | .nothing => (.absent, none)
  | .boolean holds => (.truth holds, none)
  | .real x => (.number x, none)
  | .integer n =>
      match (Value.integer n).toReal with
      | .ok x => (.number x, none)
      | .error error => (before, some (.conversion error))
  | .text content =>
      match checkText content with
      | .ok content => (.text content, none)
      | .error fault => (before, some fault)
  | .list items => (.sequence (writeItems items).1, (writeItems items).2)
  | .record fields => (.structure (writeFields [] fields).1, (writeFields [] fields).2)
  | .member _ content => write before content

/-- The trees for the items of a list, up to the first one that cannot be stored. -/
def writeItems : List Value → List Tree × Option Fault
  | [] => ([], none)
  | item :: items =>
      match write .absent item with
      | (tree, some fault) => ([tree], some fault)
      | (tree, none) => (tree :: (writeItems items).1, (writeItems items).2)

/-- Puts values under names, one after the other. The first one that cannot be stored ends the
writing; if its name can, there is a tree for it then. -/
def writeFields (trees : List (Text × Tree)) :
    List (Text × Value) → List (Text × Tree) × Option Fault
  | [] => (trees, none)
  | (name, value) :: rest =>
      match checkText name with
      | .error fault => (trees, some fault)
      | .ok _ =>
          match write ((Entries.get? name trees).getD .absent) value with
          | (tree, some fault) => (Entries.insert name tree trees, some fault)
          | (tree, none) => writeFields (Entries.insert name tree trees) rest

end

theorem nodup_writeFields {trees : List (Text × Tree)} (fields : List (Text × Value))
    (nodup : (trees.map Prod.fst).Nodup) :
    ((writeFields trees fields).1.map Prod.fst).Nodup := by
  induction fields generalizing trees with
  | nil => simpa [writeFields] using nodup
  | cons field rest ih =>
      unfold writeFields
      split
      · exact nodup
      · split
        · exact Entries.nodup_insert _ _ nodup
        · exact ih (Entries.nodup_insert _ _ nodup)

mutual

theorem proper_write {before : Tree} (proper : before.Proper) (value : Value) :
    (write before value).1.Proper := by
  cases value with
  | nothing | boolean holds | real x =>
      rw [write]
      trivial
  | integer n =>
      rw [write]
      split
      · trivial
      · exact proper
  | text content =>
      rw [write]
      split
      · trivial
      · exact proper
  | list items =>
      rw [write]
      exact properItems_writeItems items
  | record fields =>
      have empty : ProperFields [] := trivial
      rw [write]
      exact ⟨nodup_writeFields fields List.nodup_nil, properFields_writeFields empty fields⟩
  | member _ content =>
      rw [write]
      exact proper_write proper content

theorem properItems_writeItems (items : List Value) : ProperItems (writeItems items).1 := by
  cases items with
  | nil =>
      rw [writeItems]
      trivial
  | cons item items =>
      have absent : Proper .absent := trivial
      have first := proper_write absent item
      rw [writeItems]
      split
      next tree fault written =>
        rw [written] at first
        exact ⟨first, trivial⟩
      next tree written =>
        rw [written] at first
        exact ⟨first, properItems_writeItems items⟩

theorem properFields_writeFields {trees : List (Text × Tree)} (proper : ProperFields trees)
    (fields : List (Text × Value)) : ProperFields (writeFields trees fields).1 := by
  cases fields with
  | nil =>
      rw [writeFields]
      exact proper
  | cons field fields =>
      obtain ⟨name, value⟩ := field
      have inserted := properFields_insert proper
        (proper_write (proper_getD_get? proper name) value) name
      rw [writeFields]
      split
      · exact proper
      · split
        next tree fault written =>
          rw [written] at inserted
          exact inserted
        next tree written =>
          rw [written] at inserted
          exact properFields_writeFields inserted fields

end

mutual

def toValue : Tree → Except Fault Value
  | .absent => .ok .nothing
  | .truth holds => .ok (.boolean holds)
  | .number x => if x.isFinite then .ok (.real x) else .error (.notFinite x)
  | .text content => .ok (.text content)
  | .sequence items => do return .list (← toValues items)
  | .structure fields => do return .record (← toRecord fields)

def toValues : List Tree → Except Fault (List Value)
  | [] => .ok []
  | item :: items => do return (← toValue item) :: (← toValues items)

def toRecord : List (Text × Tree) → Except Fault (List (Text × Value))
  | [] => .ok []
  | (name, tree) :: fields => do
      let value ← toValue tree
      return (name, value) :: (← toRecord fields)

end

abbrev ProperTree := {tree : Tree // tree.Proper}

/-- Proper trees under distinct names. -/
@[ext]
structure Fields where
  entries : List (Text × Tree)
  nodup : (entries.map Prod.fst).Nodup
  proper : ProperFields entries

def properItems : (items : List Tree) → ProperItems items → List ProperTree
  | [], _ => []
  | item :: items, proper => ⟨item, proper.1⟩ :: properItems items proper.2

def properFields : (fields : List (Text × Tree)) → ProperFields fields → List (Text × ProperTree)
  | [], _ => []
  | (name, tree) :: fields, proper => (name, ⟨tree, proper.1⟩) :: properFields fields proper.2

theorem keys_properFields (fields : List (Text × Tree)) (proper : ProperFields fields) :
    (properFields fields proper).map Prod.fst = fields.map Prod.fst := by
  induction fields with
  | nil => rfl
  | cons field fields ih =>
      rw [properFields, List.map_cons, List.map_cons, ih]

namespace Fields

def toMap (fields : Fields) : OrderedMap Text ProperTree :=
  ⟨properFields fields.entries fields.proper, by
    rw [keys_properFields]
    exact fields.nodup⟩

def empty : Fields :=
  ⟨[], List.nodup_nil, trivial⟩

def update (fields : Fields) (values : List (Text × Value)) : Fields × Option Fault :=
  (⟨(writeFields fields.entries values).1, nodup_writeFields values fields.nodup,
    properFields_writeFields fields.proper values⟩, (writeFields fields.entries values).2)

end Fields

def content : ProperTree → Content Fields ProperTree
  | ⟨.absent, _⟩ => .absent
  | ⟨.number x, _⟩ => .number x
  | ⟨.text content, _⟩ => .text content
  | ⟨.truth content, _⟩ => .truth content
  | ⟨.sequence items, proper⟩ => .sequence (properItems items proper)
  | ⟨.structure fields, proper⟩ => .structure ⟨fields, proper.1, proper.2⟩

end Tree

/-- The library whose snapshots are trees. -/
def SnapshotLibrary.trees : SnapshotLibrary where
  Snapshot := Tree.Fields
  Node := Tree.ProperTree
  fields := Tree.Fields.toMap
  content := Tree.content
  update := Tree.Fields.update
  toRecord fields := Tree.toRecord fields.entries

end Startup
