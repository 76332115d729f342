import Startup.Settings.Snapshot
import Mathlib.Data.List.Forall2

/-!
# What settings rely on in a library for snapshots

The laws speak of a snapshot through its look-ups, so that they say nothing about the order in which
a library keeps fields.
-/

namespace Startup.SnapshotLibrary

variable (library : SnapshotLibrary)

/-- Whether a snapshot holds these texts under their keys and nothing else. -/
def IsTexts (snapshot : library.Snapshot) (texts : OrderedMap Text Text) : Prop :=
  ∀ key, ((library.fields snapshot).get? key).map library.content = (texts.get? key).map .text

/-- Whether a node is a structure of these texts and nothing else. -/
def HoldsTexts (node : library.Node) (texts : OrderedMap Text Text) : Prop :=
  ∃ inner, library.content node = .structure inner ∧ library.IsTexts inner texts

/-- Whether a number occurs in a node, at any depth. -/
inductive Occurs (x : Real) : library.Node → Prop where
  | here {node : library.Node} (holds : library.content node = .number x) : Occurs x node
  | item {node item : library.Node} {items : List library.Node}
      (holds : library.content node = .sequence items) (member : item ∈ items)
      (inside : Occurs x item) : Occurs x node
  | field {node field : library.Node} {inner : library.Snapshot} {name : Text}
      (holds : library.content node = .structure inner)
      (found : (library.fields inner).get? name = some field) (inside : Occurs x field) :
      Occurs x node

/-- Whether a value is the one that is read from a node. -/
inductive Reads : library.Node → Value → Prop where
  | absent {node : library.Node} (holds : library.content node = .absent) : Reads node .nothing
  | number {node : library.Node} {x : Real} (holds : library.content node = .number x) :
      Reads node (.real x)
  | text {node : library.Node} {content : Text} (holds : library.content node = .text content) :
      Reads node (.text content)
  | truth {node : library.Node} {content : Bool} (holds : library.content node = .truth content) :
      Reads node (.boolean content)
  | sequence {node : library.Node} {items : List library.Node} {values : List Value}
      (holds : library.content node = .sequence items) (read : List.Forall₂ Reads items values) :
      Reads node (.list values)
  | structure {node : library.Node} {inner : library.Snapshot} {record : List (Text × Value)}
      (holds : library.content node = .structure inner)
      (read : library.toRecord inner = .ok record) : Reads node (.record record)

/-- What settings rely on. An update stores one field after the other, and a record of texts without
surrogates becomes a structure of just these texts in place of what the field held before, while
other fields stay. Reading a snapshot reads each of its fields in turn; it fails exactly when a
number in it, at any depth, is infinite or no number at all. -/
structure Lawful : Prop where
  update_nil : ∀ snapshot, library.update snapshot [] = (snapshot, none)
  update_cons : ∀ snapshot field rest next, library.update snapshot [field] = (next, none) →
    library.update snapshot (field :: rest) = library.update next rest
  update_texts : ∀ snapshot name (texts : OrderedMap Text Text), Utf8.Plain name →
    (∀ pair ∈ texts.entries, Utf8.Plain pair.1 ∧ Utf8.Plain pair.2) →
      ∃ next node, library.update snapshot [(name, .ofTexts texts.entries)] = (next, none) ∧
        (library.fields next).get? name = some node ∧ library.HoldsTexts node texts ∧
        ∀ other, other ≠ name →
          (library.fields next).get? other = (library.fields snapshot).get? other
  reads : ∀ {snapshot record}, library.toRecord snapshot = .ok record →
    List.Forall₂ (fun field entry => field.1 = entry.1 ∧ library.Reads field.2 entry.2)
      (library.fields snapshot).entries record
  finite : ∀ {snapshot record}, library.toRecord snapshot = .ok record →
    ∀ {name node x}, (library.fields snapshot).get? name = some node → library.Occurs x node →
      x.isFinite = true
  notFinite : ∀ {snapshot fault}, library.toRecord snapshot = .error fault →
    ∃ name node x, (library.fields snapshot).get? name = some node ∧ library.Occurs x node ∧
      x.isFinite = false ∧ fault = .notFinite x

end Startup.SnapshotLibrary
