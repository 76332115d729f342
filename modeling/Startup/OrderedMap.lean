/-!
# Maps that remember insertion order

An `OrderedMap` lists its entries in the order in which their keys first came in. Storing under a
key that is present keeps its place; a key that was erased and stored again goes to the end.

The view is `get?`: each operation has one equation that says what it does to every look-up.
-/

namespace Startup

namespace Entries

variable {κ α : Type} [DecidableEq κ]

def get? (key : κ) : List (κ × α) → Option α
  | [] => none
  | entry :: rest => if entry.1 = key then some entry.2 else get? key rest

/-- Replaces the value of the first entry with the key, or adds an entry at the end. -/
def insert (key : κ) (value : α) : List (κ × α) → List (κ × α)
  | [] => [(key, value)]
  | entry :: rest =>
      if entry.1 = key then (key, value) :: rest else entry :: insert key value rest

def erase (key : κ) : List (κ × α) → List (κ × α)
  | [] => []
  | entry :: rest => if entry.1 = key then rest else entry :: erase key rest

theorem get?_insert (key other : κ) (value : α) (entries : List (κ × α)) :
    get? other (insert key value entries) =
      if key = other then some value else get? other entries := by
  induction entries with
  | nil => simp [insert, get?]
  | cons entry rest ih =>
      by_cases here : entry.1 = key
      · by_cases same : key = other <;> simp [insert, get?, here, same]
      · by_cases same : key = other
        · subst same
          simpa [insert, get?, here] using ih
        · simp [insert, get?, here, same, ih]

theorem get?_eq_none_iff (key : κ) (entries : List (κ × α)) :
    get? key entries = none ↔ key ∉ entries.map Prod.fst := by
  induction entries with
  | nil => simp [get?]
  | cons entry rest ih =>
      by_cases here : entry.1 = key
      · simp [get?, here]
      · simp [get?, here, ih, Ne.symm here]

theorem get?_eq_some_iff {entries : List (κ × α)} (nodup : (entries.map Prod.fst).Nodup)
    (key : κ) (value : α) : get? key entries = some value ↔ (key, value) ∈ entries := by
  induction entries with
  | nil => simp [get?]
  | cons entry rest ih =>
      have parts := List.nodup_cons.mp (List.map_cons .. ▸ nodup)
      obtain ⟨first, stored⟩ := entry
      by_cases here : first = key
      · subst here
        have absent : (first, value) ∉ rest := fun member =>
          parts.1 (List.mem_map.mpr ⟨_, member, rfl⟩)
        simp [get?, absent, eq_comm]
      · simp [get?, here, ih parts.2, Ne.symm here]

theorem mem_keys_insert (key other : κ) (value : α) (entries : List (κ × α)) :
    other ∈ (insert key value entries).map Prod.fst ↔
      other = key ∨ other ∈ entries.map Prod.fst := by
  have lookups := get?_insert key other value entries
  have absent := get?_eq_none_iff other (insert key value entries)
  have before := get?_eq_none_iff other entries
  by_cases same : key = other
  · subst same
    simp only [↓reduceIte] at lookups
    simp [lookups] at absent
    simp [absent]
  · simp only [same, if_false] at lookups
    rw [lookups, before] at absent
    grind

theorem nodup_insert (key : κ) (value : α) {entries : List (κ × α)}
    (nodup : (entries.map Prod.fst).Nodup) :
    ((insert key value entries).map Prod.fst).Nodup := by
  induction entries with
  | nil => simp [insert]
  | cons entry rest ih =>
      have parts := List.nodup_cons.mp (List.map_cons .. ▸ nodup)
      by_cases here : entry.1 = key
      · subst here
        simpa [insert] using parts
      · simp only [insert, here, if_false, List.map_cons, List.nodup_cons]
        refine ⟨?_, ih parts.2⟩
        rw [mem_keys_insert]
        rintro (same | member)
        · exact here same
        · exact parts.1 member

theorem mem_keys_of_mem_keys_erase {key other : κ} {entries : List (κ × α)}
    (member : other ∈ (erase key entries).map Prod.fst) : other ∈ entries.map Prod.fst := by
  induction entries with
  | nil => simp [erase] at member
  | cons entry rest ih =>
      by_cases here : entry.1 = key
      · simp only [erase, here, if_true] at member
        exact List.mem_cons_of_mem _ member
      · simp only [erase, here, if_false, List.map_cons, List.mem_cons] at member
        rcases member with rfl | member
        · simp
        · exact List.mem_cons_of_mem _ (ih member)

theorem nodup_erase (key : κ) {entries : List (κ × α)}
    (nodup : (entries.map Prod.fst).Nodup) :
    ((erase key entries).map Prod.fst).Nodup := by
  induction entries with
  | nil => simp [erase]
  | cons entry rest ih =>
      have parts := List.nodup_cons.mp (List.map_cons .. ▸ nodup)
      by_cases here : entry.1 = key
      · simpa [erase, here] using parts.2
      · simp only [erase, here, if_false, List.map_cons, List.nodup_cons]
        exact ⟨fun member => parts.1 (mem_keys_of_mem_keys_erase member), ih parts.2⟩

theorem get?_erase (key other : κ) {entries : List (κ × α)}
    (nodup : (entries.map Prod.fst).Nodup) :
    get? other (erase key entries) = if key = other then none else get? other entries := by
  induction entries with
  | nil => simp [erase, get?]
  | cons entry rest ih =>
      have parts := List.nodup_cons.mp (List.map_cons .. ▸ nodup)
      by_cases here : entry.1 = key
      · by_cases same : key = other
        · subst same
          simp only [erase, here, if_true]
          exact (get?_eq_none_iff _ _).mpr (here ▸ parts.1)
        · simp [erase, get?, here, same]
      · by_cases same : key = other
        · subst same
          simp [erase, get?, here, ih parts.2]
        · simp [erase, get?, here, same, ih parts.2]

end Entries

/-- A finite map with at most one entry for each key, in the order of insertion. -/
structure OrderedMap (κ α : Type) where
  entries : List (κ × α)
  nodup : (entries.map Prod.fst).Nodup
deriving DecidableEq

namespace OrderedMap

variable {κ α : Type}

instance : EmptyCollection (OrderedMap κ α) where
  emptyCollection := ⟨[], List.nodup_nil⟩

instance : Inhabited (OrderedMap κ α) where
  default := ∅

def keys (map : OrderedMap κ α) : List κ :=
  map.entries.map Prod.fst

variable [DecidableEq κ]

def get? (map : OrderedMap κ α) (key : κ) : Option α :=
  Entries.get? key map.entries

def getD (map : OrderedMap κ α) (key : κ) (fallback : α) : α :=
  (map.get? key).getD fallback

def contains (map : OrderedMap κ α) (key : κ) : Bool :=
  (map.get? key).isSome

def insert (map : OrderedMap κ α) (key : κ) (value : α) : OrderedMap κ α :=
  ⟨Entries.insert key value map.entries, Entries.nodup_insert key value map.nodup⟩

def insertIfNew (map : OrderedMap κ α) (key : κ) (value : α) : OrderedMap κ α :=
  if map.contains key then map else map.insert key value

def erase (map : OrderedMap κ α) (key : κ) : OrderedMap κ α :=
  ⟨Entries.erase key map.entries, Entries.nodup_erase key map.nodup⟩

def insertAll (map : OrderedMap κ α) (pairs : List (κ × α)) : OrderedMap κ α :=
  pairs.foldl (fun map pair => map.insert pair.1 pair.2) map

/-- The map that results from storing the pairs one after the other. -/
def ofList (pairs : List (κ × α)) : OrderedMap κ α :=
  insertAll ∅ pairs

@[simp]
theorem get?_empty (key : κ) : (∅ : OrderedMap κ α).get? key = none := rfl

@[simp]
theorem get?_insert (map : OrderedMap κ α) (key other : κ) (value : α) :
    (map.insert key value).get? other = if key = other then some value else map.get? other :=
  Entries.get?_insert key other value map.entries

@[simp]
theorem get?_erase (map : OrderedMap κ α) (key other : κ) :
    (map.erase key).get? other = if key = other then none else map.get? other :=
  Entries.get?_erase key other map.nodup

theorem get?_insertIfNew (map : OrderedMap κ α) (key other : κ) (value : α) :
    (map.insertIfNew key value).get? other =
      if key = other then some (map.getD key value) else map.get? other := by
  unfold insertIfNew contains getD
  cases found : map.get? key with
  | none => simp
  | some old =>
      by_cases same : key = other
      · subst same
        simp [found]
      · simp [same]

theorem mem_entries_iff (map : OrderedMap κ α) (key : κ) (value : α) :
    (key, value) ∈ map.entries ↔ map.get? key = some value :=
  (Entries.get?_eq_some_iff map.nodup key value).symm

theorem mem_keys_iff (map : OrderedMap κ α) (key : κ) :
    key ∈ map.keys ↔ (map.get? key).isSome = true := by
  have absent := Entries.get?_eq_none_iff key map.entries
  unfold keys get?
  cases found : Entries.get? key map.entries <;> simp_all

end OrderedMap

end Startup
