import Startup.OrderedMap

/-!
# One map over another

Storing the entries of a map in another one overrides the values that the other one has. The two
ways to put a pair in, before or after that, agree, also in the order of the keys.
-/

namespace Startup

namespace Entries

variable {κ α : Type} [DecidableEq κ]

theorem insert_insert_self (key : κ) (old value : α) (entries : List (κ × α)) :
    insert key value (insert key old entries) = insert key value entries := by
  induction entries with
  | nil => simp [insert]
  | cons entry rest ih =>
      by_cases here : entry.1 = key
      · simp [insert, here]
      · simp [insert, here, ih]

/-- A key that is present keeps its place, so it does not matter when its value is stored. -/
theorem insert_comm_of_mem {key other : κ} (distinct : key ≠ other) {entries : List (κ × α)}
    (present : key ∈ entries.map Prod.fst) (value new : α) :
    insert key value (insert other new entries) = insert other new (insert key value entries) := by
  induction entries with
  | nil => simp at present
  | cons entry rest ih =>
      by_cases here : entry.1 = key
      · simp [insert, here, distinct]
      · have later : key ∈ rest.map Prod.fst := by
          rcases List.mem_cons.mp (List.map_cons .. ▸ present) with same | later
          · exact absurd same.symm here
          · exact later
        by_cases there : entry.1 = other
        · simp [insert, there, Ne.symm distinct]
        · simp [insert, here, there, ih later]

theorem insert_of_notMem {key : κ} {entries : List (κ × α)}
    (absent : key ∉ entries.map Prod.fst) (value : α) :
    insert key value entries = entries ++ [(key, value)] := by
  induction entries with
  | nil => rfl
  | cons entry rest ih =>
      rw [List.map_cons, List.mem_cons, not_or] at absent
      rw [insert, if_neg (Ne.symm absent.1), ih absent.2, List.cons_append]

/-- Storing the value that is there changes nothing. -/
theorem insert_of_get? {key : κ} {value : α} {entries : List (κ × α)}
    (found : get? key entries = some value) : insert key value entries = entries := by
  induction entries with
  | nil => cases found
  | cons entry rest ih =>
      rw [get?] at found
      by_cases here : entry.1 = key
      · rw [if_pos here] at found
        rw [insert, if_pos here, ← here, ← Option.some.inj found]
      · rw [if_neg here] at found
        rw [insert, if_neg here, ih found]

/-- Entries with new keys go to the end in their order. -/
theorem foldl_insert_of_nodup {entries pairs : List (κ × α)}
    (nodup : ((entries ++ pairs).map Prod.fst).Nodup) :
    pairs.foldl (fun entries pair => insert pair.1 pair.2 entries) entries = entries ++ pairs := by
  induction pairs generalizing entries with
  | nil => rw [List.foldl_nil, List.append_nil]
  | cons pair rest ih =>
      have absent : pair.1 ∉ entries.map Prod.fst := by
        rw [List.map_append, List.map_cons, List.nodup_append] at nodup
        exact fun member => nodup.2.2 _ member _ List.mem_cons_self rfl
      rw [List.append_cons] at nodup ⊢
      rw [List.foldl_cons, insert_of_notMem absent, ih nodup]

theorem get?_map {β : Type} (change : α → β) (key : κ) (entries : List (κ × α)) :
    get? key (entries.map fun entry => (entry.1, change entry.2)) =
      (get? key entries).map change := by
  induction entries with
  | nil => rfl
  | cons entry rest ih =>
      rw [List.map_cons, get?, get?, ih]
      split <;> rfl

/-- A change of the values keeps the keys. -/
theorem keys_map {κ α β : Type} (change : α → β) (entries : List (κ × α)) :
    (entries.map fun entry => (entry.1, change entry.2)).map Prod.fst = entries.map Prod.fst := by
  rw [List.map_map]
  rfl

/-- Entries whose values all come from a change are changed entries. -/
theorem exists_eq_map {κ α β : Type} {change : β → α} {entries : List (κ × α)}
    (all : ∀ key value, (key, value) ∈ entries → ∃ before, value = change before) :
    ∃ pairs : List (κ × β), entries = pairs.map fun pair => (pair.1, change pair.2) := by
  induction entries with
  | nil => exact ⟨[], rfl⟩
  | cons entry rest ih =>
      obtain ⟨key, value⟩ := entry
      obtain ⟨before, rfl⟩ := all key value List.mem_cons_self
      obtain ⟨pairs, rfl⟩ := ih fun key value member => all key value (List.mem_cons_of_mem _ member)
      exact ⟨(key, before) :: pairs, rfl⟩

end Entries

namespace OrderedMap

variable {κ α : Type}

theorem eq_of_entries {left right : OrderedMap κ α} (same : left.entries = right.entries) :
    left = right := by
  cases left
  cases right
  cases same
  rfl

variable [DecidableEq κ]

theorem entries_insertAll (map : OrderedMap κ α) (pairs : List (κ × α)) :
    (map.insertAll pairs).entries =
      pairs.foldl (fun entries pair => Entries.insert pair.1 pair.2 entries) map.entries := by
  induction pairs generalizing map with
  | nil => rfl
  | cons pair rest ih => exact ih (map.insert pair.1 pair.2)

/-- Pairs whose keys are distinct become entries as they are. -/
theorem entries_ofList {pairs : List (κ × α)} (nodup : (pairs.map Prod.fst).Nodup) :
    (ofList pairs).entries = pairs :=
  (entries_insertAll ∅ pairs).trans (Entries.foldl_insert_of_nodup nodup)

theorem insert_insert_self (map : OrderedMap κ α) (key : κ) (old value : α) :
    (map.insert key old).insert key value = map.insert key value := by
  unfold insert
  congr 1
  exact Entries.insert_insert_self key old value map.entries

theorem insert_comm_of_contains {map : OrderedMap κ α} {key other : κ} (distinct : key ≠ other)
    (present : map.contains key = true) (value new : α) :
    (map.insert other new).insert key value = (map.insert key value).insert other new := by
  unfold insert
  congr 1
  exact Entries.insert_comm_of_mem distinct ((map.mem_keys_iff key).mpr present) value new

/-- An entry of a map is one that was there or the one that was stored last. -/
theorem mem_of_mem_insert {map : OrderedMap κ α} {key : κ} {value : α} {entry : κ × α}
    (member : entry ∈ (map.insert key value).entries) :
    entry = (key, value) ∨ entry ∈ map.entries := by
  obtain ⟨other, stored⟩ := entry
  rw [mem_entries_iff, get?_insert] at member
  split at member
  next same =>
    subst same
    exact Or.inl (congrArg _ (Option.some.inj member).symm)
  next => exact Or.inr ((mem_entries_iff _ _ _).mpr member)

theorem mem_of_mem_insertAll {map : OrderedMap κ α} {pairs : List (κ × α)} {entry : κ × α}
    (member : entry ∈ (map.insertAll pairs).entries) : entry ∈ pairs ∨ entry ∈ map.entries := by
  induction pairs generalizing map with
  | nil => exact Or.inr member
  | cons pair rest ih =>
      rcases ih member with later | now
      · exact Or.inl (List.mem_cons_of_mem _ later)
      · rcases mem_of_mem_insert now with rfl | before
        · exact Or.inl List.mem_cons_self
        · exact Or.inr before

theorem insertAll_cons (map : OrderedMap κ α) (pair : κ × α) (pairs : List (κ × α)) :
    map.insertAll (pair :: pairs) = (map.insert pair.1 pair.2).insertAll pairs := rfl

/-- Of several values for a key the last one counts. -/
theorem get?_insertAll_eq_getLast? (map : OrderedMap κ α) (pairs : List (κ × α)) (key : κ) :
    (map.insertAll pairs).get? key =
      (((pairs.filter fun pair => pair.1 = key).map Prod.snd).getLast?).or (map.get? key) := by
  induction pairs generalizing map with
  | nil => rfl
  | cons pair rest ih =>
      rw [insertAll_cons, ih, get?_insert]
      by_cases here : pair.1 = key
      · rw [if_pos here, List.filter_cons_of_pos (by simpa using here), List.map_cons,
          List.getLast?_cons]
        cases (List.map Prod.snd (List.filter (fun pair => decide (pair.1 = key)) rest)).getLast? <;>
          rfl
      · rw [if_neg here, List.filter_cons_of_neg (by simpa using here)]

theorem insert_of_get? {map : OrderedMap κ α} {key : κ} {value : α}
    (found : map.get? key = some value) : map.insert key value = map :=
  eq_of_entries (Entries.insert_of_get? found)

section Combine

variable {β : Type} (combine : Option α → β → α)

/-- Puts pairs into a map one after the other, where `combine` makes the value for a key out of the
one that is there, if any, and the one that comes in. -/
def combineAll (map : OrderedMap κ α) (pairs : List (κ × β)) : OrderedMap κ α :=
  pairs.foldl (fun map pair => map.insert pair.1 (combine (map.get? pair.1) pair.2)) map

theorem combineAll_cons (map : OrderedMap κ α) (pair : κ × β) (pairs : List (κ × β)) :
    map.combineAll combine (pair :: pairs) =
      (map.insert pair.1 (combine (map.get? pair.1) pair.2)).combineAll combine pairs := rfl

theorem get?_combineAll {map : OrderedMap κ α} {entries : List (κ × β)}
    (nodup : (entries.map Prod.fst).Nodup) (key : κ) :
    (map.combineAll combine entries).get? key =
      ((Entries.get? key entries).map (combine (map.get? key))).or (map.get? key) := by
  induction entries generalizing map with
  | nil => rfl
  | cons entry rest ih =>
      have parts := List.nodup_cons.mp (List.map_cons .. ▸ nodup)
      rw [combineAll_cons, ih parts.2, get?_insert, Entries.get?]
      by_cases here : entry.1 = key
      · subst here
        rw [if_pos rfl, if_pos rfl, (Entries.get?_eq_none_iff entry.1 rest).mpr parts.1]
        rfl
      · rw [if_neg here, if_neg here]

/-- A value for a key that is present may be stored before or after pairs with other keys. -/
theorem insert_combineAll_of_contains {map : OrderedMap κ α} {key : κ}
    (present : map.contains key = true) {pairs : List (κ × β)} (absent : key ∉ pairs.map Prod.fst)
    (value : α) :
    (map.combineAll combine pairs).insert key value =
      (map.insert key value).combineAll combine pairs := by
  induction pairs generalizing map with
  | nil => rfl
  | cons pair rest ih =>
      rw [List.map_cons, List.mem_cons, not_or] at absent
      have stays : ∀ new, (map.insert pair.1 new).contains key = true := by
        intro new
        rw [contains, get?_insert, if_neg (Ne.symm absent.1)]
        exact present
      rw [combineAll_cons, combineAll_cons, ih (stays _) absent.2,
        insert_comm_of_contains absent.1 present, get?_insert, if_neg absent.1]

/-- A pair that is stored among the others first can be combined with the map last. -/
theorem combineAll_insert (map : OrderedMap κ α) (key : κ) (value : β) {entries : List (κ × β)}
    (nodup : (entries.map Prod.fst).Nodup) :
    map.combineAll combine (Entries.insert key value entries) =
      (map.combineAll combine entries).insert key (combine (map.get? key) value) := by
  induction entries generalizing map with
  | nil => rfl
  | cons entry rest ih =>
      have parts := List.nodup_cons.mp (List.map_cons .. ▸ nodup)
      obtain ⟨first, stored⟩ := entry
      by_cases here : first = key
      · subst here
        have present : ∀ new, (map.insert first new).contains first = true := by
          intro new
          rw [contains, get?_insert, if_pos rfl]
          rfl
        rw [Entries.insert, if_pos rfl, combineAll_cons, combineAll_cons,
          insert_combineAll_of_contains combine (present _) parts.1, insert_insert_self]
      · rw [Entries.insert, if_neg here, combineAll_cons, combineAll_cons, ih _ parts.2,
          get?_insert, if_neg here]

/-- Pairs that add nothing to the values that are there leave the map as it is. -/
theorem combineAll_of_absorbed {map : OrderedMap κ α} {pairs : List (κ × β)}
    (absorbed : ∀ pair ∈ pairs, ∃ value, map.get? pair.1 = some value ∧
      combine (some value) pair.2 = value) : map.combineAll combine pairs = map := by
  induction pairs with
  | nil => rfl
  | cons pair rest ih =>
      obtain ⟨⟨value, found, same⟩, others⟩ := List.forall_mem_cons.mp absorbed
      rw [combineAll_cons, found, same, insert_of_get? found, ih others]

end Combine

/-- To store is to combine in such a way that the value that comes in always wins. -/
theorem insertAll_eq_combineAll (map : OrderedMap κ α) (pairs : List (κ × α)) :
    map.insertAll pairs = map.combineAll (fun _ value => value) pairs := rfl

/-- Storing a pair in the upper map is storing it in the whole. -/
theorem insertAll_insert (lower upper : OrderedMap κ α) (key : κ) (value : α) :
    lower.insertAll (upper.insert key value).entries =
      (lower.insertAll upper.entries).insert key value :=
  lower.combineAll_insert (fun _ value => value) key value upper.nodup

theorem get?_insertAll {map : OrderedMap κ α} {entries : List (κ × α)}
    (nodup : (entries.map Prod.fst).Nodup) (key : κ) :
    (map.insertAll entries).get? key = (Entries.get? key entries).or (map.get? key) := by
  rw [insertAll_eq_combineAll, get?_combineAll _ nodup, Option.map_id']

/-- Storing the same map again changes nothing. -/
theorem insertAll_insertAll_self (lower upper : OrderedMap κ α) :
    (lower.insertAll upper.entries).insertAll upper.entries = lower.insertAll upper.entries := by
  rw [insertAll_eq_combineAll (lower.insertAll upper.entries)]
  refine combineAll_of_absorbed _ fun pair member => ⟨pair.2, ?_, rfl⟩
  have stored : Entries.get? pair.1 upper.entries = some pair.2 :=
    (Entries.get?_eq_some_iff upper.nodup pair.1 pair.2).mpr member
  rw [get?_insertAll upper.nodup, stored, Option.some_or]

end OrderedMap

end Startup
