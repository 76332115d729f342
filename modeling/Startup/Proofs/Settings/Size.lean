import Startup.Proofs.Settings.Effects
import Startup.Proofs.Settings.Line
import Mathlib.Algebra.Order.BigOperators.Group.List
import Mathlib.Algebra.Order.Ring.Nat
import Mathlib.Data.List.Nodup

/-!
# How much a table holds

The size of a table adds up what its entries hold. Tables that are the same have the same size, and
what some effects put into an empty table holds no more than the effects do.
-/

namespace Startup.Settings

/-- The entries of a table, each with its section. -/
def triples (settings : Settings) : List (Text × Text × Text) :=
  settings.entries.flatMap fun group => group.2.entries.map fun entry => (group.1, entry.1, entry.2)

/-- How much the entries of a table hold. -/
def size (settings : Settings) : Nat :=
  (settings.triples.map fun triple => entryWeight triple.2.1 triple.2.2).sum

theorem mem_triples {settings : Settings} {name key value : Text} :
    (name, key, value) ∈ settings.triples ↔ settings.value? name key = some value := by
  simp only [triples, List.mem_flatMap, List.mem_map, Prod.mk.injEq, Prod.exists,
    value?_eq_some_iff]
  constructor
  · rintro ⟨name, group, member, key, value, inner, rfl, rfl, rfl⟩
    exact ⟨group, member, inner⟩
  · rintro ⟨group, member, inner⟩
    exact ⟨name, group, member, key, value, inner, rfl, rfl, rfl⟩

theorem nodup_triples (settings : Settings) : settings.triples.Nodup := by
  rw [triples, List.nodup_flatMap]
  constructor
  · intro group _
    have injective : Function.Injective fun entry : Text × Text => (group.1, entry.1, entry.2) := by
      rintro ⟨key, value⟩ ⟨key', value'⟩ same
      simpa using same
    exact (List.Nodup.of_map Prod.fst group.2.nodup).map injective
  · have distinct := List.pairwise_map.mp settings.nodup
    refine distinct.imp fun {left right} different triple inLeft inRight => different ?_
    obtain ⟨_, -, rfl⟩ := List.mem_map.mp inLeft
    obtain ⟨_, -, same⟩ := List.mem_map.mp inRight
    exact (Prod.mk.inj same).1.symm

/-- Tables with the same content hold equally much. -/
theorem Same.size_eq {left right : Settings} (same : left.Same right) : left.size = right.size := by
  have members : ∀ triple, triple ∈ left.triples ↔ triple ∈ right.triples := by
    rintro ⟨name, key, value⟩
    rw [mem_triples, mem_triples, (same name).2 key]
  have permuted :=
    (List.perm_ext_iff_of_nodup (nodup_triples left) (nodup_triples right)).mpr members
  exact (permuted.map _).sum_eq

def Effect.weight : Effect → Nat
  | .opened _ => 0
  | .stored _ key value => entryWeight key value

/-- What some effects put into an empty table holds no more than the effects do. -/
theorem size_applyAll_le (effects : List Effect) :
    (applyAll ∅ effects).size ≤ (effects.map Effect.weight).sum := by
  let stored : Text × Text × Text → Effect := fun triple => .stored triple.1 triple.2.1 triple.2.2
  have injective : Function.Injective stored := by
    rintro ⟨name, key, value⟩ ⟨name', key', value'⟩ same
    simpa [stored] using same
  have subset : (applyAll ∅ effects).triples.map stored ⊆ effects := by
    intro effect member
    obtain ⟨⟨name, key, value⟩, inside, rfl⟩ := List.mem_map.mp member
    rw [mem_triples, value?_applyAll, value?_empty, Option.or_none] at inside
    exact mem_of_lastValue? inside
  obtain ⟨order, permuted, sublist⟩ :=
    List.subperm_of_subset ((nodup_triples (applyAll ∅ effects)).map injective) subset
  have weights : (order.map Effect.weight).sum = (applyAll ∅ effects).size := by
    rw [(permuted.map Effect.weight).sum_eq, List.map_map]
    rfl
  rw [← weights]
  exact (sublist.map Effect.weight).sum_le_sum fun _ _ => Nat.zero_le _

theorem sum_weight_effectsFrom (current : Text) (lines : List Line) :
    ((effectsFrom current lines).map Effect.weight).sum = (lines.map Line.weight).sum := by
  induction lines generalizing current with
  | nil => rfl
  | cons line rest ih =>
      cases line <;> simp [effectsFrom, Line.weight, Effect.weight, ih]

end Startup.Settings
