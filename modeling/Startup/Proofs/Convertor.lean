import Startup.Convertor
import Startup.Proofs.OrderedMap

/-!
# Which convertor serves a class

Convertors are registered one after the other, on top of those that are there at the start. Two things
decide by which one a class is converted: the first class in its resolution order for which there is
any registration, and the registration for that class that came last. So one more registration
matters to a class exactly if its own class stands in the order and no class in front of it has a
convertor.
-/

namespace Startup.Registry

def after (given : List Convertor) : Registry :=
  given.foldl register standard

def history (given : List Convertor) : List Convertor :=
  standard.entries.map Prod.snd ++ given

def last? (registrations : List Convertor) (cls : Class) : Option Convertor :=
  (registrations.filter fun convertor => convertor.cls = cls).getLast?

def Registered (registrations : List Convertor) (cls : Class) : Prop :=
  ∃ convertor ∈ registrations, convertor.cls = cls

instance (registrations : List Convertor) (cls : Class) :
    Decidable (Registered registrations cls) :=
  inferInstanceAs (Decidable (∃ _ ∈ _, _))

theorem last?_eq_none_iff {registrations : List Convertor} {cls : Class} :
    last? registrations cls = none ↔ ¬ Registered registrations cls := by
  simp [last?, Registered]

theorem last?_concat (registrations : List Convertor) (convertor : Convertor) (cls : Class) :
    last? (registrations ++ [convertor]) cls =
      if convertor.cls = cls then some convertor else last? registrations cls := by
  unfold last?
  by_cases same : convertor.cls = cls <;> simp [List.filter_append, same]

theorem get?_foldl_register (registrations : List Convertor) (cls : Class) :
    OrderedMap.get? (registrations.foldl register ∅) cls = last? registrations cls := by
  have stored : registrations.foldl register ∅ =
      OrderedMap.ofList (registrations.map fun convertor => (convertor.cls, convertor)) := by
    rw [OrderedMap.ofList, OrderedMap.insertAll, List.foldl_map]
    rfl
  rw [stored, OrderedMap.ofList, OrderedMap.get?_insertAll_eq_getLast?, OrderedMap.get?_empty,
    Option.or_none, List.filter_map, List.map_map, Function.comp_def, Function.comp_def, List.map_id',
    last?]

/-- A class has the convertor that was registered last for it. -/
theorem get?_after (given : List Convertor) (cls : Class) :
    OrderedMap.get? (after given) cls = last? (history given) cls := by
  have start : standard = (standard.entries.map Prod.snd).foldl register ∅ := rfl
  rw [after, start, ← List.foldl_append, get?_foldl_register, history]

/-- Whether a convertor was registered last for the first class in an order that has any
registration. -/
def Serves (registrations : List Convertor) (order : List Class) (convertor : Convertor) : Prop :=
  ∃ nearer base further, order = nearer ++ base :: further ∧
    last? registrations base = some convertor ∧ ∀ cls ∈ nearer, ¬ Registered registrations cls

/-- Whether a class stands in an order with no registration for the classes in front of it. -/
def Reaches (registrations : List Convertor) (order : List Class) (cls : Class) : Prop :=
  ∃ nearer further, order = nearer ++ cls :: further ∧
    ∀ other ∈ nearer, ¬ Registered registrations other

theorem find?_after (given : List Convertor) (order : List Class) :
    (after given).find? order = order.findSome? (last? (history given)) := by
  have lookups : (fun cls => OrderedMap.get? (after given) cls) = last? (history given) :=
    funext (get?_after given)
  rw [find?, lookups]

theorem find?_eq_some_iff {given : List Convertor} {order : List Class} {convertor : Convertor} :
    (after given).find? order = some convertor ↔ Serves (history given) order convertor := by
  simp only [find?_after, List.findSome?_eq_some_iff, last?_eq_none_iff, Serves]

theorem find?_eq_none_iff {given : List Convertor} {order : List Class} :
    (after given).find? order = none ↔ ∀ cls ∈ order, ¬ Registered (history given) cls := by
  simp only [find?_after, List.findSome?_eq_none_iff, last?_eq_none_iff]

theorem reaches_cons_iff {registrations : List Convertor} {first cls : Class}
    {rest : List Class} :
    Reaches registrations (first :: rest) cls ↔
      first = cls ∨ ¬ Registered registrations first ∧ Reaches registrations rest cls := by
  constructor
  · rintro ⟨nearer, further, parts, unregistered⟩
    cases nearer with
    | nil => exact Or.inl (List.cons.inj parts).1
    | cons other nearer =>
        obtain ⟨rfl, rest⟩ := List.cons.inj parts
        rw [List.forall_mem_cons] at unregistered
        exact Or.inr ⟨unregistered.1, nearer, further, rest, unregistered.2⟩
  · rintro (rfl | ⟨unregistered, nearer, further, rfl, others⟩)
    · exact ⟨[], rest, rfl, List.forall_mem_nil _⟩
    · exact ⟨first :: nearer, further, rfl, List.forall_mem_cons.mpr ⟨unregistered, others⟩⟩

/-- One more registration is found by the classes that it reaches, and by no others. -/
theorem findSome?_concat (registrations : List Convertor) (convertor : Convertor)
    (order : List Class) :
    (Reaches registrations order convertor.cls →
      order.findSome? (last? (registrations ++ [convertor])) = some convertor) ∧
    (¬ Reaches registrations order convertor.cls →
      order.findSome? (last? (registrations ++ [convertor])) =
        order.findSome? (last? registrations)) := by
  induction order with
  | nil =>
      refine ⟨?_, fun _ => rfl⟩
      rintro ⟨nearer, further, parts, -⟩
      exact absurd parts (by simp)
  | cons first rest ih =>
      rw [reaches_cons_iff, List.findSome?_cons, List.findSome?_cons, last?_concat]
      by_cases here : convertor.cls = first
      · rw [if_pos here]
        exact ⟨fun _ => rfl, fun other => absurd (Or.inl here.symm) other⟩
      · rw [if_neg here, or_iff_right (Ne.symm here)]
        cases last : last? registrations first with
        | some found =>
            refine ⟨fun reaches => ?_, fun _ => rfl⟩
            rw [last?_eq_none_iff.mpr reaches.1] at last
            cases last
        | none =>
            have unregistered := last?_eq_none_iff.mp last
            exact ⟨fun reaches => ih.1 reaches.2,
              fun other => ih.2 fun reaches => other ⟨unregistered, reaches⟩⟩

theorem history_concat (given : List Convertor) (convertor : Convertor) :
    history (given ++ [convertor]) = history given ++ [convertor] :=
  (List.append_assoc _ _ _).symm

section Conversions

variable {order : Class → List Class} {cls : Class}

/-- Whether a class is converted by a certain convertor. -/
structure Uses (registry : Registry) (order : Class → List Class) (cls : Class)
    (convertor : Convertor) : Prop where
  serves : registry.serves order cls = true
  finds : registry.convertor order cls = .ok convertor
  write : ∀ value, value.cls = cls → registry.write order value = convertor.write value
  read : ∀ text, registry.read order cls text = convertor.read cls text

/-- Whether a class cannot be converted for want of a convertor. -/
structure Refuses (registry : Registry) (order : Class → List Class) (cls : Class) : Prop where
  serves : registry.serves order cls = false
  finds : registry.convertor order cls = .error (.noConvertor cls.name)
  write : ∀ value, value.cls = cls → registry.write order value = .error (.noConvertor cls.name)
  read : ∀ text, registry.read order cls text = .error (.noConvertor cls.name)

/-- Whether two registries convert a class in the same way. -/
structure Alike (left right : Registry) (order : Class → List Class) (cls : Class) : Prop where
  serves : left.serves order cls = right.serves order cls
  finds : left.convertor order cls = right.convertor order cls
  write : ∀ value, value.cls = cls → left.write order value = right.write order value
  read : ∀ text, left.read order cls text = right.read order cls text

theorem uses_iff_find? {registry : Registry} {convertor : Convertor} :
    registry.Uses order cls convertor ↔ registry.find? (order cls) = some convertor := by
  constructor
  · intro uses
    have result := uses.finds
    unfold Registry.convertor at result
    cases found : registry.find? (order cls) with
    | none =>
        rw [found] at result
        cases result
    | some other =>
        rw [found] at result
        rw [Except.ok.inj result]
  · intro found
    have result : registry.convertor order cls = .ok convertor := by
      rw [Registry.convertor, found]
    refine ⟨?_, result, ?_, fun text => ?_⟩
    · rw [Registry.serves, found]
      rfl
    · rintro value rfl
      rw [Registry.write, result]
      rfl
    · rw [Registry.read, result]
      rfl

theorem refuses_iff_find? {registry : Registry} :
    registry.Refuses order cls ↔ registry.find? (order cls) = none := by
  constructor
  · intro refuses
    exact Option.isNone_iff_eq_none.mp (Option.isSome_eq_false_iff.mp refuses.serves)
  · intro found
    have result : registry.convertor order cls = .error (.noConvertor cls.name) := by
      rw [Registry.convertor, found]
    refine ⟨?_, result, ?_, fun text => ?_⟩
    · rw [Registry.serves, found]
      rfl
    · rintro value rfl
      rw [Registry.write, result]
      rfl
    · rw [Registry.read, result]
      rfl

theorem alike_of_find? {left right : Registry}
    (same : left.find? (order cls) = right.find? (order cls)) : left.Alike right order cls := by
  have result : left.convertor order cls = right.convertor order cls := by
    rw [Registry.convertor, Registry.convertor, same]
  refine ⟨?_, result, ?_, fun text => ?_⟩
  · rw [Registry.serves, Registry.serves, same]
  · rintro value rfl
    rw [Registry.write, Registry.write, result]
  · rw [Registry.read, Registry.read, result]

end Conversions

/-- Whatever the resolution orders of classes are and whatever was registered:
- a class is converted by the last registration for the first class in its order that has any;
- it is refused exactly if no class in its order has one;
- only the last registration for each class matters;
- one more registration serves the classes that it reaches, and changes nothing for the others. -/
theorem uses_iff_serves (order : Class → List Class) (given : List Convertor) :
    (∀ cls convertor, (after given).Uses order cls convertor ↔
      Serves (history given) (order cls) convertor) ∧
    (∀ cls, (after given).Refuses order cls ↔
      ∀ base ∈ order cls, ¬ Registered (history given) base) ∧
    (∀ other, (∀ cls, last? (history given) cls = last? (history other) cls) →
      ∀ cls, (after given).Alike (after other) order cls) ∧
    ∀ convertor cls,
      (Reaches (history given) (order cls) convertor.cls →
        (after (given ++ [convertor])).Uses order cls convertor) ∧
      (¬ Reaches (history given) (order cls) convertor.cls →
        (after (given ++ [convertor])).Alike (after given) order cls) := by
  refine ⟨fun cls convertor => ?_, fun cls => ?_, fun other same cls => ?_,
    fun convertor cls => ⟨fun reaches => ?_, fun unreached => ?_⟩⟩
  · rw [uses_iff_find?, find?_eq_some_iff]
  · rw [refuses_iff_find?, find?_eq_none_iff]
  · apply alike_of_find?
    rw [find?_after, find?_after, funext same]
  · rw [uses_iff_find?, find?_after, history_concat]
    exact (findSome?_concat (history given) convertor (order cls)).1 reaches
  · apply alike_of_find?
    rw [find?_after, find?_after, history_concat]
    exact (findSome?_concat (history given) convertor (order cls)).2 unreached

def counts : Class := .declared "Count" 0 .integer

/-- A new convertor of integers serves the classes on top of them, but not the truth values, which
have their own. -/
theorem uses_plainInteger :
    (after ([] ++ [Convertor.plain .integer])).Uses Class.lineage counts (Convertor.plain .integer) ∧
      (after ([] ++ [Convertor.plain .integer])).Alike (after []) Class.lineage .boolean ∧
      (after []).Refuses Class.lineage .list := by
  obtain ⟨-, refuses, -, more⟩ := uses_iff_serves Class.lineage []
  have own : Registered (history []) .boolean := by decide
  refine ⟨(more _ _).1 ⟨[counts], [.object], rfl, by decide⟩, (more _ _).2 ?_,
    (refuses .list).mpr (by decide)⟩
  rintro ⟨nearer, further, parts, unregistered⟩
  cases nearer with
  | nil => exact absurd (List.cons.inj parts).1 (by decide)
  | cons first nearer =>
      obtain ⟨rfl, -⟩ := List.cons.inj parts
      exact unregistered .boolean List.mem_cons_self own

end Startup.Registry
