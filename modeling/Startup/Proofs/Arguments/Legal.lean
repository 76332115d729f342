import Startup.Proofs.Arguments.Given
import Startup.Proofs.Files.Legal

/-!
# Legal command lines

A value on a command line stands in one of its arguments, be it a part of the argument or the whole
of it. So the values of a command line are legal texts when its arguments are.
-/

namespace Startup.Arguments

theorem Form.legal_value {form : Form} (inside : form.inside.Legal)
    (following : ∀ argument ∈ form.following, argument.Legal) : form.value.Legal := by
  cases form with
  | flag =>
      have word : flagValue.Legal := by decide
      exact word
  | attached value => exact inside
  | separate value => exact following value (List.mem_singleton_self value)

/-- What stands behind the name of a long option holds the value, if there is one in the argument.
-/
theorem legal_inside_of_assigned {equals : Bool} {form : Form}
    (marked : form.inside ≠ [] → equals = true) (legal : (assigned equals form).Legal) :
    form.inside.Legal := by
  cases equals with
  | false =>
      have empty : form.inside = [] := by_contra fun inside => Bool.noConfusion (marked inside)
      rw [empty]
      exact Text.legal_nil
  | true => exact (List.forall_mem_cons.mp legal).2

theorem legal_of_mem_bindings {schema : Schema} {item : Item} (fits : item.Fits schema)
    (legal : ∀ argument ∈ item.arguments, argument.Legal) {key value : Text}
    (bound : (key, value) ∈ item.bindings) : value.Legal := by
  obtain ⟨here, further⟩ := List.forall_mem_cons.mp legal
  cases item with
  | blank => cases bound
  | positional argument => cases bound
  | long name equals option form =>
      cases List.mem_singleton.mp bound
      have behind := (List.forall_mem_cons.mp (List.forall_mem_cons.mp here).2).2
      exact Form.legal_value
        (legal_inside_of_assigned fits.2.2.2.2 (Text.legal_append.mp behind).2) further
  | bundle flags name option form =>
      rcases List.mem_append.mp bound with inFlags | last
      · obtain ⟨flag, -, same⟩ := List.mem_map.mp inFlags
        cases same
        decide
      · cases List.mem_singleton.mp last
        have behind := (Text.legal_append.mp (List.forall_mem_cons.mp here).2).2
        exact Form.legal_value (List.forall_mem_cons.mp behind).2 further

/-- The values of an accepted command line with legal arguments are legal, and so are those of
absent options if the default values are. -/
theorem legal_value_of_accepted {interface : Interface} {arguments : List Text}
    {path? : Option Text} (accepted : (interface.parse arguments path?).error? = none)
    (legal : ∀ argument ∈ arguments, argument.Legal)
    (defaults : ∀ option ∈ interface.schema, option.defaultValue.Legal) (name : Text)
    {fallback : Text} (plain : fallback.Legal) :
    ((interface.parse arguments path?).value name fallback).Legal := by
  obtain ⟨items, derives, collected⟩ := exists_derivation_of_parse accepted
  rw [Interface.value, Interface.value?, collected, get?_meaning]
  cases given : (valuesOf name items).getLast? with
  | some value =>
      obtain ⟨item, member, bound⟩ := mem_valuesOf.mp (List.mem_of_getLast? given)
      refine legal_of_mem_bindings (derives.fits item member) (fun argument inner => ?_) bound
      apply legal
      rw [← derives.spells]
      exact List.mem_flatMap.mpr ⟨item, member, inner⟩
  | none =>
      cases found : (interface.parse arguments path?).schema.find? name with
      | none => exact plain
      | some option =>
          dsimp only
          by_cases empty : option.defaultValue = []
          · rw [if_pos empty]
            exact plain
          · rw [if_neg empty]
            exact defaults option (List.mem_of_find?_eq_some found)

end Startup.Arguments
