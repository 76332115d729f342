import Startup.Text.Basic

/-!
# The tree of loggers

Loggers come into being one by one and are known by names with dots in them. What stands before a
dot of a name is the name of a logger above, unless another dot follows. The parent of a logger is
the nearest logger above it that exists, and a logger belongs to the program if the way from parent
to parent ends at the logger of the program.
-/

namespace Startup.Logger

def program : Text := "work_assistant"

/-- The names above a name that is given backwards, nearest first. The first code point is passed
over if `skip` is set. -/
def above (skip : Bool) : Text → List Text
  | [] => []
  | point :: rest =>
      if !skip && point == '.' then
        if rest = [] then [] else rest.reverse :: above true rest
      else above false rest

def ancestors (name : Text) : List Text :=
  above false name.reverse

theorem length_lt_of_mem_above {skip : Bool} {reversed ancestor : Text}
    (member : ancestor ∈ above skip reversed) : ancestor.length < reversed.length := by
  induction reversed generalizing skip with
  | nil => simp [above] at member
  | cons point rest ih =>
      unfold above at member
      split at member
      · split at member
        · simp at member
        · rcases List.mem_cons.mp member with rfl | member
          · simp
          · exact Nat.lt_succ_of_lt (ih member)
      · exact Nat.lt_succ_of_lt (ih member)

def parent? (existing : List Text) (name : Text) : Option Text :=
  (ancestors name).find? fun ancestor => ancestor == program || existing.contains ancestor

/-- A parent has a shorter name. -/
theorem length_lt_of_parent? {existing : List Text} {name parent : Text}
    (found : parent? existing name = some parent) : parent.length < name.length := by
  simpa using length_lt_of_mem_above (List.mem_of_find?_eq_some found)

def belongs (existing : List Text) (name : Text) : Bool :=
  name == program ||
    match _found : parent? existing name with
    | some parent => belongs existing parent
    | none => false
termination_by name.length
decreasing_by exact length_lt_of_parent? ‹_›

end Startup.Logger
