import Startup.Log.Logger

/-!
# The way to the logger of the program

The names above a logger are those before its dots, where of two dots that follow each other only
the last one counts. So the way from a topic to the program is open unless the topic begins with a
dot: then the dot before the topic does not count, and the logger may be cut off.
-/

namespace Startup.Logger

/-- A name above another one is what stands before one of its dots. -/
theorem exists_of_mem_above {skip : Bool} {reversed ancestor : Text}
    (member : ancestor ∈ above skip reversed) :
    ∃ behind, reversed = behind ++ CodePoint.ofChar '.' :: ancestor.reverse := by
  induction reversed generalizing skip with
  | nil => cases member
  | cons point rest ih =>
      have later : ∀ {skip}, ancestor ∈ above skip rest →
          ∃ behind, point :: rest = behind ++ CodePoint.ofChar '.' :: ancestor.reverse := by
        intro skip member
        obtain ⟨behind, shape⟩ := ih member
        exact ⟨point :: behind, by rw [shape, List.cons_append]⟩
      rw [above] at member
      split at member
      next counts =>
        split at member
        · cases member
        · rcases List.mem_cons.mp member with rfl | member
          · obtain ⟨-, same⟩ := Bool.and_eq_true_iff.mp counts
            have dot : point = CodePoint.ofChar '.' := by simpa using same
            exact ⟨[], by rw [dot, List.reverse_reverse, List.nil_append]⟩
          · exact later member
      · exact later member

/-- What stands before a dot is above the name if the dot counts: it is not passed over at the
beginning, and no other dot follows it. -/
theorem mem_above {outer : Text} (nonempty : outer ≠ []) {skip : Bool} {inner : Text}
    (start : inner = [] → skip = false) (last : inner.getLast? ≠ some (CodePoint.ofChar '.')) :
    outer.reverse ∈ above skip (inner ++ CodePoint.ofChar '.' :: outer) := by
  induction inner generalizing skip with
  | nil =>
      rw [start rfl]
      simp [above, nonempty]
  | cons point inner ih =>
      rw [List.cons_append, above]
      have more : inner ++ CodePoint.ofChar '.' :: outer ≠ [] := by simp
      cases inner with
      | nil =>
          have other : point ≠ CodePoint.ofChar '.' := fun same => last (by rw [same]; rfl)
          rw [if_neg (by simp [other])]
          exact ih (fun _ => rfl) (by simp)
      | cons second inner =>
          rw [List.getLast?_cons_cons] at last
          rw [if_neg more]
          split
          · exact List.mem_cons_of_mem _ (ih (fun impossible => by cases impossible) last)
          · exact ih (fun _ => rfl) last

/-- The name of the logger for a topic. -/
def forTopic (topic : Text) : Text :=
  if topic = [] then program else program ++ "." ++ topic

def Undotted (topic : Text) : Prop :=
  topic.head? ≠ some (CodePoint.ofChar '.')

instance (topic : Text) : Decidable (Undotted topic) :=
  inferInstanceAs (Decidable (_ ≠ _))

theorem dot_notMem_program : CodePoint.ofChar '.' ∉ program := by decide

theorem topic_eq (topic : Text) :
    program ++ "." ++ topic = program ++ CodePoint.ofChar '.' :: topic := by
  have dot : Text.ofString "." = [CodePoint.ofChar '.'] := by rfl
  rw [dot, List.append_assoc, List.singleton_append]

theorem ancestors_topic {topic ancestor : Text} (undotted : Undotted topic)
    (member : ancestor ∈ ancestors (program ++ "." ++ topic)) :
    ancestor = program ∨ ∃ shorter, Undotted shorter ∧ shorter.length < topic.length ∧
      ancestor = program ++ "." ++ shorter := by
  obtain ⟨behind, shape⟩ := exists_of_mem_above member
  have whole : program ++ CodePoint.ofChar '.' :: topic =
      ancestor ++ CodePoint.ofChar '.' :: behind.reverse := by
    have turned := congrArg List.reverse shape
    rw [List.reverse_reverse, topic_eq] at turned
    simpa using turned
  rcases List.append_eq_append_iff.mp whole with ⟨part, rfl, rest⟩ | ⟨part, same, rest⟩
  · -- The ancestor reaches beyond the name of the program.
    cases part with
    | nil => exact Or.inl (List.append_nil program)
    | cons point shorter =>
        obtain ⟨rfl, rfl⟩ := List.cons.inj rest
        refine Or.inr ⟨shorter, ?_, by simp, (topic_eq shorter).symm⟩
        cases shorter with
        | nil => exact fun same => by cases same
        | cons first others => exact undotted
  · -- The dot cannot stand within the name of the program.
    cases part with
    | nil => exact Or.inl (by rw [same, List.append_nil])
    | cons point part =>
        obtain ⟨rfl, -⟩ := List.cons.inj rest
        exact absurd (by rw [same]; simp) dot_notMem_program

theorem program_mem_ancestors {topic : Text} (undotted : Undotted topic) :
    program ∈ ancestors (program ++ "." ++ topic) := by
  have last : topic.reverse.getLast? ≠ some (CodePoint.ofChar '.') := by
    rw [List.getLast?_reverse]
    exact undotted
  have counts : program.reverse.reverse ∈
      above false (topic.reverse ++ CodePoint.ofChar '.' :: program.reverse) :=
    mem_above (by decide) (fun _ => rfl) last
  rw [List.reverse_reverse] at counts
  rw [ancestors, topic_eq, List.reverse_append, List.reverse_cons, List.append_assoc,
    List.singleton_append]
  exact counts

/-- The parent of the logger of an undotted topic is that of the program or of a shorter topic. -/
theorem parent?_topic (existing : List Text) {topic : Text} (undotted : Undotted topic) :
    parent? existing (program ++ "." ++ topic) = some program ∨
      ∃ shorter, Undotted shorter ∧ shorter.length < topic.length ∧
        parent? existing (program ++ "." ++ topic) = some (program ++ "." ++ shorter) := by
  cases found : parent? existing (program ++ "." ++ topic) with
  | none =>
      have never := List.find?_eq_none.mp found program (program_mem_ancestors undotted)
      simp at never
  | some parent =>
      rcases ancestors_topic undotted (List.mem_of_find?_eq_some found) with rfl | topics
      · exact Or.inl rfl
      · obtain ⟨shorter, undotted', less, rfl⟩ := topics
        exact Or.inr ⟨shorter, undotted', less, rfl⟩

theorem belongs_program (existing : List Text) : belongs existing program = true := by
  rw [belongs, beq_self_eq_true, Bool.true_or]

theorem belongs_of_parent? {existing : List Text} {name parent : Text}
    (found : parent? existing name = some parent) (inner : belongs existing parent = true) :
    belongs existing name = true := by
  rw [belongs, Bool.or_eq_true]
  right
  split
  next other found' =>
    rw [found] at found'
    rw [← Option.some.inj found']
    exact inner
  next none =>
    rw [found] at none
    cases none

/-- The logger of an undotted topic belongs to the program, whatever other loggers exist. -/
theorem belongs_of_undotted (existing : List Text) {topic : Text} (undotted : Undotted topic) :
    belongs existing (program ++ "." ++ topic) = true := by
  induction length : topic.length using Nat.strongRecOn generalizing topic with
  | ind n ih =>
      rcases parent?_topic existing undotted with found | ⟨shorter, undotted', less, found⟩
      · exact belongs_of_parent? found (belongs_program existing)
      · rw [length] at less
        exact belongs_of_parent? found (ih shorter.length less undotted' rfl)

end Startup.Logger
