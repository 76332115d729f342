import Startup.Proofs.Settings.Reload

/-!
# Saving and loading again and again

A table that comes from a file comes back the same when it is saved and loaded, or it comes back
smaller. So after as many rounds as the table is large, at the latest, it stays the same.
-/

namespace Startup.Settings

/-- The table after some rounds of saving and loading, if every file can be encoded. -/
def reloadTimes? (settings : Settings) : Nat → Option Settings
  | 0 => some settings
  | rounds + 1 => settings.reload?.bind fun again => reloadTimes? again rounds

theorem reloadTimes?_succ {settings again : Settings} (reloaded : settings.reload? = some again)
    (rounds : Nat) : settings.reloadTimes? (rounds + 1) = again.reloadTimes? rounds := by
  rw [reloadTimes?, reloaded, Option.bind_some]

theorem reloadTimes?_add (settings : Settings) (first second : Nat) :
    settings.reloadTimes? (first + second) =
      (settings.reloadTimes? first).bind fun between => between.reloadTimes? second := by
  induction first generalizing settings with
  | zero => rw [Nat.zero_add, reloadTimes?, Option.bind_some]
  | succ first ih =>
      rw [Nat.succ_add, reloadTimes?, reloadTimes?, Option.bind_assoc]
      simp only [ih]

/-- A table from a file comes back the same, or it loses something. -/
theorem same_or_size_lt (bytes : Bytes) :
    ∃ again, (load ∅ (Utf8.decode bytes)).reload? = some again ∧
      (again.Same (load ∅ (Utf8.decode bytes)) ∨
        again.size < (load ∅ (Utf8.decode bytes)).size) := by
  have stable := allTexts_stable_load (Utf8.stable_decode bytes)
  have free := (loadedEntry_load (Utf8.decode bytes)).imp (fun _ name => name)
    fun _ _ entry => And.intro entry.newline entry.equals
  refine ⟨_, reload?_of_stable stable, ?_⟩
  rcases plainEntry_or_size_lt free with plain | less
  · exact Or.inl (same_of_representable ⟨plain, stable⟩)
  · exact Or.inr less

theorem Representable.of_same {left right : Settings} (representable : left.Representable)
    (same : left.Same right) : right.Representable :=
  ⟨same.everywhere representable.entries, same.everywhere representable.stable⟩

/-- A representable table stays as it is for ever. -/
theorem Representable.reloadTimes? {settings : Settings} (representable : settings.Representable)
    (rounds : Nat) : ∃ later, settings.reloadTimes? rounds = some later ∧ later.Same settings := by
  induction rounds generalizing settings with
  | zero => exact ⟨settings, rfl, Same.refl settings⟩
  | succ rounds ih =>
      have same := same_of_representable representable
      obtain ⟨later, reached, alike⟩ := ih (representable.of_same same.symm)
      have first := reload?_of_stable representable.stable
      exact ⟨later, (reloadTimes?_succ first rounds).trans reached, alike.trans same⟩

/-- A table from a file becomes representable before its size is used up. -/
theorem exists_representable (bytes : Bytes) :
    ∃ rounds ≤ (load ∅ (Utf8.decode bytes)).size, ∃ settled,
      (load ∅ (Utf8.decode bytes)).reloadTimes? rounds = some settled ∧ settled.Representable := by
  -- On the size, since each round that changes the table makes it smaller.
  induction size : (load ∅ (Utf8.decode bytes)).size using Nat.strong_induction_on
    generalizing bytes with
  | h size' ih =>
      obtain ⟨again, reloaded, same | less⟩ := same_or_size_lt bytes
      · exact ⟨0, Nat.zero_le _, _, rfl, representable_of_same reloaded same⟩
      · obtain ⟨next, rfl⟩ := exists_bytes_of_reload? reloaded
        rw [size] at less
        obtain ⟨rounds, few, settled, reached, representable⟩ := ih _ less next rfl
        exact ⟨rounds + 1, Nat.succ_le_of_lt (few.trans_lt less), settled,
          (reloadTimes?_succ reloaded rounds).trans reached, representable⟩

/-- Saving and loading a table from a file leaves it the same or makes it smaller, and after no more
rounds than the table is large it stays the same. -/
theorem reloadTimes?_settles (bytes : Bytes) :
    (∃ again, (load ∅ (Utf8.decode bytes)).reload? = some again ∧
      (again.Same (load ∅ (Utf8.decode bytes)) ∨
        again.size < (load ∅ (Utf8.decode bytes)).size)) ∧
      ∃ rounds ≤ (load ∅ (Utf8.decode bytes)).size, ∃ settled,
        (load ∅ (Utf8.decode bytes)).reloadTimes? rounds = some settled ∧
          ∀ more, ∃ later, (load ∅ (Utf8.decode bytes)).reloadTimes? (rounds + more) = some later ∧
            later.Same settled := by
  refine ⟨same_or_size_lt bytes, ?_⟩
  obtain ⟨rounds, few, settled, reached, representable⟩ := exists_representable bytes
  refine ⟨rounds, few, settled, reached, fun more => ?_⟩
  obtain ⟨later, unchanged, same⟩ := representable.reloadTimes? more
  refine ⟨later, ?_, same⟩
  rw [reloadTimes?_add, reached, Option.bind_some, unchanged]

end Startup.Settings
