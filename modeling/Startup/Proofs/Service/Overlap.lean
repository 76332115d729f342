import Startup.Proofs.Service.Sharing

/-!
# Workers that overlap

A start looks only at the worker to which the service has a handle. A worker whose handle a stop has
taken may still be alive: the stop may be on its way, its time may be over, or the worker itself may
have stopped the service. A start that comes then starts a second worker beside it, and there is no
other way to have two.
-/

namespace Startup

open SharedService

/-- Whether at most one worker is alive. -/
def Service.Alone (service : Service) : Prop :=
  ∀ first second, service.isAlive first = true → service.isAlive second = true → first = second

namespace SharedService

/-- Whether every worker that is alive was handed out. -/
def AliveHanded (shared : SharedService) : Prop :=
  ∀ worker, shared.service.isAlive worker = true → worker ∈ shared.handed

/-- Whether all workers have finished to which a stop took the handle. -/
def TakenFinished (shared : SharedService) : Prop :=
  ∀ stop ∈ shared.stops, shared.service.isAlive stop.worker = false

/-- Whether every stop that has waited to the end has seen its worker finish. -/
def WaitedFinished (shared : SharedService) : Prop :=
  ∀ stop ∈ shared.stops, stop.HasWaited → shared.service.isAlive stop.worker = false

variable {shared : SharedService}

theorem isAlive_start {launched : Service} (accepted : shared.service.launch = .ok launched)
    (worker : Nat) :
    shared.start.service.isAlive worker = true ↔
      shared.service.isAlive worker = true ∨ worker = shared.service.workers.length := by
  obtain ⟨main, -, -, rfl⟩ := Service.exists_of_launch accepted
  rw [start_of_launch accepted, Service.isAlive, Service.isAlive]
  dsimp only
  rcases Nat.lt_trichotomy worker shared.service.workers.length with inside | rfl | outside
  · rw [List.getElem?_append_left inside]
    exact (or_iff_left (Nat.ne_of_lt inside)).symm
  · simp
  · rw [List.getElem?_eq_none (by simp; omega), List.getElem?_eq_none (by omega)]
    simp [Nat.ne_of_gt outside]

theorem isAlive_stop (caller? : Option Nat) (timed : Bool) (worker : Nat) :
    (shared.stop caller? timed).service.isAlive worker = shared.service.isAlive worker := by
  unfold stop
  split <;> rfl

/-- The worker whose handle an accepted start replaces has finished. -/
theorem AliveHanded.mem_taken {launched : Service} (handed : AliveHanded shared)
    (accepted : shared.service.launch = .ok launched) {worker : Nat}
    (alive : shared.service.isAlive worker = true) :
    worker ∈ shared.stops.map Stop.worker := by
  obtain ⟨main, -, idle, -⟩ := Service.exists_of_launch accepted
  rcases List.mem_append.mp (handed worker alive) with taken | stored
  · exact taken
  · have running : shared.service.running? = some worker :=
      Option.filter_eq_some_iff.mpr ⟨Option.mem_toList.mp stored, alive⟩
    rw [Service.isRunning, running] at idle
    cases idle

theorem AliveHanded.next (handed : AliveHanded shared) (event : Event) :
    AliveHanded (shared.next event) := by
  intro worker alive
  rcases next_cases shared event with
    ⟨launched, accepted, -, same⟩ | ⟨taken, caller?, timed, handle, -, -, same⟩ | kept
  · rw [same] at alive ⊢
    obtain ⟨main, -, -, rfl⟩ := Service.exists_of_launch accepted
    rcases (isAlive_start accepted worker).mp alive with before | rfl
    · rw [start_of_launch accepted]
      exact List.mem_append_left _ (handed.mem_taken accepted before)
    · rw [start_of_launch accepted]
      exact List.mem_append_right _ List.mem_cons_self
  · rw [same, isAlive_stop] at alive
    rw [same, stop_of_handle handle]
    simpa [SharedService.handed, Service.release, handle] using handed worker alive
  · rw [SharedService.handed, kept.taken, kept.handle?]
    exact handed worker (kept.alive worker alive)

/-- An accepted start finds every worker finished exactly when those have finished to which a stop
took the handle. -/
theorem AliveHanded.finished_iff {launched : Service} (handed : AliveHanded shared)
    (accepted : shared.service.launch = .ok launched) :
    (∀ worker, shared.service.isAlive worker = false) ↔ TakenFinished shared := by
  constructor
  · exact fun finished stop _ => finished stop.worker
  · intro finished worker
    cases alive : shared.service.isAlive worker with
    | false => rfl
    | true =>
        obtain ⟨stop, member, rfl⟩ := List.mem_map.mp (handed.mem_taken accepted alive)
        exact alive.symm.trans (finished stop member)

/-- A worker that has finished stays so, and a stop that waits to the end returns after that. -/
theorem WaitedFinished.next (finished : WaitedFinished shared) (balanced : Balanced shared)
    (event : Event) : WaitedFinished (shared.next event) := by
  intro stop member waited
  rcases next_cases shared event with
    ⟨launched, accepted, -, same⟩ | ⟨taken, caller?, timed, handle, -, -, same⟩ | kept
  · rw [same] at member ⊢
    rw [start_of_launch accepted] at member
    have inside := balanced.known stop.worker
      (List.mem_append_left _ (List.mem_map_of_mem member))
    refine Bool.eq_false_iff.mpr fun alive => ?_
    rcases (isAlive_start accepted stop.worker).mp alive with before | new
    · exact Bool.eq_false_iff.mp (finished stop member waited) before
    · exact Nat.ne_of_lt inside new
  · rw [same] at member ⊢
    rw [isAlive_stop]
    rw [stop_of_handle handle] at member
    rcases List.mem_append.mp member with before | now
    · exact finished stop before waited
    · -- The stop has just taken its handle.
      cases List.mem_singleton.mp now
      cases waited.1
  · rcases kept.waited stop member waited with before | now
    · refine Bool.eq_false_iff.mpr fun alive => ?_
      exact Bool.eq_false_iff.mp (finished stop before waited) (kept.alive _ alive)
    · exact now

/-- Whether an event is a start that is accepted. -/
def Accepts (shared : SharedService) (event : Event) : Prop :=
  event = .start ∧ ∃ launched, shared.service.launch = .ok launched

/-- Among workers of which at most one is alive, only an accepted start can bring a second one. -/
theorem alone_next_iff (handed : AliveHanded shared) (balanced : Balanced shared)
    (alone : shared.service.Alone) (event : Event) :
    (shared.next event).service.Alone ↔ (shared.Accepts event → TakenFinished shared) := by
  rcases next_cases shared event with
    ⟨launched, accepted, rfl, same⟩ | ⟨taken, caller?, timed, handle, -, rfl, same⟩ | kept
  · rw [same]
    constructor
    · -- The new worker is none of those before.
      rintro alone - stop member
      cases alive : shared.service.isAlive stop.worker with
      | false => rfl
      | true =>
          have place := alone stop.worker shared.service.workers.length
            ((isAlive_start accepted _).mpr (.inl alive))
            ((isAlive_start accepted _).mpr (.inr rfl))
          have inside := balanced.known stop.worker
            (List.mem_append_left _ (List.mem_map_of_mem member))
          exact absurd place (Nat.ne_of_lt inside)
    · intro taken first second
      have finished := (handed.finished_iff accepted).mpr (taken ⟨rfl, launched, accepted⟩)
      rw [isAlive_start accepted, isAlive_start accepted, finished first, finished second]
      rintro (impossible | rfl) (impossible | rfl)
      · cases impossible
      · cases impossible
      · cases impossible
      · rfl
  · rw [same]
    refine iff_of_true ?_ ?_
    · intro first second
      rw [isAlive_stop, isAlive_stop]
      exact alone first second
    · rintro ⟨impossible, -⟩
      cases impossible
  · refine iff_of_true ?_ ?_
    · exact fun first second one other =>
        alone first second (kept.alive _ one) (kept.alive _ other)
    · rintro ⟨rfl, launched, accepted⟩
      have length := kept.length
      obtain ⟨main, -, -, rfl⟩ := Service.exists_of_launch accepted
      rw [next, start_of_launch accepted] at length
      simp at length

end SharedService

theorem forall_prefix_concat {α : Type} {holds : List α → Prop} (xs : List α) (last : α) :
    (∀ before, before <+: xs ++ [last] → holds before) ↔
      (∀ before, before <+: xs → holds before) ∧ holds (xs ++ [last]) := by
  constructor
  · intro all
    exact ⟨fun before early => all before (early.trans (List.prefix_append ..)),
      all _ (List.prefix_refl _)⟩
  · rintro ⟨all, whole⟩ before early
    rcases List.prefix_concat_iff.mp early with rfl | earlier
    · exact whole
    · exact all before earlier

theorem forall_concat_prefix_concat {α : Type} {holds : List α → α → Prop} (xs : List α)
    (last : α) :
    (∀ before next, before ++ [next] <+: xs ++ [last] → holds before next) ↔
      (∀ before next, before ++ [next] <+: xs → holds before next) ∧ holds xs last := by
  constructor
  · intro all
    exact ⟨fun before next early => all before next (early.trans (List.prefix_append ..)),
      all xs last (List.prefix_refl _)⟩
  · rintro ⟨all, whole⟩ before next early
    rcases List.prefix_concat_iff.mp early with same | earlier
    · obtain ⟨rfl, final⟩ := List.append_inj' same rfl
      cases final
      exact whole
    · exact all before next earlier

section Runs

variable (name : Text) (stopsOnWait : Bool) (events : List Event)

theorem aliveHanded_sharedAfter : AliveHanded (sharedAfter name stopsOnWait events) := by
  induction events using List.reverseRecOn with
  | nil =>
      intro worker alive
      cases alive
  | append_singleton events event ih =>
      rw [sharedAfter_concat]
      exact ih.next event

theorem waitedFinished_sharedAfter : WaitedFinished (sharedAfter name stopsOnWait events) := by
  induction events using List.reverseRecOn with
  | nil =>
      intro stop member
      cases member
  | append_singleton events event ih =>
      rw [sharedAfter_concat]
      exact ih.next (balanced_sharedAfter name stopsOnWait events) event

/-- At every moment of a run at most one worker is alive exactly when every accepted start of the
run comes after all workers have finished to which a stop took the handle. -/
theorem alone_iff_takenFinished :
    (∀ before, before <+: events → (sharedAfter name stopsOnWait before).service.Alone) ↔
      ∀ before event, before ++ [event] <+: events →
        (sharedAfter name stopsOnWait before).Accepts event →
          (sharedAfter name stopsOnWait before).TakenFinished := by
  induction events using List.reverseRecOn with
  | nil =>
      refine iff_of_true ?_ ?_
      · intro before early first second alive
        rw [List.prefix_nil.mp early] at alive
        cases alive
      · intro before event early
        cases (List.append_eq_nil_iff.mp (List.prefix_nil.mp early)).2
  | append_singleton events event ih =>
      rw [forall_prefix_concat, forall_concat_prefix_concat, ← ih]
      refine and_congr_right fun alone => ?_
      rw [sharedAfter_concat]
      exact alone_next_iff (aliveHanded_sharedAfter name stopsOnWait events)
        (balanced_sharedAfter name stopsOnWait events) (alone events (List.prefix_refl _)) event

/-- The same in terms of what the starts find: every accepted start of the run comes when all
workers have finished. -/
theorem alone_iff_finished :
    (∀ before, before <+: events → (sharedAfter name stopsOnWait before).service.Alone) ↔
      ∀ before event, before ++ [event] <+: events →
        (sharedAfter name stopsOnWait before).Accepts event →
          ∀ worker, (sharedAfter name stopsOnWait before).service.isAlive worker = false := by
  rw [alone_iff_takenFinished]
  refine forall_congr' fun before => forall_congr' fun event => imp_congr_right fun _ =>
    forall_congr' fun accepts => ?_
  obtain ⟨-, launched, accepted⟩ := accepts
  exact ((aliveHanded_sharedAfter name stopsOnWait before).finished_iff accepted).symm

/-- At most one worker is alive at every moment if no start is accepted before all stops have waited
for their workers to the end. -/
theorem alone_of_hasWaited
    (waited : ∀ before event, before ++ [event] <+: events →
      (sharedAfter name stopsOnWait before).Accepts event →
        ∀ stop ∈ (sharedAfter name stopsOnWait before).stops, stop.HasWaited) :
    (sharedAfter name stopsOnWait events).service.Alone := by
  refine (alone_iff_takenFinished name stopsOnWait events).mpr ?_ events (List.prefix_refl _)
  intro before event early accepts stop member
  exact waitedFinished_sharedAfter name stopsOnWait before stop member
    (waited before event early accepts stop member)

end Runs

/-- A stop whose time is over returns before its worker has finished, and a start comes then. -/
def overtaken : List Event :=
  [.setMain (.works .returns), .start, .begins 0, .stop none true, .proceed 0 false,
    .proceed 0 false, .proceed 0 true, .start]

/-- Both starts are accepted, and then two workers are alive. -/
theorem not_alone_overtaken :
    (sharedAfter "app" false overtaken).answers = [true, true] ∧
      ¬ (sharedAfter "app" false overtaken).service.Alone := by
  refine ⟨by decide, fun alone => ?_⟩
  have same : 0 = 1 := alone 0 1 (by decide) (by decide)
  cases same

end Startup
