import Startup.Proofs.Application.Moments
import Startup.Service.Sharing
import Mathlib.Data.List.Induction
import Mathlib.Data.List.Perm.Subperm

/-!
# Starts and shutdowns of a shared service

The locked part of a start hands out a worker that nobody had before, and the locked part of a stop
takes the handle to it away. So every worker has at most one stop, whatever the threads do
meanwhile, and only a stop calls the shutdown function.
-/

namespace Startup

open SharedService

/-! ## Lists -/

theorem countP_set_of_getElem? {α : Type} {p : α → Bool} {xs : List α} {place : Nat}
    {old : α} (found : xs[place]? = some old) (new : α) :
    (xs.set place new).countP p + (p old).toNat = xs.countP p + (p new).toNat := by
  obtain ⟨inside, rfl⟩ := List.getElem?_eq_some_iff.mp found
  have counted : (p xs[place]).toNat ≤ xs.countP p := by
    cases holds : p xs[place] with
    | false => exact Nat.zero_le _
    | true => exact List.countP_pos_iff.mpr ⟨_, List.getElem_mem inside, holds⟩
  have number (holds : Bool) : (if holds = true then 1 else 0) = holds.toNat := by
    cases holds <;> rfl
  rw [List.countP_set inside, number, number]
  omega

theorem map_set_of_getElem? {α β : Type} {f : α → β} {xs : List α} {place : Nat} {old new : α}
    (found : xs[place]? = some old) (same : f new = f old) :
    (xs.set place new).map f = xs.map f := by
  obtain ⟨inside, rfl⟩ := List.getElem?_eq_some_iff.mp found
  rw [List.map_set, same, ← List.getElem_map f (h := by simpa using inside), List.set_getElem_self]

/-! ## Steps -/

namespace Service

/-- The locked part of a start that is not refused. -/
theorem exists_of_launch {service launched : Service} (accepted : service.launch = .ok launched) :
    ∃ main, service.main? = some main ∧ service.isRunning = false ∧
      launched = { service with
        stopRequested := false
        workers := service.workers ++ [⟨main, true⟩]
        handle? := some service.workers.length } := by
  unfold launch at accepted
  cases set : service.main? with
  | none =>
      rw [set] at accepted
      cases accepted
  | some main =>
      cases running : service.isRunning with
      | true =>
          rw [set, running] at accepted
          cases accepted
      | false =>
          rw [set, running] at accepted
          cases accepted
          exact ⟨main, rfl, rfl, rfl⟩

/-- To finish is to request a stop first. -/
theorem finish_eq (service : Service) (worker : Nat) :
    service.finish worker = service.requestStop.retire worker := rfl

end Service

/-- What the statements of a stop do to a service. -/
theorem Stop.of_statement? {stop : Stop} {service after : Service} {late : Bool} {stage : Stage}
    {records : List LogRecord}
    (next : stop.statement? service late = some (stage, after, records)) :
    after.workers = service.workers ∧ after.handle? = service.handle? ∧
      after.calls.count .shutdown + stop.stage.called.toNat =
        service.calls.count .shutdown + stage.called.toNat := by
  obtain ⟨worker, caller?, timed, current⟩ := stop
  cases current with
  | requesting | calling shutdown =>
      cases next
      exact ⟨rfl, rfl, rfl⟩
  | shuttingDown =>
      simp only [statement?] at next
      cases set : service.shutdown? with
      | none =>
          rw [set] at next
          cases next
          exact ⟨rfl, rfl, rfl⟩
      | some shutdown =>
          rw [set] at next
          cases next
          exact ⟨rfl, rfl, by simp [Service.record, Stage.called]⟩
  | joining called =>
      simp only [statement?] at next
      split at next
      · cases next
        exact ⟨rfl, rfl, rfl⟩
      · cases next
  | returned called => cases next

def Stop.HasWaited (stop : Stop) : Prop :=
  stop.stage.isOver = true ∧ stop.timed = false ∧ stop.caller? ≠ some stop.worker

/-- A stop that waits to the end returns when its worker has finished. -/
theorem Stop.finished_of_statement? {stop : Stop} {service after : Service} {late : Bool}
    {stage : Stage} {records : List LogRecord}
    (next : stop.statement? service late = some (stage, after, records))
    (waited : HasWaited { stop with stage := stage }) : after.isAlive stop.worker = false := by
  obtain ⟨worker, caller?, timed, current⟩ := stop
  obtain ⟨isOver, untimed, foreign⟩ := waited
  cases current with
  | requesting | calling shutdown =>
      cases next
      cases isOver
  | shuttingDown =>
      simp only [statement?] at next
      split at next <;> cases next <;> cases isOver
  | joining called =>
      simp only [statement?] at next
      split at next
      · rename_i mayReturn
        cases next
        dsimp only at untimed foreign
        simpa [Stop.mayReturn, untimed, foreign] using mayReturn
      · cases next
  | returned called => cases next

theorem Service.isAlive_retire (service : Service) (worker other : Nat) :
    (service.retire worker).isAlive other = (service.isAlive other && worker != other) := by
  unfold Service.isAlive Service.retire
  dsimp only
  rw [List.getElem?_modify]
  by_cases same : worker = other <;> cases service.workers[other]? <;> simp [same]

/-- What a service keeps while nobody starts it, stops it or calls the shutdown function. -/
structure Service.Steady (before after : Service) : Prop where
  length : after.workers.length = before.workers.length
  handle? : after.handle? = before.handle?
  calls : after.calls.count .shutdown = before.calls.count .shutdown
  alive : ∀ worker, after.isAlive worker = true → before.isAlive worker = true

namespace Service

theorem Steady.of_same {before after : Service} (workers : after.workers = before.workers)
    (handle? : after.handle? = before.handle?) (calls : after.calls = before.calls) :
    Steady before after where
  length := by rw [workers]
  handle? := handle?
  calls := by rw [calls]
  alive worker alive := by rwa [isAlive, workers] at alive

theorem Steady.refl (service : Service) : Steady service service :=
  .of_same rfl rfl rfl

theorem steady_requestStop (service : Service) : Steady service service.requestStop :=
  .of_same rfl rfl rfl

theorem steady_retire (service : Service) (worker : Nat) :
    Steady service (service.retire worker) where
  length := List.length_modify ..
  handle? := rfl
  calls := rfl
  alive other alive := by
    rw [isAlive_retire, Bool.and_eq_true] at alive
    exact alive.1

theorem steady_record_main (service : Service) (worker : Text) :
    Steady service (service.record (.main worker)) where
  length := rfl
  handle? := rfl
  calls := by simp [record]
  alive _ alive := alive

end Service

namespace SharedService

/-- What every event keeps that is neither an accepted start nor a stop with a handle. -/
structure Kept (before after : SharedService) : Prop where
  answers : after.answers.count true = before.answers.count true
  length : after.service.workers.length = before.service.workers.length
  handle? : after.service.handle? = before.service.handle?
  taken : after.stops.map Stop.worker = before.stops.map Stop.worker
  calls :
    after.service.calls.count .shutdown + before.stops.countP (·.stage.called) =
      before.service.calls.count .shutdown + after.stops.countP (·.stage.called)
  alive : ∀ worker, after.service.isAlive worker = true → before.service.isAlive worker = true
  courses : after.courses.length = before.courses.length
  callers : after.stops.map Stop.caller? = before.stops.map Stop.caller?
  waited : ∀ stop ∈ after.stops, stop.HasWaited →
    stop ∈ before.stops ∨ after.service.isAlive stop.worker = false

variable {shared : SharedService}

theorem Kept.of_steady {after : SharedService} (steady : shared.service.Steady after.service)
    (answers : after.answers.count true = shared.answers.count true)
    (stops : after.stops = shared.stops) (courses : after.courses.length = shared.courses.length) :
    Kept shared after where
  answers := answers
  length := steady.length
  handle? := steady.handle?
  taken := by rw [stops]
  calls := by rw [stops, steady.calls]
  alive := steady.alive
  courses := courses
  callers := by rw [stops]
  waited stop member _ := by
    rw [stops] at member
    exact Or.inl member

theorem Kept.refl (shared : SharedService) : Kept shared shared :=
  .of_steady (.refl _) rfl rfl rfl

theorem kept_goOn {worker : Nat} {before after : Course} {service : Service}
    {records : List LogRecord} (steady : shared.service.Steady service) :
    Kept shared (shared.goOn worker before after service records) := by
  unfold goOn
  split
  · exact .of_steady steady rfl rfl (List.length_set ..)
  · exact .refl shared

theorem kept_begins (worker : Nat) : Kept shared (shared.begins worker) := by
  refine kept_goOn ?_
  split
  · split
    · exact shared.service.steady_requestStop
    · exact .refl shared.service
  · exact shared.service.steady_record_main _

theorem kept_leaves (worker : Nat) (fails : Bool) : Kept shared (shared.leaves worker fails) := by
  unfold leaves
  split
  · exact .refl shared
  · exact kept_goOn shared.service.steady_requestStop

theorem kept_report : Kept shared shared.report := by
  unfold report
  split
  · exact .refl shared
  · exact .of_steady (.refl _) rfl rfl rfl

theorem kept_proceed (place : Nat) (late : Bool) : Kept shared (shared.proceed place late) := by
  unfold proceed
  split
  · exact .refl shared
  · rename_i stop found
    split
    · exact .refl shared
    · rename_i stage service records next
      obtain ⟨workers, handle?, calls⟩ := Stop.of_statement? next
      have called := countP_set_of_getElem? found { stop with stage := stage }
        (p := fun stop => stop.stage.called)
      refine ⟨rfl, congrArg List.length workers, handle?, map_set_of_getElem? found rfl, ?_, ?_,
        rfl, map_set_of_getElem? found rfl, ?_⟩
      · dsimp only at called ⊢
        omega
      · intro worker alive
        rwa [Service.isAlive, workers] at alive
      · intro other member waited
        rcases List.mem_or_eq_of_mem_set member with before | rfl
        · exact Or.inl before
        · have finished := Stop.finished_of_statement? next waited
          exact Or.inr finished

/-- What the locked part of an accepted start does. -/
theorem start_of_launch {launched : Service} (accepted : shared.service.launch = .ok launched) :
    shared.start =
      { shared with
        service := launched
        courses := shared.courses ++ [.new]
        answers := shared.answers ++ [true]
        unreported := shared.unreported + 1 } := by
  rw [start, accepted]

/-- What the locked part of a stop does that finds a handle. -/
theorem stop_of_handle {worker : Nat} (handle : shared.service.handle? = some worker)
    (caller? : Option Nat) (timed : Bool) :
    shared.stop caller? timed =
      { shared with
        service := shared.service.release
        stops := shared.stops ++ [⟨worker, caller?, timed, .requesting⟩] } := by
  rw [stop, handle]

/-- A stop that finds no handle changes nothing. -/
theorem stop_of_no_handle (none : shared.service.handle? = none) (caller? : Option Nat)
    (timed : Bool) : shared.stop caller? timed = shared := by
  rw [stop, none]

/-- An event is an accepted start, a stop that takes a handle, or it keeps what matters to both. -/
theorem next_cases (shared : SharedService) (event : Event) :
    (∃ launched, shared.service.launch = .ok launched ∧ event = .start ∧
      shared.next event = shared.start) ∨
    (∃ worker caller? timed, shared.service.handle? = some worker ∧
      shared.canCall caller? = true ∧ event = .stop caller? timed ∧
      shared.next event = shared.stop caller? timed) ∨
    Kept shared (shared.next event) := by
  cases event with
  | start =>
      cases launch : shared.service.launch with
      | ok launched => exact .inl ⟨launched, rfl, rfl, rfl⟩
      | error refusal =>
          refine .inr (.inr ?_)
          rw [next, start, launch]
          exact .of_steady (.refl _) (by simp) rfl rfl
  | stop caller? timed =>
      refine .inr ?_
      rw [next]
      split
      · rename_i able
        cases handle : shared.service.handle? with
        | none =>
            rw [stop_of_no_handle handle]
            exact .inr (.refl shared)
        | some worker => exact .inl ⟨worker, caller?, timed, rfl, able, rfl, rfl⟩
      · exact .inr (.refl shared)
  | report => exact .inr (.inr kept_report)
  | proceed place late => exact .inr (.inr (kept_proceed place late))
  | requestStop =>
      exact .inr (.inr (.of_steady shared.service.steady_requestStop rfl rfl rfl))
  | begins worker => exact .inr (.inr (kept_begins worker))
  | leaves worker fails => exact .inr (.inr (kept_leaves worker fails))
  | ends worker => exact .inr (.inr (kept_goOn (shared.service.steady_retire worker)))
  | setMain main => exact .inr (.inr (.of_steady (.of_same rfl rfl rfl) rfl rfl rfl))
  | setShutdown shutdown =>
      exact .inr (.inr (.of_steady (.of_same rfl rfl rfl) rfl rfl rfl))

/-! ## Accounts -/

/-- The workers to which a stop took the handle, and the one to which the service has it. -/
def handed (shared : SharedService) : List Nat :=
  shared.stops.map Stop.worker ++ shared.service.handle?.toList

/-- How starts, stops and shutdowns balance. -/
structure Balanced (shared : SharedService) : Prop where
  started : shared.answers.count true = shared.service.workers.length
  known : ∀ worker ∈ shared.handed, worker < shared.service.workers.length
  apart : shared.handed.Nodup
  called : shared.service.calls.count .shutdown = shared.stops.countP (·.stage.called)
  courses : shared.courses.length = shared.service.workers.length
  callers : ∀ worker, some worker ∈ shared.stops.map Stop.caller? →
    worker < shared.service.workers.length

theorem Balanced.of_kept {after : SharedService} (balanced : Balanced shared)
    (kept : Kept shared after) : Balanced after := by
  have handed : after.handed = shared.handed := by
    rw [SharedService.handed, SharedService.handed, kept.taken, kept.handle?]
  constructor
  · rw [kept.answers, kept.length, balanced.started]
  · rw [handed, kept.length]
    exact balanced.known
  · rw [handed]
    exact balanced.apart
  · have calls := kept.calls
    have called := balanced.called
    omega
  · rw [kept.courses, kept.length, balanced.courses]
  · rw [kept.callers, kept.length]
    exact balanced.callers

/-- An accepted start hands out a worker that is new. The handle that it replaces is to a worker
whose start nobody stopped, and nobody can any more. -/
theorem Balanced.start {launched : Service} (balanced : Balanced shared)
    (accepted : shared.service.launch = .ok launched) : Balanced shared.start := by
  obtain ⟨main, -, -, rfl⟩ := Service.exists_of_launch accepted
  have known : ∀ worker ∈ shared.stops.map Stop.worker, worker < shared.service.workers.length :=
    fun worker taken => balanced.known worker (List.mem_append_left _ taken)
  rw [start_of_launch accepted]
  constructor
  · simp [balanced.started]
  · intro worker member
    rw [List.length_append, List.length_singleton]
    rcases List.mem_append.mp member with taken | stored
    · exact Nat.lt_succ_of_lt (known worker taken)
    · rw [List.mem_singleton.mp stored]
      exact Nat.lt_succ_self _
  · refine List.nodup_append.mpr ⟨balanced.apart.sublist (List.sublist_append_left ..),
      List.nodup_cons.mpr ⟨List.not_mem_nil, List.nodup_nil⟩, ?_⟩
    intro worker taken stored member
    rw [List.mem_singleton.mp member]
    exact Nat.ne_of_lt (known worker taken)
  · exact balanced.called
  · simp [balanced.courses]
  · intro worker member
    rw [List.length_append]
    exact Nat.lt_add_right _ (balanced.callers worker member)

theorem Balanced.stop {worker : Nat} {caller? : Option Nat} (balanced : Balanced shared)
    (handle : shared.service.handle? = some worker) (able : shared.canCall caller? = true)
    (timed : Bool) : Balanced (shared.stop caller? timed) := by
  have handed : (shared.stop caller? timed).handed = shared.handed := by
    rw [stop_of_handle handle]
    simp [SharedService.handed, Service.release, handle]
  rw [stop_of_handle handle] at handed ⊢
  constructor
  · exact balanced.started
  · rw [handed]
    exact balanced.known
  · rw [handed]
    exact balanced.apart
  · rw [List.countP_append]
    exact balanced.called
  · exact balanced.courses
  · intro caller member
    rw [List.map_append] at member
    rcases List.mem_append.mp member with before | now
    · exact balanced.callers caller before
    · obtain rfl : some caller = caller? := List.mem_singleton.mp now
      rw [canCall, beq_iff_eq] at able
      obtain ⟨inside, -⟩ := List.getElem?_eq_some_iff.mp able
      rwa [balanced.courses] at inside

theorem Balanced.next (balanced : Balanced shared) (event : Event) :
    Balanced (shared.next event) := by
  rcases next_cases shared event with
    ⟨launched, accepted, -, same⟩ | ⟨worker, caller?, timed, handle, able, -, same⟩ | kept
  · rw [same]
    exact balanced.start accepted
  · rw [same]
    exact balanced.stop handle able timed
  · exact balanced.of_kept kept

theorem balanced_new (name : Text) (stopsOnWait : Bool) : Balanced (new name stopsOnWait) where
  started := rfl
  known _ member := (List.not_mem_nil member).elim
  apart := List.nodup_nil
  called := rfl
  courses := rfl
  callers _ member := (List.not_mem_nil member).elim

end SharedService

theorem sharedAfter_concat (name : Text) (stopsOnWait : Bool) (events : List Event)
    (event : Event) :
    sharedAfter name stopsOnWait (events ++ [event]) =
      (sharedAfter name stopsOnWait events).next event :=
  List.foldl_concat ..

theorem balanced_sharedAfter (name : Text) (stopsOnWait : Bool) (events : List Event) :
    Balanced (sharedAfter name stopsOnWait events) := by
  induction events using List.reverseRecOn with
  | nil => exact balanced_new name stopsOnWait
  | append_singleton events event ih =>
      rw [sharedAfter_concat]
      exact ih.next event

/-- Whatever the threads do, each accepted start has its own worker. The stops that took a handle,
and one more while there still is a handle, are at most as many as the accepted starts. The shutdown
function was called by these stops only, at most once by each, and no two of them have the same
worker. A stop that finds no handle changes nothing. -/
theorem stops_le_starts (name : Text) (stopsOnWait : Bool) (events : List Event) :
    let shared := sharedAfter name stopsOnWait events
    shared.answers.count true = shared.service.workers.length ∧
      shared.stops.length + (if shared.service.handle?.isSome then 1 else 0) ≤
        shared.answers.count true ∧
      shared.service.calls.count .shutdown = shared.stops.countP (·.stage.called) ∧
      (∀ stop ∈ shared.stops, stop.worker < shared.service.workers.length) ∧
      shared.stops.Pairwise (fun first second => first.worker ≠ second.worker) ∧
      (shared.service.handle? = none →
        ∀ caller? timed, shared.next (.stop caller? timed) = shared) := by
  intro shared
  have balanced : Balanced shared := balanced_sharedAfter name stopsOnWait events
  have taken : shared.stops.map Stop.worker ⊆ shared.handed := List.subset_append_left ..
  refine ⟨balanced.started, ?_, balanced.called, ?_, ?_, ?_⟩
  · -- Different places among as many workers are at most as many.
    have inside : shared.handed ⊆ List.range shared.service.workers.length :=
      fun worker member => List.mem_range.mpr (balanced.known worker member)
    have few := (balanced.apart.subperm inside).length_le
    rw [handed, List.length_append, List.length_map, List.length_range,
      ← balanced.started] at few
    cases handle : shared.service.handle? <;> simpa [handle] using few
  · exact fun stop member =>
      balanced.known stop.worker (taken (List.mem_map_of_mem member))
  · exact List.pairwise_map.mp (balanced.apart.sublist (List.sublist_append_left ..))
  · intro none caller? timed
    rw [next, stop_of_no_handle none, ite_self]

/-- Two threads stop the service at the same time. It is started again and stopped again before the
first of them is done with the shutdown function. -/
def raced : List Event :=
  [.setMain .waits, .setShutdown .returns, .start, .begins 0, .stop none false, .stop none true,
    .proceed 0 false, .proceed 0 false, .leaves 0 false, .ends 0, .start, .begins 1,
    .stop none true]

theorem stops_le_starts_raced :
    let shared := sharedAfter "app" false raced
    shared.answers = [true, true] ∧ shared.stops.length = 2 ∧
      shared.service.calls.count .shutdown = 1 ∧
      shared.next (.stop (some 1) false) = shared := by
  obtain ⟨-, -, called, -, -, idle⟩ := stops_le_starts "app" false raced
  exact ⟨by decide, by decide, called.trans (by decide), idle (by decide) (some 1) false⟩

end Startup
