import Startup.Application.Moments
import Mathlib.Data.List.Basic

/-!
# The moments of a run make up the whole

Without signals, the statements one after the other do what `enter` and `leave` do, when workers end
as soon as they can. A signal that arrives during the wait does what `receive` does.
-/

namespace Startup

namespace Service

theorem modify_concat (workers : List Worker) (last : Worker) (change : Worker → Worker) :
    (workers ++ [last]).modify workers.length change = workers ++ [change last] := by
  simp [List.modify_eq_set_getElem?]

theorem startWorker_createWorker {service : Service} {main : MainFunction}
    (set : service.main? = some main) :
    service.createWorker.startWorker =
      { service with
        workers := service.workers ++ [⟨main, true⟩]
        handle? := some service.workers.length } := by
  have last : (service.workers ++ [Worker.mk main false]).length - 1 = service.workers.length := by
    rw [List.length_append, List.length_singleton, Nat.add_sub_cancel]
  rw [createWorker, set]
  dsimp only
  rw [startWorker]
  dsimp only
  rw [last, modify_concat]

/-- The statements of a start make up its locked part. -/
theorem launch_eq (service : Service) :
    service.launch =
      match service.refusal? with
      | some refusal => .error refusal
      | none => .ok service.withdraw.createWorker.startWorker := by
  unfold refusal?
  cases set : service.main? with
  | none => rw [launch, set, Option.isNone_none, if_pos rfl]
  | some main =>
      rw [launch, set, Option.isNone_some, if_neg Bool.false_ne_true]
      by_cases running : service.isRunning = true
      · simp only [running, if_true]
      · have started := startWorker_createWorker (show service.withdraw.main? = some main from set)
        simp only [running, if_false, started, Bool.false_eq_true]
        simp only [withdraw, set]

/-! ## The end of a worker -/

theorem isAlive_finish (service : Service) (worker : Nat) :
    (service.finish worker).isAlive worker = false := by
  rw [isAlive, finish]
  dsimp only
  rw [List.getElem?_modify_eq]
  cases service.workers[worker]? <;> rfl

theorem canEnd_of_requested {service : Service} {worker : Nat}
    (alive : service.isAlive worker = true) (requested : service.stopRequested = true) :
    service.canEnd worker = true := by
  unfold isAlive at alive
  unfold canEnd
  cases found : service.workers[worker]? with
  | none =>
      rw [found] at alive
      cases alive
  | some known =>
      rw [found] at alive
      dsimp only
      rw [requested, Bool.true_or, Bool.and_true]
      exact alive

/-- A shutdown leaves a request to stop, and leaves the workers alone. -/
theorem shutDown_spec (service : Service) :
    (shutDown service).result = .ok () ∧ (shutDown service).state.workers = service.workers ∧
      (shutDown service).state.stopRequested = true := by
  dsimp only [shutDown]
  split
  · exact ⟨rfl, rfl, rfl⟩
  · exact ⟨rfl, rfl, rfl⟩

theorem result_stopFromWorker (service : Service) : (stopFromWorker service).result = .ok () := by
  simp only [stopFromWorker, Task.bind_apply, Task.andThen, Task.get]
  split
  · simp only [Task.bind_apply, Task.andThen, Task.modify, (shutDown_spec service.release).1]
    rfl
  · rfl

/-- Whatever a worker does as its last act, it is over afterwards. -/
theorem exists_finish_of_endWorker (service : Service) (worker : Nat) :
    (endWorker worker service).result = .ok () ∧
      ∃ before : Service, (endWorker worker service).state = before.finish worker := by
  simp only [endWorker, Task.bind_apply, Task.andThen, Task.get]
  rcases (service.workers[worker]?).map Worker.main with _ | _ | _ | (_ | _ | _)
  case some.works.stops =>
    simp only [Task.bind_apply, Task.andThen, result_stopFromWorker]
    exact ⟨rfl, _, rfl⟩
  all_goals exact ⟨rfl, _, rfl⟩

theorem settle_of_requested {service : Service} (requested : service.stopRequested = true) :
    settle service =
      match service.running? with
      | none => ⟨.ok (), service, []⟩
      | some worker =>
          ⟨.ok (), (endWorker worker service).state, (endWorker worker service).log⟩ := by
  simp only [settle, Task.bind_apply, Task.andThen, Task.get]
  cases service.running? with
  | none => rfl
  | some worker =>
      have ended := (exists_finish_of_endWorker service worker).1
      simp only [requested, if_true]
      generalize endWorker worker service = run at ended
      obtain ⟨result, state, log⟩ := run
      obtain rfl : result = .ok () := ended
      rfl

theorem result_settle {service : Service} (requested : service.stopRequested = true) :
    (settle service).result = .ok () := by
  rw [settle_of_requested requested]
  cases service.running? <;> rfl

theorem isAlive_of_running? {service : Service} {worker : Nat}
    (running : service.running? = some worker) : service.isAlive worker = true :=
  (Option.filter_eq_some_iff.mp running).2

theorem stop_of_handle {service : Service} {worker : Nat} (handle : service.handle? = some worker) :
    stop service =
      let shut := shutDown service.release
      if service.isAlive worker then
        let ended := endWorker worker shut.state
        ⟨.ok (), ended.state, shut.log ++ (ended.log ++ [stopped])⟩
      else ⟨.ok (), shut.state, shut.log ++ [stopped]⟩ := by
  have shut := (shutDown_spec service.release).1
  simp only [stop, Task.bind_apply, Task.andThen, Task.get, handle, Task.modify, shut]
  cases service.isAlive worker with
  | false => rfl
  | true =>
      have ended := (exists_finish_of_endWorker (shutDown service.release).state worker).1
      simp only [if_true, Task.bind_apply, Task.andThen, ended]
      rfl

theorem result_stop (service : Service) : (stop service).result = .ok () := by
  cases handle : service.handle? with
  | none =>
      simp only [stop, Task.bind_apply, Task.andThen, Task.get, handle]
      rfl
  | some worker =>
      rw [stop_of_handle handle]
      dsimp only
      split <;> rfl

end Service

namespace Application

open Moment

theorem Moment.after_append (moment : Moment) (first second : List Event) :
    moment.after (first ++ second) = (moment.after first).after second :=
  List.foldl_append

theorem Moment.after_nil (moment : Moment) : moment.after [] = moment := rfl

theorem Moment.after_cons (moment : Moment) (event : Event) (rest : List Event) :
    moment.after (event :: rest) = (moment.next event).after rest := rfl

def Quiet (events : List Event) : Prop :=
  ∀ signal, .signal signal ∉ events

theorem Quiet.append {first second : List Event} (early : Quiet first) (late : Quiet second) :
    Quiet (first ++ second) := by
  intro signal member
  rcases List.mem_append.mp member with here | there
  · exact early signal here
  · exact late signal there

theorem quiet_replicate (count : Nat) : Quiet (List.replicate count .advance) := by
  intro signal member
  cases List.eq_of_mem_replicate member

def Moment.behind {α : Type} (moment : Moment) (run : Run Service α) (point : Point) : Moment :=
  ((moment.change run.state).report run.log).goTo point

theorem next_signal {moment : Moment} (caught : moment.service.catchesSignals = true)
    (signal : Signal) :
    moment.next (.signal signal) = (moment.change moment.service.requestStop).report
      [Service.reporter.record .info ("Received signal " ++ signal.name ++ ", stopping")] :=
  if_pos caught

theorem next_ends {moment : Moment} {worker : Nat} (able : moment.canEnd worker = true) :
    moment.next (.ends worker) =
      moment.behind (Service.endWorker worker moment.service) moment.point :=
  if_pos able

/-- Where nobody holds the lock, every worker can end that has a reason to. -/
theorem canEnd_of_unlocked {moment : Moment} {worker : Nat}
    (unlocked : moment.point.isLocked = false) :
    moment.canEnd worker = moment.service.canEnd worker := by
  rw [Moment.canEnd, unlocked, Bool.false_and, Bool.not_false, Bool.and_true]

/-! ## Before the wait -/

/-- A foreground service gets to its wait at once. -/
theorem after_foreground (service : Service) :
    momentAfter false service [.advance, .advance] =
      { (initial false service).behind (enter false service) .waiting with entered := true } := rfl

section Background

variable {service : Service}

section Refused

variable {refusal : Service.Refusal}
  (refused : (service.catchSignals.setMain .ownWait).refusal? = some refusal)

include refused

theorem enter_refused :
    enter true service =
      ⟨.ok false, service.catchSignals.setMain .ownWait, [refusal.report]⟩ := by
  have start : Service.start (service.catchSignals.setMain .ownWait) =
      ⟨.ok false, service.catchSignals.setMain .ownWait, [refusal.report]⟩ := by
    rw [Service.start, Service.launch_eq, refused]
  simp only [enter, Task.bind_apply, Task.andThen, Task.modify, start, if_true]
  rfl

/-- A start that is refused leads to the end. -/
theorem after_refused :
    momentAfter true service [.advance, .advance, .advance] =
      (initial true service).behind (enter true service) .taking := by
  rw [enter_refused refused]
  simp only [momentAfter, after, List.foldl_cons, List.foldl_nil, next, advance, initial, change,
    goTo, report, refused, if_true, behind]

end Refused

def started (service : Service) : Service :=
  { service with
    main? := some .ownWait
    workers := service.workers ++ [⟨.ownWait, true⟩]
    handle? := some service.workers.length
    stopRequested := false
    catchesSignals := true }

theorem startWorker_eq_started (service : Service) :
    (service.catchSignals.setMain .ownWait).withdraw.createWorker.startWorker = started service :=
  Service.startWorker_createWorker rfl

variable (accepted : (service.catchSignals.setMain .ownWait).refusal? = none)

include accepted

/-- The first statements of a start that is not refused. -/
theorem after_started :
    momentAfter true service (List.replicate 6 .advance) =
      ((initial true service).change (started service)).goTo .reporting := by
  simp only [momentAfter, after, List.replicate, List.foldl_cons, List.foldl_nil, next, advance,
    initial, change, goTo, accepted, if_true, startWorker_eq_started]

theorem enter_started :
    enter true service =
      ⟨.ok true, (started service).begin service.workers.length,
        [Service.reporter.record .info "Daemon started", announcement true]⟩ := by
  have start : Service.start (service.catchSignals.setMain .ownWait) =
      ⟨.ok true, (started service).begin service.workers.length,
        [Service.reporter.record .info "Daemon started"]⟩ := by
    rw [Service.start, Service.launch_eq, accepted]
    dsimp only
    rw [startWorker_eq_started]
    rfl
  simp only [enter, Task.bind_apply, Task.andThen, Task.modify, start, if_true]
  rfl

/-- A worker whose wait is itself a request to stop ends before the start is reported. -/
theorem exists_after_background :
    ∃ events, Quiet events ∧ momentAfter true service events =
      { (initial true service).behind (enter true service) .waiting with entered := true } := by
  have main : (started service).workers[service.workers.length]? = some ⟨.ownWait, true⟩ :=
    List.getElem?_concat_length
  rw [enter_started accepted]
  by_cases stops : service.stopsOnWait = true
  · have canEnd : (started service).canEnd service.workers.length = true := by
      rw [Service.canEnd, main]
      change (true && (false || service.stopsOnWait)) = true
      rw [stops]
      rfl
    refine ⟨List.replicate 6 .advance ++ [.ends service.workers.length, .advance, .advance],
      (quiet_replicate 6).append (by simp [Quiet]), ?_⟩
    have begun : (started service).begin service.workers.length =
        (started service).finish service.workers.length := by
      change (if service.stopsOnWait = true then _ else _) = _
      rw [if_pos stops]
    have ended : Service.endWorker service.workers.length (started service) =
        ⟨.ok (), (started service).finish service.workers.length, []⟩ := by
      simp only [Service.endWorker, Task.bind_apply, Task.andThen, Task.get, main, Option.map_some]
      rfl
    have able : Moment.canEnd (((initial true service).change (started service)).goTo .reporting)
        service.workers.length = true := (canEnd_of_unlocked rfl).trans canEnd
    rw [momentAfter, after_append, ← momentAfter, after_started accepted, begun, after,
      List.foldl_cons, next_ends able]
    change List.foldl next (Moment.behind _ (Service.endWorker _ (started service)) _) _ = _
    rw [ended]
    rfl
  · refine ⟨List.replicate 6 .advance ++ [.advance, .advance],
      (quiet_replicate 6).append (quiet_replicate 2), ?_⟩
    rw [momentAfter, after_append, ← momentAfter, after_started accepted]
    have begun : (started service).begin service.workers.length = started service := by
      change (if service.stopsOnWait = true then _ else _) = _
      rw [if_neg stops]
    rw [begun]
    rfl

end Background

/-- Without a signal, a service gets to its wait, or to its end if the start is refused. -/
theorem exists_after_enter (background : Bool) (service : Service) :
    ∃ events entered, Quiet events ∧ (enter background service).result = .ok entered ∧
      momentAfter background service events =
        { (initial background service).behind (enter background service)
            (if entered then .waiting else .taking) with entered := entered } := by
  cases background with
  | false => exact ⟨[.advance, .advance], true, quiet_replicate 2, rfl, after_foreground service⟩
  | true =>
      cases refused : (service.catchSignals.setMain .ownWait).refusal? with
      | some refusal =>
          exact ⟨[.advance, .advance, .advance], false, quiet_replicate 3,
            by rw [enter_refused refused], after_refused refused⟩
      | none =>
          obtain ⟨events, quiet, reached⟩ := exists_after_background refused
          exact ⟨events, true, quiet, by rw [enter_started refused], reached⟩

/-! ## After the wait -/

theorem after_shutDown (moment : Moment) (worker : Nat) :
    (moment.goTo (.requesting worker)).after [.advance, .advance] =
      moment.behind (Service.shutDown moment.service) (.joining worker) := by
  obtain ⟨background, service, point, entered, log⟩ := moment
  simp only [after, List.foldl_cons, List.foldl_nil, next, advance, goTo, change, report, behind,
    Service.shutDown]
  cases service.requestStop.shutdown? with
  | none => simp
  | some shutdown => rfl

theorem advance_joining {moment : Moment} {worker : Nat}
    (joining : moment.point = .joining worker) (finished : moment.service.isAlive worker = false) :
    moment.advance = (moment.report [Service.stopped]).goTo .restoring := by
  simp only [advance, joining, finished, Bool.false_eq_true, if_false]

/-- A stop waits for its worker, which ends because a stop was requested. -/
theorem exists_after_joining {moment : Moment} {worker : Nat}
    (joining : moment.point = .joining worker) (requested : moment.service.stopRequested = true) :
    ∃ events, Quiet events ∧
      moment.after events =
        if moment.service.isAlive worker then
          (moment.behind (Service.endWorker worker moment.service) .restoring).report
            [Service.stopped]
        else (moment.report [Service.stopped]).goTo .restoring := by
  cases alive : moment.service.isAlive worker with
  | false => exact ⟨[.advance], quiet_replicate 1, advance_joining joining alive⟩
  | true =>
      have able : moment.canEnd worker = true :=
        (canEnd_of_unlocked (by rw [joining]; rfl)).trans
          (Service.canEnd_of_requested alive requested)
      obtain ⟨-, before, ended⟩ := Service.exists_finish_of_endWorker moment.service worker
      have finished : (Service.endWorker worker moment.service).state.isAlive worker = false := by
        rw [ended]
        exact Service.isAlive_finish before worker
      have last : Moment.advance (moment.behind (Service.endWorker worker moment.service)
          moment.point) = _ := advance_joining joining finished
      refine ⟨[.ends worker, .advance], by simp [Quiet], ?_⟩
      rw [after_cons, next_ends able, after_cons, next, last]
      rfl

/-- The statements of a stop make up the whole. -/
theorem exists_after_stop {moment : Moment} (taking : moment.point = .taking) :
    ∃ events, Quiet events ∧
      moment.after events = moment.behind (Service.stop moment.service) .restoring := by
  cases handle : moment.service.handle? with
  | none =>
      refine ⟨[.advance], quiet_replicate 1, ?_⟩
      simp only [after_cons, after_nil, next, advance, taking, handle, Service.stop,
        Task.bind_apply, Task.andThen, Task.get]
      simp [behind, change, report, goTo]
  | some worker =>
      have released : moment.next .advance =
          (moment.change moment.service.release).goTo (.requesting worker) := by
        simp only [next, advance, taking, handle]
      obtain ⟨-, workers, requested⟩ := Service.shutDown_spec moment.service.release
      have alive : (Service.shutDown moment.service.release).state.isAlive worker =
          moment.service.isAlive worker := by
        rw [Service.isAlive, workers]
        rfl
      obtain ⟨events, quiet, joined⟩ := exists_after_joining
        (show Moment.point ((moment.change moment.service.release).behind
          (Service.shutDown moment.service.release) (.joining worker)) = .joining worker from rfl)
        requested
      refine ⟨.advance :: [.advance, .advance] ++ events, (quiet_replicate 3).append quiet, ?_⟩
      have shut : Moment.after ((moment.change moment.service.release).goTo (.requesting worker))
          [.advance, .advance] = _ := after_shutDown _ worker
      rw [List.cons_append, after_cons, released, after_append, shut]
      refine joined.trans ?_
      rw [Service.stop_of_handle handle]
      change (if (Service.shutDown moment.service.release).state.isAlive worker = true then _
        else _) = _
      rw [alive]
      split
      · simp [behind, change, report, goTo]
      · simp [behind, change, report, goTo]

theorem leave_eq (entered : Bool) (service : Service) :
    leave entered service =
      ⟨.ok (if entered then 0 else 1), (Service.stop service).state.restoreSignals,
        (Service.stop service).log ++
          if entered then [reporter.record .info "Application stopped"] else []⟩ := by
  simp only [leave, Task.bind_apply, Task.andThen, Service.result_stop, Task.modify]
  cases entered <;> rfl

/-- After its wait, a service comes to its end without any further signal. -/
theorem exists_after_leave {moment : Moment} (taking : moment.point = .taking) :
    ∃ events code, Quiet events ∧ (leave moment.entered moment.service).result = .ok code ∧
      moment.after events = moment.behind (leave moment.entered moment.service) (.finished code) := by
  obtain ⟨events, quiet, stopped⟩ := exists_after_stop taking
  have last : Quiet [.advance] := quiet_replicate 1
  refine ⟨events ++ [.advance], _, quiet.append last, by rw [leave_eq], ?_⟩
  rw [after_append, stopped, after_cons, after_nil, leave_eq]
  simp only [next, advance, behind, change, report, goTo, List.append_assoc]
  rfl

/-! ## Signals during the wait -/

/-- A signal that arrives while the service waits is received as a whole once the worker that runs
has ended. -/
theorem exists_after_receive {moment : Moment} (waiting : moment.point = .waiting)
    (signal : Signal) :
    ∃ workers : List Nat,
      moment.after (.signal signal :: workers.map .ends) =
        moment.behind (Service.receive signal moment.service) .waiting := by
  cases caught : moment.service.catchesSignals with
  | false =>
      refine ⟨[], ?_⟩
      simp only [after_cons, List.map_nil, after_nil, next, caught, Service.receive,
        Task.bind_apply, Task.andThen, Task.get, Bool.false_eq_true, if_false]
      simp [behind, change, report, goTo, ← waiting]
  | true =>
      have requested : moment.service.requestStop.stopRequested = true := rfl
      have received : Service.receive signal moment.service =
          ⟨.ok true, (Service.settle moment.service.requestStop).state,
            Service.reporter.record .info ("Received signal " ++ signal.name ++ ", stopping") ::
              (Service.settle moment.service.requestStop).log⟩ := by
        simp only [Service.receive, Service.requestStopAndSettle, Task.bind_apply, Task.andThen,
          Task.get, caught, if_true, Task.modify, Task.report, Service.result_settle requested]
        simp
      rw [received, Service.settle_of_requested requested, ← waiting]
      cases running : moment.service.requestStop.running? with
      | none =>
          refine ⟨[], ?_⟩
          rw [after_cons, next_signal caught, List.map_nil, after_nil]
          rfl
      | some worker =>
          have able : Moment.canEnd ((moment.change moment.service.requestStop).report
              [Service.reporter.record .info ("Received signal " ++ signal.name ++ ", stopping")])
              worker = true :=
            (canEnd_of_unlocked (by simp only [change, report, waiting]; rfl)).trans
              (Service.canEnd_of_requested (Service.isAlive_of_running? running) requested)
          refine ⟨[worker], ?_⟩
          rw [after_cons, next_signal caught, List.map_singleton, after_cons, next_ends able,
            after_nil]
          simp only [behind, change, report, goTo, List.append_assoc, List.singleton_append]

end Application

end Startup
