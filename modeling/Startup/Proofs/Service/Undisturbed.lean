import Startup.Proofs.Service.Sharing

/-!
# Undisturbed starts and stops

A start and a stop of a shared service with which no other thread interferes do what the functions
do that run as a whole.
-/

namespace Startup

namespace Service

/-- What a worker does last after a stop took the handle: it need not stop the service itself. -/
theorem endWorker_of_released {service : Service} (released : service.handle? = none)
    (worker : Nat) :
    endWorker worker service =
      ⟨.ok (), service.finish worker,
        if (service.workers[worker]?).map Worker.main = some (.works .fails) then
          [reporter.record .error "Daemon main function failed"]
        else []⟩ := by
  have idle : stopFromWorker service = ⟨.ok (), service, []⟩ := by
    simp only [stopFromWorker, Task.bind_apply, Task.andThen, Task.get, released]
    rfl
  simp only [endWorker, Task.bind_apply, Task.andThen, Task.get]
  rcases (service.workers[worker]?).map Worker.main with _ | _ | _ | (_ | _ | _)
  case some.works.stops =>
    simp only [Task.bind_apply, Task.andThen, idle]
    rfl
  all_goals rfl

theorem handle?_shutDown (service : Service) :
    (shutDown service).state.handle? = service.handle? := by
  dsimp only [shutDown]
  split <;> rfl

end Service

namespace SharedService

variable {shared : SharedService}

theorem after_append (first second : List Event) :
    shared.after (first ++ second) = (shared.after first).after second :=
  List.foldl_append

theorem after_cons (event : Event) (rest : List Event) :
    shared.after (event :: rest) = (shared.next event).after rest := rfl

/-- The shared service when its last stop is the given one, and what the service has become. -/
def atStop (shared : SharedService) (stop : Stop) (service : Service) (records : List LogRecord) :
    SharedService :=
  { shared with
    service := service
    stops := shared.stops ++ [stop]
    log := shared.log ++ records }

/-- The next statement of the last stop. -/
theorem next_atStop {stop : Stop} {stage : Stop.Stage} {service after : Service}
    {records more : List LogRecord} (late : Bool)
    (statement : stop.statement? service late = some (stage, after, more)) :
    (shared.atStop stop service records).next (.proceed shared.stops.length late) =
      shared.atStop { stop with stage := stage } after (records ++ more) := by
  rw [next, proceed, atStop]
  dsimp only
  rw [List.getElem?_concat_length]
  dsimp only
  rw [statement]
  simp [atStop]

/-- From the request on, the statements of a stop are those of a shutdown. -/
theorem exists_after_shutDown (shared : SharedService) (worker : Nat) (caller? : Option Nat)
    (timed : Bool) (service : Service) :
    ∃ events called, (shared.atStop ⟨worker, caller?, timed, .requesting⟩ service []).after events =
      shared.atStop ⟨worker, caller?, timed, .joining called⟩ (Service.shutDown service).state
        (Service.shutDown service).log := by
  have same : service.requestStop.shutdown? = service.shutdown? := rfl
  cases set : service.shutdown? with
  | none =>
      have looked : Stop.statement? ⟨worker, caller?, timed, .shuttingDown⟩ service.requestStop
          false = some (.joining false, service.requestStop, []) := by
        simp only [Stop.statement?, same, set]
      refine ⟨List.replicate 2 (.proceed shared.stops.length false), false, ?_⟩
      simp only [List.replicate, after_cons]
      rw [next_atStop false rfl, next_atStop false looked, Service.shutDown]
      simp only [same, set]
      rfl
  | some shutdown =>
      have called : Stop.statement? ⟨worker, caller?, timed, .shuttingDown⟩ service.requestStop
          false = some (.calling shutdown, service.requestStop.record .shutdown, []) := by
        simp only [Stop.statement?, same, set]
      refine ⟨List.replicate 3 (.proceed shared.stops.length false), true, ?_⟩
      simp only [List.replicate, after_cons]
      rw [next_atStop false rfl, next_atStop false called, next_atStop false rfl,
        Service.shutDown]
      simp only [same, set]
      rfl

/-- A stop returns when its worker has finished. -/
theorem next_joining {worker : Nat} {service : Service} (finished : service.isAlive worker = false)
    (shared : SharedService) (called : Bool) (records : List LogRecord) :
    (shared.atStop ⟨worker, none, false, .joining called⟩ service records).next
        (.proceed shared.stops.length false) =
      shared.atStop ⟨worker, none, false, .returned called⟩ service
        (records ++ [Service.stopped]) := by
  refine next_atStop false ?_
  simp only [Stop.statement?, Stop.mayReturn, finished]
  rfl

theorem next_leaves {worker : Nat} (working : shared.courses[worker]? = some .working)
    (idle : shared.isStopping worker = false) (fails : Bool) :
    shared.next (.leaves worker fails) =
      { shared with
        service := shared.service.requestStop
        courses := shared.courses.set worker .leaving
        log := shared.log ++
          if fails then [Service.reporter.record .error "Daemon main function failed"]
          else [] } := by
  rw [next, leaves, idle, if_neg Bool.false_ne_true, goOn, if_pos working]

theorem next_ends {worker : Nat} (leaving : shared.courses[worker]? = some .leaving) :
    shared.next (.ends worker) =
      { shared with
        service := shared.service.retire worker
        courses := shared.courses.set worker .finished } := by
  rw [next, ends, goOn, if_pos leaving, List.append_nil]

/-- The statements of a worker make up its end, when the service has no handle to it any more. -/
theorem exists_after_end {worker : Nat} (working : shared.courses[worker]? = some .working)
    (idle : shared.isStopping worker = false) (released : shared.service.handle? = none) :
    ∃ events, shared.after events =
      { shared with
        service := (Service.endWorker worker shared.service).state
        courses := shared.courses.set worker .finished
        log := shared.log ++ (Service.endWorker worker shared.service).log } := by
  obtain ⟨inside, -⟩ := List.getElem?_eq_some_iff.mp working
  refine ⟨[.leaves worker
    (decide ((shared.service.workers[worker]?).map Worker.main = some (.works .fails))),
    .ends worker], ?_⟩
  rw [after_cons, next_leaves working idle, after_cons, next_ends (by simp [inside]),
    Service.endWorker_of_released released]
  simp [after, Service.finish_eq]

/-- A new worker calls the main function, and finishes if that is a wait that ends at once. -/
theorem exists_after_begin {worker : Nat} (new : shared.courses[worker]? = some .new)
    (idle : shared.isStopping worker = false) :
    ∃ events courses,
      shared.after events =
        { shared with service := shared.service.begin worker, courses := courses } := by
  obtain ⟨inside, -⟩ := List.getElem?_eq_some_iff.mp new
  have begun : shared.next (.begins worker) = _ := if_pos new
  unfold Service.begin
  split
  · rename_i main
    rw [main] at begun
    dsimp only at begun
    split
    · rename_i atOnce
      rw [if_pos atOnce] at begun
      refine ⟨[.begins worker, .leaves worker false, .ends worker],
        shared.courses.set worker .finished, ?_⟩
      rw [after_cons, begun, after_cons, next_leaves (by simp [inside]) (by exact idle),
        after_cons, next_ends (by simp [inside])]
      simp [after, Service.finish_eq, Service.requestStop]
    · rename_i waiting
      rw [if_neg waiting] at begun
      refine ⟨[.begins worker], shared.courses.set worker .working, ?_⟩
      rw [after_cons, begun, List.append_nil]
      rfl
  · refine ⟨[.begins worker], shared.courses.set worker .working, ?_⟩
    rw [after_cons, begun]
    simp [after]

/-- A stop waits for its worker, which ends meanwhile if it is alive. -/
theorem exists_after_joining {worker : Nat} {service : Service}
    (released : service.handle? = none)
    (working : service.isAlive worker = true →
      shared.courses[worker]? = some .working ∧ shared.isStopping worker = false)
    (called : Bool) (records : List LogRecord) :
    ∃ events stop,
      (shared.atStop ⟨worker, none, false, .joining called⟩ service records).after events =
        if service.isAlive worker then
          SharedService.atStop { shared with courses := shared.courses.set worker .finished } stop
            (Service.endWorker worker service).state
            (records ++ (Service.endWorker worker service).log ++ [Service.stopped])
        else shared.atStop stop service (records ++ [Service.stopped]) := by
  refine Exists.imp (fun _ reached => ⟨⟨worker, none, false, .returned called⟩, reached⟩) ?_
  cases alive : service.isAlive worker with
  | false => exact ⟨[.proceed shared.stops.length false], next_joining alive shared called records⟩
  | true =>
      obtain ⟨working, idle⟩ := working alive
      have still : (shared.atStop ⟨worker, none, false, .joining called⟩ service
          records).isStopping worker = false := by
        rw [isStopping] at idle ⊢
        simp [atStop, idle]
      obtain ⟨events, reached⟩ := exists_after_end (by exact working) still released
      obtain ⟨-, before, ended⟩ := Service.exists_finish_of_endWorker service worker
      have finished : (Service.endWorker worker service).state.isAlive worker = false := by
        rw [ended]
        exact before.isAlive_finish worker
      refine ⟨events ++ [.proceed shared.stops.length false], ?_⟩
      rw [after_append, reached, if_pos rfl]
      refine Eq.trans ?_ (next_joining finished _ called _)
      simp [after, atStop]

/-- A stop that nothing disturbs is the whole function. -/
theorem exists_after_stop
    (working : ∀ worker, shared.service.handle? = some worker →
      shared.service.isAlive worker = true →
        shared.courses[worker]? = some .working ∧ shared.isStopping worker = false) :
    ∃ events,
      (shared.after events).service = (Service.stop shared.service).state ∧
      (shared.after events).log = shared.log ++ (Service.stop shared.service).log := by
  cases handle : shared.service.handle? with
  | none =>
      refine ⟨[.stop none false], ?_⟩
      have idle : Service.stop shared.service = ⟨.ok (), shared.service, []⟩ := by
        simp only [Service.stop, Task.bind_apply, Task.andThen, Task.get, handle]
        rfl
      rw [after_cons, next, stop_of_no_handle handle, ite_self, idle, List.append_nil]
      exact ⟨rfl, rfl⟩
  | some worker =>
      have taken : shared.next (.stop none false) =
          shared.atStop ⟨worker, none, false, .requesting⟩ shared.service.release [] := by
        rw [next, canCall, if_pos rfl, stop_of_handle handle, atStop, List.append_nil]
      obtain ⟨early, called, shut⟩ :=
        exists_after_shutDown shared worker none false shared.service.release
      obtain ⟨-, workers, -⟩ := Service.shutDown_spec shared.service.release
      have same : (Service.shutDown shared.service.release).state.isAlive worker =
          shared.service.isAlive worker := by
        rw [Service.isAlive, workers]
        rfl
      obtain ⟨late, stop, joined⟩ := exists_after_joining
        (Service.handle?_shutDown shared.service.release)
        (fun alive => working worker handle (same.symm.trans alive)) called
        (Service.shutDown shared.service.release).log
      refine ⟨.stop none false :: (early ++ late), ?_⟩
      rw [after_cons, taken, after_append, shut, joined, same, Service.stop_of_handle handle]
      cases shared.service.isAlive worker with
      | false => exact ⟨rfl, rfl⟩
      | true => exact ⟨rfl, by simp [atStop]⟩

/-- A start that nothing disturbs is the whole function. -/
theorem exists_after_start (balanced : Balanced shared) :
    ∃ events answer,
      (Service.start shared.service).result = .ok answer ∧
      (shared.after events).answers = shared.answers ++ [answer] ∧
      (shared.after events).service = (Service.start shared.service).state ∧
      (shared.after events).log = shared.log ++ (Service.start shared.service).log := by
  cases launch : shared.service.launch with
  | error refusal =>
      refine ⟨[.start], false, ?_⟩
      rw [after_cons, next, start, Service.start, launch]
      exact ⟨rfl, rfl, rfl, rfl⟩
  | ok launched =>
      have started : shared.after [.start, .report] =
          { shared with
            service := launched
            courses := shared.courses ++ [.new]
            answers := shared.answers ++ [true]
            log := shared.log ++ [Service.reporter.record .info "Daemon started"] } := by
        rw [after_cons, next, start_of_launch launch]
        rfl
      have fresh : (shared.after [.start, .report]).courses[shared.service.workers.length]? =
          some .new := by
        rw [started, ← balanced.courses]
        exact List.getElem?_concat_length
      have idle : (shared.after [.start, .report]).isStopping shared.service.workers.length =
          false := by
        rw [started, isStopping, List.any_eq_false]
        intro stop member stopping
        -- The worker is new, so nothing was stopped from it.
        rw [Bool.and_eq_true, beq_iff_eq] at stopping
        have known := balanced.callers shared.service.workers.length
          (List.mem_map.mpr ⟨stop, member, stopping.1⟩)
        exact Nat.lt_irrefl _ known
      obtain ⟨events, courses, begun⟩ := exists_after_begin fresh idle
      refine ⟨[.start, .report] ++ events, true, ?_⟩
      rw [after_append, begun, started, Service.start, launch]
      exact ⟨rfl, rfl, rfl, rfl⟩

end SharedService

end Startup
