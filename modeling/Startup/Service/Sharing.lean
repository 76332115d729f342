import Startup.Service.Lifecycle

/-!
# A service that several threads share

Any thread may start the service, stop it or request a stop at any time, its workers among them.
Only the locked part of a start and the locked part of a stop take effect at once. Between the other
statements of a stop, and before an accepted start is reported, the other threads go on.

A `SharedService` is the service with all that is under way: how far each worker is, and how far
each stop is that took a handle.
-/

namespace Startup

/-- How far a worker is. -/
inductive Course where
  | new
  | working
  | leaving
  | finished
deriving DecidableEq

namespace Stop

/-- How far a stop is, named for what it does next. -/
inductive Stage where
  | requesting
  | shuttingDown
  | calling (shutdown : ShutdownFunction)
  | joining (called : Bool)
  | returned (called : Bool)
deriving DecidableEq

def Stage.called : Stage → Bool
  | requesting | shuttingDown => false
  | calling _ => true
  | joining called | returned called => called

def Stage.isOver : Stage → Bool
  | returned _ => true
  | _ => false

end Stop

/-- A stop that took the handle for `worker`; the caller is the worker that stops the service, if it
is one. -/
structure Stop where
  worker : Nat
  caller? : Option Nat
  timed : Bool
  stage : Stop.Stage
deriving DecidableEq

namespace Stop

/-- Whether a stop need not wait any longer. The time of a timed stop may be over, which `late`
says. -/
def mayReturn (stop : Stop) (service : Service) (late : Bool) : Bool :=
  stop.caller? == some stop.worker || !service.isAlive stop.worker || (stop.timed && late)

/-- The next statement of a stop: how far the stop is then, and what becomes of the service. There
is none while the stop waits and after it has returned. -/
def statement? (stop : Stop) (service : Service) (late : Bool) :
    Option (Stage × Service × List LogRecord) :=
  match stop.stage with
  | .requesting => some (.shuttingDown, service.requestStop, [])
  | .shuttingDown =>
      match service.shutdown? with
      | none => some (.joining false, service, [])
      | some shutdown => some (.calling shutdown, service.record .shutdown, [])
  | .calling shutdown =>
      some (.joining true, service,
        if shutdown = .fails then
          [Service.reporter.record .error "Daemon shutdown function failed"]
        else [])
  | .joining called =>
      if stop.mayReturn service late then some (.returned called, service, [Service.stopped])
      else none
  | .returned _ => none

end Stop

/-- A worker has finished. Its request to stop came before. -/
def Service.retire (service : Service) (worker : Nat) : Service :=
  { service with
    workers := service.workers.modify worker fun worker => { worker with isAlive := false } }

/-- A service with what its threads are at. The answers are those of the starts in the order of
their locked parts, and `unreported` counts accepted starts that are not reported yet. -/
structure SharedService where
  service : Service
  courses : List Course
  stops : List Stop
  answers : List Bool
  unreported : Nat
  log : List LogRecord
deriving DecidableEq

namespace SharedService

def new (name : Text) (stopsOnWait : Bool) : SharedService where
  service := .new name stopsOnWait
  courses := []
  stops := []
  answers := []
  unreported := 0
  log := []

def start (shared : SharedService) : SharedService :=
  match shared.service.launch with
  | .error refusal =>
      { shared with
        answers := shared.answers ++ [false]
        log := shared.log ++ [refusal.report] }
  | .ok launched =>
      { shared with
        service := launched
        courses := shared.courses ++ [.new]
        answers := shared.answers ++ [true]
        unreported := shared.unreported + 1 }

def report (shared : SharedService) : SharedService :=
  match shared.unreported with
  | 0 => shared
  | others + 1 =>
      { shared with
        unreported := others
        log := shared.log ++ [Service.reporter.record .info "Daemon started"] }

/-- Whether a call can come from a thread: from a worker only while its main function runs. -/
def canCall (shared : SharedService) : Option Nat → Bool
  | none => true
  | some worker => shared.courses[worker]? == some .working

/-- The locked part of a stop. A stop that finds no handle returns at once. -/
def stop (caller? : Option Nat) (timed : Bool) (shared : SharedService) : SharedService :=
  match shared.service.handle? with
  | none => shared
  | some worker =>
      { shared with
        service := shared.service.release
        stops := shared.stops ++ [⟨worker, caller?, timed, .requesting⟩] }

def proceed (place : Nat) (late : Bool) (shared : SharedService) : SharedService :=
  match shared.stops[place]? with
  | none => shared
  | some stop =>
      match stop.statement? shared.service late with
      | none => shared
      | some (stage, service, records) =>
          { shared with
            service := service
            stops := shared.stops.set place { stop with stage := stage }
            log := shared.log ++ records }

def goOn (worker : Nat) (before after : Course) (service : Service) (records : List LogRecord)
    (shared : SharedService) : SharedService :=
  if shared.courses[worker]? = some before then
    { shared with
      service := service
      courses := shared.courses.set worker after
      log := shared.log ++ records }
  else shared

/-- A worker calls the main function. The service's own waiting may be a request to stop. -/
def begins (worker : Nat) (shared : SharedService) : SharedService :=
  let service := shared.service
  let begun := match service.main? with
    | some .ownWait => if service.stopsOnWait then service.requestStop else service
    | _ => service.record (.main (service.workerName worker))
  shared.goOn worker .new .working begun []

/-- Whether a worker is still about to stop the service. -/
def isStopping (shared : SharedService) (worker : Nat) : Bool :=
  shared.stops.any fun stop => stop.caller? == some worker && !stop.stage.isOver

/-- The main function of a worker returns or fails, and the worker requests a stop. -/
def leaves (worker : Nat) (fails : Bool) (shared : SharedService) : SharedService :=
  if shared.isStopping worker then shared
  else
    shared.goOn worker .working .leaving shared.service.requestStop
      (if fails then [Service.reporter.record .error "Daemon main function failed"] else [])

def ends (worker : Nat) (shared : SharedService) : SharedService :=
  shared.goOn worker .leaving .finished (shared.service.retire worker) []

/-- What a thread does. A stop proceeds by one statement, perhaps when its time is over. -/
inductive Event where
  | start
  | report
  | stop (caller? : Option Nat) (timed : Bool)
  | proceed (place : Nat) (late : Bool)
  | requestStop
  | begins (worker : Nat)
  | leaves (worker : Nat) (fails : Bool)
  | ends (worker : Nat)
  | setMain (main : MainFunction)
  | setShutdown (shutdown : ShutdownFunction)
deriving DecidableEq

/-- What an event leaves. An event that cannot happen leaves everything as it is. -/
def next (shared : SharedService) : Event → SharedService
  | .start => shared.start
  | .report => shared.report
  | .stop caller? timed => if shared.canCall caller? then shared.stop caller? timed else shared
  | .proceed place late => shared.proceed place late
  | .requestStop => { shared with service := shared.service.requestStop }
  | .begins worker => shared.begins worker
  | .leaves worker fails => shared.leaves worker fails
  | .ends worker => shared.ends worker
  | .setMain main => { shared with service := shared.service.setMain main }
  | .setShutdown shutdown => { shared with service := shared.service.setShutdown shutdown }

def after (shared : SharedService) (events : List Event) : SharedService :=
  events.foldl next shared

end SharedService

def sharedAfter (name : Text) (stopsOnWait : Bool) (events : List SharedService.Event) :
    SharedService :=
  (SharedService.new name stopsOnWait).after events

end Startup
