import Startup.Application.Serving

/-!
# The moments of a running service

`serve` runs a service without anything coming in between. Here the same statements are taken one at
a time, so that a signal can arrive and a worker can end between any two of them, also while the
service is started or stopped.

A `Moment` is the state between two statements, with the `Point` that the program has reached.
-/

namespace Startup

namespace Service

def refusal? (service : Service) : Option Refusal :=
  if service.main?.isNone then some .noMain
  else if service.isRunning then some .running
  else none

def withdraw (service : Service) : Service :=
  { service with stopRequested := false }

/-- Creates a worker for the main function and keeps a handle to it. It is not alive yet. -/
def createWorker (service : Service) : Service :=
  match service.main? with
  | none => service
  | some main =>
      { service with
        workers := service.workers ++ [⟨main, false⟩]
        handle? := some service.workers.length }

def startWorker (service : Service) : Service :=
  { service with
    workers := service.workers.modify (service.workers.length - 1) fun worker =>
      { worker with isAlive := true } }

/-- Whether a worker can end: it is alive, and it does not wait for a request that nobody made. -/
def canEnd (service : Service) (worker : Nat) : Bool :=
  match service.workers[worker]? with
  | none => false
  | some ⟨main, isAlive⟩ =>
      isAlive && (service.stopRequested ||
        match main with
        | .works _ => true
        | .ownWait => service.stopsOnWait
        | .waits => false)

end Service

namespace Application

/-- How far the program has come, named for the statement that is next. -/
inductive Point where
  | installing
  | setting
  | checking
  | withdrawing
  | creating
  | starting
  | reporting
  | announcing
  | waiting
  | taking
  | requesting (worker : Nat)
  | shuttingDown (worker : Nat)
  | joining (worker : Nat)
  | restoring
  | finished (code : Int)
deriving DecidableEq

/-- Whether the program holds the lock of the service, so that nobody else can stop it. -/
def Point.isLocked : Point → Bool
  | withdrawing | creating | starting => true
  | _ => false

/-- What the program is at between two statements; `entered` says whether the service has got to its
wait. -/
structure Moment where
  background : Bool
  service : Service
  point : Point
  entered : Bool
  log : List LogRecord
deriving DecidableEq

namespace Moment

def initial (background : Bool) (service : Service) : Moment where
  background := background
  service := service
  point := .installing
  entered := false
  log := []

def goTo (moment : Moment) (point : Point) : Moment :=
  { moment with point := point }

def change (moment : Moment) (service : Service) : Moment :=
  { moment with service := service }

def report (moment : Moment) (records : List LogRecord) : Moment :=
  { moment with log := moment.log ++ records }

def announcement (background : Bool) : LogRecord :=
  reporter.record .info
    (if background then "Running in daemon mode"
    else "Running in foreground mode, press Ctrl+C to stop")

/-- The next statement. A wait that is not over stays where it is. -/
def advance (moment : Moment) : Moment :=
  let service := moment.service
  match moment.point with
  | .installing =>
      (moment.change service.catchSignals).goTo
        (if moment.background then .setting else .announcing)
  | .setting => (moment.change (service.setMain .ownWait)).goTo .checking
  | .checking =>
      match service.refusal? with
      | some refusal => (moment.report [refusal.report]).goTo .taking
      | none => moment.goTo .withdrawing
  | .withdrawing => (moment.change service.withdraw).goTo .creating
  | .creating => (moment.change service.createWorker).goTo .starting
  | .starting => (moment.change service.startWorker).goTo .reporting
  | .reporting =>
      (moment.report [Service.reporter.record .info "Daemon started"]).goTo .announcing
  | .announcing =>
      { (moment.report [announcement moment.background]).goTo .waiting with entered := true }
  | .waiting =>
      if service.stopRequested || service.stopsOnWait then
        (moment.change service.requestStop).goTo .taking
      else moment
  | .taking =>
      match service.handle? with
      | none => moment.goTo .restoring
      | some worker => (moment.change service.release).goTo (.requesting worker)
  | .requesting worker => (moment.change service.requestStop).goTo (.shuttingDown worker)
  | .shuttingDown worker =>
      match service.shutdown? with
      | none => moment.goTo (.joining worker)
      | some shutdown =>
          ((moment.change (service.record .shutdown)).report
            (if shutdown = .fails then
              [Service.reporter.record .error "Daemon shutdown function failed"]
            else [])).goTo (.joining worker)
  | .joining worker =>
      if service.isAlive worker then moment
      else (moment.report [Service.stopped]).goTo .restoring
  | .restoring =>
      ((moment.change service.restoreSignals).report
        (if moment.entered then [reporter.record .info "Application stopped"] else [])).goTo
          (.finished (if moment.entered then 0 else 1))
  | .finished _ => moment

inductive Event where
  | advance
  | signal (signal : Signal)
  | ends (worker : Nat)
deriving DecidableEq

/-- Whether a worker can end. One that stops the service as its last act needs the lock for that. -/
def canEnd (moment : Moment) (worker : Nat) : Bool :=
  moment.service.canEnd worker &&
    !(moment.point.isLocked &&
      (moment.service.workers[worker]?).any fun worker => worker.main == .works .stops)

/-- The moment after an event. A signal that is not caught is none of the program's business. -/
def next (moment : Moment) : Event → Moment
  | .advance => moment.advance
  | .signal signal =>
      if moment.service.catchesSignals then
        (moment.change moment.service.requestStop).report
          [Service.reporter.record .info ("Received signal " ++ signal.name ++ ", stopping")]
      else moment
  | .ends worker =>
      if moment.canEnd worker then
        let run := Service.endWorker worker moment.service
        (moment.change run.state).report run.log
      else moment

def after (moment : Moment) (events : List Event) : Moment :=
  events.foldl next moment

end Moment

/-- The moment that a run of a service has come to after some events. -/
def momentAfter (background : Bool) (service : Service) (events : List Moment.Event) : Moment :=
  (Moment.initial background service).after events

end Application

end Startup
