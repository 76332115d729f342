import Startup.Service.State
import Startup.Task

/-!
# Starting and stopping a service

The tasks of this module are those of a program with one thread besides the worker: whoever requests
a stop sees the worker end before anything else happens. A stop takes the handle first, so it calls
the shutdown function at most once for each start, also if that function stops the service again.
-/

namespace Startup

inductive Signal where
  | interrupt
  | terminate
deriving DecidableEq

def Signal.name : Signal → Text
  | interrupt => "SIGINT"
  | terminate => "SIGTERM"

namespace Service

def reporter : Reporter := ⟨"daemon", "work_assistant.core.daemon.DaemonService"⟩

def Refusal.report : Refusal → LogRecord
  | noMain => reporter.record .error "Daemon main function not set"
  | running => reporter.record .warning "Daemon is already running"

/-- The main function begins on a new worker. Waiting ends at once if it is itself a request to
stop. -/
def begin (service : Service) (worker : Nat) : Service :=
  match service.main? with
  | some .ownWait => if service.stopsOnWait then service.finish worker else service
  | _ => service.record (.main (service.workerName worker))

/-- Starts the main function; the result is false if that is refused. -/
def start : Task Service Bool := fun service =>
  match service.launch with
  | .error refusal => ⟨.ok false, service, [refusal.report]⟩
  | .ok launched =>
      ⟨.ok true, launched.begin service.workers.length,
        [reporter.record .info "Daemon started"]⟩

/-- Requests a stop and calls the shutdown function. The handle is taken by then, so a shutdown
function that stops the service again has nothing to do. -/
def shutDown : Task Service Unit := fun service =>
  let service := service.requestStop
  match service.shutdown? with
  | none => ⟨.ok (), service, []⟩
  | some shutdown =>
      ⟨.ok (), service.record .shutdown,
        if shutdown = .fails then [reporter.record .error "Daemon shutdown function failed"]
        else []⟩

/-- The report at the end of every stop. -/
def stopped : LogRecord :=
  reporter.record .info "Daemon stopped"

/-- A stop by the worker itself, which does not wait for its own end. -/
def stopFromWorker : Task Service Unit := do
  if (← Task.get).handle?.isSome then
    Task.modify Service.release
    shutDown
    Task.report stopped

/-- The main function of a worker ends in its way, and the worker with it. -/
def endWorker (worker : Nat) : Task Service Unit := do
  match (((← Task.get).workers[worker]?).map Worker.main) with
  | some (.works .fails) => Task.report (reporter.record .error "Daemon main function failed")
  | some (.works .stops) => stopFromWorker
  | _ => pure ()
  Task.modify fun service => service.finish worker

/-- Stops the service and waits for its worker; does nothing without a handle. -/
def stop : Task Service Unit := do
  let service ← Task.get
  match service.handle? with
  | none => return ()
  | some worker =>
      Task.modify Service.release
      shutDown
      if service.isAlive worker then endWorker worker
      Task.report stopped

/-- Lets the worker see that a stop is requested. -/
def settle : Task Service Unit := do
  let service ← Task.get
  match service.running? with
  | some worker => if service.stopRequested then endWorker worker
  | none => return ()

def completeWork : Task Service Unit := do
  let service ← Task.get
  match service.running? with
  | some worker =>
      match (service.workers[worker]?).map Worker.main with
      | some (.works _) => endWorker worker
      | _ => return ()
  | none => return ()

def requestStopAndSettle : Task Service Unit := do
  Task.modify Service.requestStop
  settle

/-- Waits for a request to stop; the result says whether there is one at the end. -/
def wait : Task Service Bool := do
  if (← Task.get).stopsOnWait then requestStopAndSettle
  return (← Task.get).stopRequested

/-- Receives a signal; the result says whether the service catches it. -/
def receive (signal : Signal) : Task Service Bool := do
  if (← Task.get).catchesSignals then
    Task.report (reporter.record .info ("Received signal " ++ signal.name ++ ", stopping"))
    requestStopAndSettle
    return true
  else return false

end Service

end Startup
