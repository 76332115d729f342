import Startup.Text.Basic

/-!
# The state of a background service

A service runs the main function of an application on a worker of its own until a stop is
requested. It keeps a handle to the worker that it started last, from the start of that worker until
a stop takes the handle.

The functions of this module are the steps that take effect at once: `launch` is the locked part of
a start, `release` the locked part of a stop, and `finish` the end of a worker. Everything else that
a service does is made of them.
-/

namespace Startup

/-- How the work of a main function ends; it may also stop the service itself and then return. -/
inductive Ending where
  | returns
  | fails
  | stops
deriving DecidableEq

/-- What a worker runs: the wait of the service itself, a function of the application that waits for
a request to stop, or one that works until it is done or a stop is requested. -/
inductive MainFunction where
  | ownWait
  | waits
  | works (ending : Ending)
deriving DecidableEq

/-- What a stop calls. -/
inductive ShutdownFunction where
  | returns
  | fails
  | stops
deriving DecidableEq

structure Worker where
  main : MainFunction
  isAlive : Bool
deriving DecidableEq

inductive Call where
  | main (worker : Text)
  | shutdown
deriving DecidableEq

/-- A service and the workers it has started, oldest first. `handle?` is the place of the worker to
which it keeps a handle. If `stopsOnWait` holds, waiting for a request to stop is itself one. -/
structure Service where
  name : Text
  main? : Option MainFunction
  shutdown? : Option ShutdownFunction
  workers : List Worker
  handle? : Option Nat
  stopRequested : Bool
  catchesSignals : Bool
  stopsOnWait : Bool
  calls : List Call
deriving DecidableEq

namespace Service

def new (name : Text) (stopsOnWait : Bool) : Service where
  name := name
  main? := none
  shutdown? := none
  workers := []
  handle? := none
  stopRequested := false
  catchesSignals := false
  stopsOnWait := stopsOnWait
  calls := []

def defaultName : Text := "work_assistant"

def isAlive (service : Service) (worker : Nat) : Bool :=
  (service.workers[worker]?).any (·.isAlive)

/-- The worker that the service has a handle to and that is alive. -/
def running? (service : Service) : Option Nat :=
  service.handle?.filter service.isAlive

def isRunning (service : Service) : Bool :=
  service.running?.isSome

/-- The name of a worker: that of the service, or a number if the service has none. -/
def workerName (service : Service) (worker : Nat) : Text :=
  if service.name = [] then "Thread-" ++ Text.ofNat (worker + 1) ++ " (_run)" else service.name

def record (service : Service) (call : Call) : Service :=
  { service with calls := service.calls ++ [call] }

/-- Requests a stop. -/
def requestStop (service : Service) : Service :=
  { service with stopRequested := true }

inductive Refusal where
  | noMain
  | running
deriving DecidableEq

/-- The locked part of a start: withdraws the request to stop and starts a worker, to which the
service keeps a handle. -/
def launch (service : Service) : Except Refusal Service :=
  match service.main? with
  | none => .error .noMain
  | some main =>
      if service.isRunning then .error .running
      else
        .ok { service with
          stopRequested := false
          workers := service.workers ++ [⟨main, true⟩]
          handle? := some service.workers.length }

/-- The locked part of a stop: takes the handle away. -/
def release (service : Service) : Service :=
  { service with handle? := none }

def finish (service : Service) (worker : Nat) : Service :=
  { service with
    workers := service.workers.modify worker fun worker => { worker with isAlive := false }
    stopRequested := true }

def setMain (service : Service) (main : MainFunction) : Service :=
  { service with main? := some main }

def setShutdown (service : Service) (shutdown : ShutdownFunction) : Service :=
  { service with shutdown? := some shutdown }

def catchSignals (service : Service) : Service :=
  { service with catchesSignals := true }

def restoreSignals (service : Service) : Service :=
  { service with catchesSignals := false }

end Service

end Startup
