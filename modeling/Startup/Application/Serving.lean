import Startup.Service.Lifecycle

/-!
# Running the service of the application

In the background mode the service waits on a worker; in the foreground mode there is no worker.
Either way the program itself waits for a request to stop. `enter` is what happens before that wait
and `leave` what happens after it.
-/

namespace Startup.Application

def reporter : Reporter := ⟨"app", "bootstrap"⟩

/-- Prepares the service for the wait; the result is false if there is nothing to wait for. -/
def enter (background : Bool) : Task Service Bool := do
  Task.modify Service.catchSignals
  if background then
    Task.modify fun service => service.setMain .ownWait
    if ← Service.start then
      Task.report (reporter.record .info "Running in daemon mode")
      return true
    else return false
  else
    Task.report (reporter.record .info "Running in foreground mode, press Ctrl+C to stop")
    return true

/-- Stops the service and leaves signals alone; the result is the exit code of the program. -/
def leave (entered : Bool) : Task Service Int := do
  Service.stop
  Task.modify Service.restoreSignals
  if entered then
    Task.report (reporter.record .info "Application stopped")
    return 0
  else return 1

/-- Runs the service until a stop is requested; the result is the exit code. -/
def serve (background : Bool) : Task Service Int := do
  let entered ← enter background
  if entered then
    let _ ← Service.wait
    leave true
  else leave false

end Startup.Application
