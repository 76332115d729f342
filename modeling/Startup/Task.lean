import Startup.Fault
import Startup.Log.Record

/-!
# Tasks

A task works on a state, reports to the log, and ends with a result or a fault. A fault ends the
task, while what it did to the state and what it reported before stay.
-/

namespace Startup

/-- What a task leaves behind, with its records, oldest first. -/
structure Run (σ α : Type) where
  result : Except Fault α
  state : σ
  log : List LogRecord

def Task (σ α : Type) : Type :=
  σ → Run σ α

namespace Task

variable {σ τ α β : Type}

def done (value : α) : Task σ α :=
  fun state => ⟨.ok value, state, []⟩

def andThen (task : Task σ α) (next : α → Task σ β) : Task σ β :=
  fun state =>
    let first := task state
    match first.result with
    | .error fault => ⟨.error fault, first.state, first.log⟩
    | .ok value =>
        let second := next value first.state
        ⟨second.result, second.state, first.log ++ second.log⟩

instance : Monad (Task σ) where
  pure := done
  bind := andThen

def fail (fault : Fault) : Task σ α :=
  fun state => ⟨.error fault, state, []⟩

def report (record : LogRecord) : Task σ Unit :=
  fun state => ⟨.ok (), state, [record]⟩

def reportAll (records : List LogRecord) : Task σ Unit :=
  fun state => ⟨.ok (), state, records⟩

def get : Task σ σ :=
  fun state => ⟨.ok state, state, []⟩

def set (state : σ) : Task σ Unit :=
  fun _ => ⟨.ok (), state, []⟩

def modify (change : σ → σ) : Task σ Unit :=
  fun state => ⟨.ok (), change state, []⟩

def ofExcept (result : Except Fault α) : Task σ α :=
  fun state => ⟨result, state, []⟩

def within (part : σ → τ) (replace : σ → τ → σ) (task : Task τ α) : Task σ α :=
  fun state =>
    let run := task (part state)
    ⟨run.result, replace state run.state, run.log⟩

@[simp]
theorem bind_apply (task : Task σ α) (next : α → Task σ β) (state : σ) :
    (task >>= next) state = andThen task next state := rfl

@[simp]
theorem pure_apply (value : α) (state : σ) :
    (pure value : Task σ α) state = ⟨.ok value, state, []⟩ := rfl

end Task

end Startup
