import SignatureForms.Fault

/-!
# Progress

A generation runs in steps. Each step is announced when it starts and when it is done or has
failed; a failed step ends the run, and what was announced before is kept.

* `Run.events_bind_error` — nothing is announced after a failure.
-/

namespace SignatureForms

/-- How far a step is. -/
inductive StepStatus where
  /-- The step has started. -/
  | running
  /-- The step has ended well. -/
  | done
  /-- The step has ended with a fault. -/
  | failed
deriving DecidableEq, Repr, Inhabited

/-- The word for a status. -/
def StepStatus.name : StepStatus → String
  | running => "running"
  | done => "done"
  | failed => "failed"

/-- An announcement. -/
structure ProgressEvent where
  /-- The label of the step. -/
  step : String
  /-- How far the step is. -/
  status : StepStatus
  /-- What the step does. -/
  detail : String
deriving DecidableEq, Repr, Inhabited

/-- What a run announces and how it ends. -/
structure Run (α : Type) where
  /-- The announcements, in order. -/
  events : List ProgressEvent
  /-- The result, or the fault that ended the run. -/
  outcome : Except Fault α

namespace Run

/-- A run without steps. -/
def ofExcept {α : Type} (outcome : Except Fault α) : Run α := ⟨[], outcome⟩

/-- A run that goes on with the result of another one. -/
def bind {α β : Type} (run : Run α) (next : α → Run β) : Run β :=
  match run.outcome with
  | .error fault => ⟨run.events, .error fault⟩
  | .ok a => ⟨run.events ++ (next a).events, (next a).outcome⟩

instance : Monad Run where
  pure a := ⟨[], .ok a⟩
  bind := bind

/-- One announced step. -/
def step {α : Type} (label detail : String) (outcome : Except Fault α) : Run α :=
  let last :=
    match outcome with
    | .ok _ => StepStatus.done
    | .error _ => StepStatus.failed
  ⟨[⟨label, .running, detail⟩, ⟨label, last, detail⟩], outcome⟩

/-- Nothing is announced after a failure. -/
theorem events_bind_error {α β : Type} {run : Run α} {fault : Fault}
    (h : run.outcome = .error fault) (next : α → Run β) : (run.bind next).events = run.events := by
  simp [bind, h]

end Run

end SignatureForms
