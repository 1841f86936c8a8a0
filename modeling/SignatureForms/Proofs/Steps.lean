import SignatureForms.Artifact.Progress

/-!
# Steps that may fail

What is computed in steps that may fail gives a result just if each step does. This module reads
the success of such a computation back as the success of its steps, one step at a time.

## Main results

* `bind_eq_ok_iff`, `bind_eq_error_iff`: a computation goes on with the result of its first step;
* `Run.outcome_bind_eq_ok_iff`: so does a run that announces its steps.
-/

namespace SignatureForms

section Steps

variable {ε α β : Type}

/-- Two steps give a result if the first one gives a value from which the second one gives it. -/
theorem bind_eq_ok_iff {step : Except ε α} {next : α → Except ε β} {result : β} :
    step >>= next = .ok result ↔ ∃ value, step = .ok value ∧ next value = .ok result := by
  cases step <;> simp [bind, Except.bind]

/-- Two steps fail if the first one does, or if it gives a value with which the second one does. -/
theorem bind_eq_error_iff {step : Except ε α} {next : α → Except ε β} {fault : ε} :
    step >>= next = .error fault ↔
      step = .error fault ∨ ∃ value, step = .ok value ∧ next value = .error fault := by
  cases step <;> simp [bind, Except.bind]

theorem pure_eq_ok_iff {value result : α} :
    (pure value : Except ε α) = .ok result ↔ value = result := by
  simp [pure, Except.pure]

theorem map_eq_ok_iff {f : α → β} {step : Except ε α} {result : β} :
    f <$> step = .ok result ↔ ∃ value, step = .ok value ∧ f value = result := by
  cases step <;> simp [Functor.map, Except.map]

/-- Two runs, one after the other, end with a result if the first one ends with a value from which
the second one ends with it. -/
theorem Run.outcome_bind_eq_ok_iff {run : Run α} {next : α → Run β} {result : β} :
    (run >>= next).outcome = .ok result ↔
      ∃ value, run.outcome = .ok value ∧ (next value).outcome = .ok result := by
  show (run.bind next).outcome = .ok result ↔ _
  unfold Run.bind
  cases run.outcome <;> simp

theorem Run.outcome_pure_eq_ok_iff {value result : α} :
    (pure value : Run α).outcome = .ok result ↔ value = result := by
  simp [pure]

end Steps

end SignatureForms
