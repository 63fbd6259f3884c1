import Voip.Async.Trace

namespace async

variable {σ ε β : Type}

/-- A step that also notes what happened in it. -/
def logged (step : σ → ε → Option σ) (note : σ → ε → σ → List β) (before : σ × List β) (label : ε) :
    Option (σ × List β) :=
  (step before.1 label).map fun next => (next, before.2 ++ note before.1 label next)

variable {step : σ → ε → Option σ} {note : σ → ε → σ → List β}

theorem logged_eq_some {before after : σ × List β} {label : ε} :
    logged step note before label = some after ↔
      step before.1 label = some after.1 ∧ after.2 = before.2 ++ note before.1 label after.1 := by
  obtain ⟨next, log⟩ := after
  simp only [logged, Option.map_eq_some_iff, Prod.mk.injEq]
  constructor
  · rintro ⟨next', hstep, rfl, rfl⟩
    exact ⟨hstep, rfl⟩
  · rintro ⟨hstep, rfl⟩
    exact ⟨next, hstep, rfl, rfl⟩

end async
