import Mathlib.Algebra.BigOperators.Group.List.Basic

namespace machine

variable {σ ι ο : Type} (step : σ → ι → ο × σ)

/-- The state in which a machine ends that is given inputs one after the other. -/
def final (state : σ) : List ι → σ
  | [] => state
  | input :: inputs => final (step state input).2 inputs

/-- The inputs with the output that each of them gave. -/
def history (state : σ) : List ι → List (ι × ο)
  | [] => []
  | input :: inputs => (input, (step state input).1) :: history (step state input).2 inputs

/-- The inputs with the state in which each of them came. -/
def moments (state : σ) : List ι → List (σ × ι)
  | [] => []
  | input :: inputs => (state, input) :: moments (step state input).2 inputs

/-- `C` holds of the history and the state before each step, and of the input of the step. -/
def Along (C : List (ι × ο) → σ → ι → Prop) (past : List (ι × ο)) (state : σ) : List ι → Prop
  | [] => True
  | input :: inputs => C past state input ∧
      Along C (past ++ [(input, (step state input).1)]) (step state input).2 inputs

variable {step}

instance Along.decidable {C : List (ι × ο) → σ → ι → Prop}
    [∀ past state input, Decidable (C past state input)] :
    (past : List (ι × ο)) → (state : σ) → (inputs : List ι) → Decidable (Along step C past state inputs)
  | _, _, [] => isTrue trivial
  | past, state, input :: inputs =>
    have : Decidable (Along step C (past ++ [(input, (step state input).1)]) (step state input).2 inputs) :=
      Along.decidable _ _ inputs
    inferInstanceAs (Decidable (C past state input ∧ _))

/-- The invariant rule for histories, under a condition on the steps. -/
theorem Along.invariant {C : List (ι × ο) → σ → ι → Prop} {I : List (ι × ο) → σ → Prop}
    (hstep : ∀ past state input, I past state → C past state input →
      I (past ++ [(input, (step state input).1)]) (step state input).2)
    {past : List (ι × ο)} {state : σ} {inputs : List ι} (hinit : I past state)
    (hrun : Along step C past state inputs) :
    I (past ++ history step state inputs) (final step state inputs) := by
  induction inputs generalizing past state with
  | nil => simpa [history, final] using hinit
  | cons input inputs ih =>
    have hnext := ih (hstep past state input hinit hrun.1) hrun.2
    rwa [List.append_assoc] at hnext

theorem along_true (past : List (ι × ο)) (state : σ) (inputs : List ι) :
    Along step (fun _ _ _ => True) past state inputs := by
  induction inputs generalizing past state with
  | nil => trivial
  | cons input inputs ih => exact ⟨trivial, ih _ _⟩

/-- The invariant rule for histories. -/
theorem invariant {I : List (ι × ο) → σ → Prop}
    (hstep : ∀ past state input, I past state →
      I (past ++ [(input, (step state input).1)]) (step state input).2)
    {state : σ} (hinit : I [] state) (inputs : List ι) :
    I (history step state inputs) (final step state inputs) :=
  Along.invariant (fun past state input hpast _ => hstep past state input hpast) hinit
    (along_true [] state inputs)

/-- Under a condition on the steps, what an invariant says of each step holds along the run. -/
theorem Along.of_invariant {C D : List (ι × ο) → σ → ι → Prop} {I : List (ι × ο) → σ → Prop}
    (hstep : ∀ past state input, I past state → C past state input →
      D past state input ∧ I (past ++ [(input, (step state input).1)]) (step state input).2)
    {past : List (ι × ο)} {state : σ} {inputs : List ι} (hinit : I past state)
    (hrun : Along step C past state inputs) : Along step D past state inputs := by
  induction inputs generalizing past state with
  | nil => trivial
  | cons input inputs ih =>
    obtain ⟨hnow, hnext⟩ := hstep past state input hinit hrun.1
    exact ⟨hnow, ih hnext hrun.2⟩

/-- Two conditions that agree on every step of a run as long as the first has held before. -/
theorem Along.iff_of_invariant {C D E : List (ι × ο) → σ → ι → Prop} {I : List (ι × ο) → σ → Prop}
    (hstep : ∀ past state input, I past state → C past state input →
      (D past state input ↔ E past state input) ∧
        (D past state input → I (past ++ [(input, (step state input).1)]) (step state input).2))
    {past : List (ι × ο)} {state : σ} {inputs : List ι} (hinit : I past state)
    (hrun : Along step C past state inputs) :
    Along step D past state inputs ↔ Along step E past state inputs := by
  induction inputs generalizing past state with
  | nil => exact Iff.rfl
  | cons input inputs ih =>
    obtain ⟨hnow, hnext⟩ := hstep past state input hinit hrun.1
    constructor
    · rintro ⟨hD, hrest⟩
      exact ⟨hnow.mp hD, (ih (hnext hD) hrun.2).mp hrest⟩
    · rintro ⟨hE, hrest⟩
      exact ⟨hnow.mpr hE, (ih (hnext (hnow.mpr hE)) hrun.2).mpr hrest⟩

section Simulation

variable {σ' ο' : Type} {step' : σ' → ι → ο' × σ'} (view : σ → σ') (answer : ο → ο')

/-- A machine whose every step is seen as a step of another has a history that is seen as a
history of the other. -/
theorem history_of_simulation
    (hstep : ∀ state input,
      step' (view state) input = (answer (step state input).1, view (step state input).2))
    (state : σ) (inputs : List ι) :
    history step' (view state) inputs =
      (history step state inputs).map fun entry => (entry.1, answer entry.2) := by
  induction inputs generalizing state with
  | nil => rfl
  | cons input inputs ih => simp only [history, hstep, ih, List.map_cons]

end Simulation

section Balance

variable {M : Type} [AddCommMonoid M] (inflow : σ → ι → M) (outflow : ο → M) (stock : σ → M)

/-- What came in is what went out and what is there, if no step loses or makes anything. -/
theorem balance
    (hstep : ∀ state input,
      inflow state input + stock state = outflow (step state input).1 + stock (step state input).2)
    (state : σ) (inputs : List ι) :
    ((moments step state inputs).map fun moment => inflow moment.1 moment.2).sum + stock state =
      ((history step state inputs).map fun entry => outflow entry.2).sum +
        stock (final step state inputs) := by
  induction inputs generalizing state with
  | nil => rfl
  | cons input inputs ih =>
    simp only [moments, history, final, List.map_cons, List.sum_cons]
    rw [add_right_comm, hstep, add_right_comm, add_assoc, ih, add_assoc]

end Balance

end machine
