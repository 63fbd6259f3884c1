import Mathlib.Logic.Basic

namespace async

variable {σ ε : Type} (step : σ → ε → Option σ)

/-- `P` holds of every step taken when the labels of a run are executed in order
from the given state. Execution ends at the first label that is not enabled. -/
def Along (P : σ → ε → σ → Prop) : σ → List ε → Prop
  | _, [] => True
  | state, label :: labels => ∀ next, step state label = some next →
      P state label next ∧ Along P next labels

/-- The state a run ends in, if each of its labels is enabled in turn. -/
def exec (state : σ) : List ε → Option σ
  | [] => some state
  | label :: labels => (step state label).bind fun next => exec next labels

/-- How many steps of a run are counted. -/
def tally (counts : σ → ε → Bool) : σ → List ε → Nat
  | _, [] => 0
  | state, label :: labels =>
    match step state label with
    | none => 0
    | some next => (counts state label).toNat + tally counts next labels

/-- What the steps of a run note, in their order. -/
def gather {β : Type} (note : σ → ε → σ → List β) : σ → List ε → List β
  | _, [] => []
  | state, label :: labels =>
    match step state label with
    | none => []
    | some next => note state label next ++ gather note next labels

variable {step}

theorem gather_cons_of_step {β : Type} {note : σ → ε → σ → List β} {state next : σ} {label : ε}
    {labels : List ε} (hstep : step state label = some next) :
    gather step note state (label :: labels) = note state label next ++ gather step note next labels := by
  simp [gather, hstep]

@[simp] theorem along_nil (P : σ → ε → σ → Prop) (state : σ) : Along step P state [] := trivial

theorem along_cons_of_step {P : σ → ε → σ → Prop} {state next : σ} {label : ε} {labels : List ε}
    (hstep : step state label = some next) :
    Along step P state (label :: labels) ↔ P state label next ∧ Along step P next labels := by
  simp [Along, hstep]

theorem exec_cons_of_step {state next : σ} {label : ε} {labels : List ε}
    (hstep : step state label = some next) :
    exec step state (label :: labels) = exec step next labels := by
  simp [exec, hstep]

theorem exec_append (state : σ) (labels rest : List ε) :
    exec step state (labels ++ rest) = (exec step state labels).bind fun next => exec step next rest := by
  induction labels generalizing state with
  | nil => rfl
  | cons label labels ih =>
    cases hstep : step state label with
    | none => simp [exec, hstep]
    | some next => simp [exec, hstep, ih]

theorem Along.append {P : σ → ε → σ → Prop} {state next : σ} {labels rest : List ε}
    (hrun : Along step P state labels) (hexec : exec step state labels = some next)
    (hrest : Along step P next rest) : Along step P state (labels ++ rest) := by
  induction labels generalizing state with
  | nil =>
    cases hexec
    exact hrest
  | cons label labels ih =>
    intro middle hstep
    rw [exec_cons_of_step hstep] at hexec
    obtain ⟨hP, hlabels⟩ := hrun middle hstep
    exact ⟨hP, ih hlabels hexec⟩

/-- The invariant rule for executions, where a step may use that its label is one of the run. -/
theorem exec_invariant_of_mem {I : σ → Prop} {labels : List ε}
    (hstep : ∀ state label next, label ∈ labels → I state → step state label = some next → I next)
    {state last : σ} (hinit : I state) (hexec : exec step state labels = some last) : I last := by
  induction labels generalizing state with
  | nil =>
    cases hexec
    exact hinit
  | cons label labels ih =>
    obtain ⟨next, hnext, hrest⟩ := Option.bind_eq_some_iff.mp hexec
    have hinv := hstep state label next List.mem_cons_self hinit hnext
    refine ih (fun state other next hother => ?_) hinv hrest
    exact hstep state other next (List.mem_cons_of_mem label hother)

/-- The invariant rule for executions. -/
theorem exec_invariant {I : σ → Prop}
    (hstep : ∀ state label next, I state → step state label = some next → I next)
    {state last : σ} (hinit : I state) {labels : List ε} (hexec : exec step state labels = some last) :
    I last :=
  exec_invariant_of_mem (fun state label next _ => hstep state label next) hinit hexec

instance Along.decidable {P : σ → ε → σ → Prop} [∀ state label next, Decidable (P state label next)] :
    (state : σ) → (labels : List ε) → Decidable (Along step P state labels)
  | _, [] => isTrue trivial
  | state, label :: labels =>
    match hstep : step state label with
    | none => isTrue fun next hnext => by simp [hstep] at hnext
    | some next =>
      have : Decidable (Along step P next labels) := Along.decidable next labels
      decidable_of_iff _ (along_cons_of_step hstep).symm

/-- The invariant rule for runs under a condition on their steps: an invariant
that holds initially, and that every step meeting the condition preserves while
establishing `P`, gives `P` along every run whose steps meet the condition. -/
theorem Along.of_invariant {I : σ → Prop} {C P : σ → ε → σ → Prop}
    (hstep : ∀ state label next, I state → C state label next →
      step state label = some next → P state label next ∧ I next)
    {state : σ} (hinit : I state) {labels : List ε} (hrun : Along step C state labels) :
    Along step P state labels := by
  induction labels generalizing state with
  | nil => trivial
  | cons label labels ih =>
    intro next hnext
    obtain ⟨hcond, hrest⟩ := hrun next hnext
    obtain ⟨hP, hinv⟩ := hstep state label next hinit hcond hnext
    exact ⟨hP, ih hinv hrest⟩

/-- The invariant rule for counting: an invariant between the count so far and the state
holds of the whole count and the last state. -/
theorem Along.tally {I : Nat → σ → Prop} {C : σ → ε → σ → Prop} {counts : σ → ε → Bool}
    (hstep : ∀ n state label next, I n state → C state label next →
      step state label = some next → I (n + (counts state label).toNat) next)
    {n : Nat} {state last : σ} (hinit : I n state) {labels : List ε} (hrun : Along step C state labels)
    (hexec : exec step state labels = some last) : I (n + async.tally step counts state labels) last := by
  induction labels generalizing n state with
  | nil =>
    cases hexec
    exact hinit
  | cons label labels ih =>
    cases hnext : step state label with
    | none => simp [exec, hnext] at hexec
    | some next =>
      rw [exec_cons_of_step hnext] at hexec
      obtain ⟨hcond, hrest⟩ := hrun next hnext
      have hinv := ih (hstep n state label next hinit hcond hnext) hrest hexec
      simpa [async.tally, hnext, Nat.add_assoc] using hinv

/-- Steps of an executed prefix come first: what holds along a whole run holds of
the step a given prefix leads to. -/
theorem Along.at_prefix {P : σ → ε → σ → Prop} {state middle next : σ} {label : ε}
    {before after : List ε} (hrun : Along step P state (before ++ label :: after))
    (hbefore : exec step state before = some middle) (hnext : step middle label = some next) :
    P middle label next := by
  induction before generalizing state with
  | nil =>
    cases hbefore
    exact (hrun next hnext).1
  | cons first before ih =>
    simp only [exec, Option.bind_eq_some_iff] at hbefore
    obtain ⟨second, hfirst, hbefore⟩ := hbefore
    exact ih (hrun second hfirst).2 hbefore

/-- A run violates a property when it leads to a step that is seen not to have it. -/
theorem Along.not_of_seen {P : σ → ε → σ → Prop} {state : σ} {label : ε} {before after : List ε}
    (seen : σ → σ → Bool) (hseen : ∀ middle next, seen middle next = true → ¬ P middle label next)
    (hreached : ((exec step state before).bind fun middle => (step middle label).map (seen middle)) =
      some true) : ¬ Along step P state (before ++ label :: after) := by
  intro hrun
  obtain ⟨middle, hbefore, hmap⟩ := Option.bind_eq_some_iff.mp hreached
  obtain ⟨next, hnext, htrue⟩ := Option.map_eq_some_iff.mp hmap
  exact hseen middle next htrue (hrun.at_prefix hbefore hnext)

end async
