import Voip.Async.Outcome
import Voip.Async.Trace

namespace async.Task

variable {S : Signature} {σ ε α : Type}

/-- One task among the atomic operations of others: a label is such an operation, or `none` for
the next action of the task. -/
def interleave (run : (action : S.Action) → σ → Option (S.Answer action × σ)) (apply : σ → ε → σ) :
    σ × Task S α → Option ε → Option (σ × Task S α)
  | (state, task), some op => some (apply state op, task)
  | (state, .act action resume), none => (run action state).map fun (answer, next) => (next, resume answer)
  | (_, .done _), none => none

variable {run : (action : S.Action) → σ → Option (S.Answer action × σ)} {apply : σ → ε → σ}

/-- After a task has returned only operations of others are left. -/
theorem interleave_done {value : α} {labels : List (Option ε)} {state : σ} {last : σ × Task S α}
    (hexec : exec (interleave run apply) (state, .done value) labels = some last) :
    ∃ ops : List ε, labels = ops.map some ∧ last = (ops.foldl apply state, .done value) := by
  induction labels generalizing state with
  | nil =>
    cases hexec
    exact ⟨[], rfl, rfl⟩
  | cons label labels ih =>
    cases label with
    | none => contradiction
    | some op =>
      obtain ⟨ops, rfl, hlast⟩ := ih hexec
      exact ⟨op :: ops, rfl, hlast⟩

/-- A task that returns in the end performs its next action after some operations of others. -/
theorem interleave_act {C : σ × Task S α → Option ε → σ × Task S α → Prop} {action : S.Action}
    {resume : S.Answer action → Task S α} {labels : List (Option ε)} {state last : σ} {value : α}
    (hrun : Along (interleave run apply) C (state, .act action resume) labels)
    (hexec : exec (interleave run apply) (state, .act action resume) labels = some (last, .done value)) :
    ∃ (ops : List ε) (rest : List (Option ε)) (answer : S.Answer action) (next : σ),
      labels = ops.map some ++ none :: rest ∧
      run action (ops.foldl apply state) = some (answer, next) ∧
      C (ops.foldl apply state, .act action resume) none (next, resume answer) ∧
      Along (interleave run apply) C (next, resume answer) rest ∧
      exec (interleave run apply) (next, resume answer) rest = some (last, .done value) := by
  induction labels generalizing state with
  | nil => cases hexec
  | cons label labels ih =>
    cases label with
    | none =>
      obtain ⟨⟨next, task⟩, hnext, hrest⟩ := Option.bind_eq_some_iff.mp hexec
      obtain ⟨⟨answer, next'⟩, haction, hsame⟩ := Option.map_eq_some_iff.mp hnext
      cases hsame
      obtain ⟨hcond, halong⟩ := hrun _ hnext
      exact ⟨[], labels, answer, next, rfl, haction, hcond, halong, hrest⟩
    | some op =>
      obtain ⟨-, halong⟩ := hrun _ rfl
      obtain ⟨ops, rest, answer, next, rfl, hrest⟩ := ih halong hexec
      exact ⟨op :: ops, rest, answer, next, rfl, hrest⟩

end async.Task
