import Voip.Async.RelyGuarantee

namespace async.Task

variable {S : Signature} {σ α β : Type}

/-- Every value that the task can return, if each action gets one of the answers allowed
for it, satisfies `P`. -/
def Yields (allowed : (action : S.Action) → S.Answer action → Prop) (P : α → Prop) : Task S α → Prop
  | .done value => P value
  | .act action resume => ∀ answer, allowed action answer → (resume answer).Yields allowed P

variable {allowed : (action : S.Action) → S.Answer action → Prop}

theorem Yields.perform_bind {Q : β → Prop} {action : S.Action} {f : S.Answer action → Task S β}
    (hf : ∀ answer, allowed action answer → (f answer).Yields allowed Q) :
    (perform action >>= f).Yields allowed Q := hf

/-- What a task can only return it also returns under interference. -/
theorem Yields.safe {run : (action : S.Action) → σ → Option (S.Answer action × σ)} {rely : σ → σ → Prop}
    {P : α → Prop} {task : Task S α} (htask : task.Yields (fun _ _ => True) P) (state : σ) :
    task.Safe run rely (fun _ _ => True) (fun value _ => P value) state := by
  induction task generalizing state with
  | done value => exact fun _ _ => htask
  | act action resume ih =>
    exact fun _ _ answer after _ => ⟨trivial, ih answer (htask answer trivial) after⟩

/-- The task run to its end with no other task in between; `none` if an action has to wait. -/
def run (exec : (action : S.Action) → σ → Option (S.Answer action × σ)) : Task S α → σ → Option (α × σ)
  | .done value, state => some (value, state)
  | .act action resume, state =>
    (exec action state).bind fun (answer, state) => (resume answer).run exec state

variable {exec : (action : S.Action) → σ → Option (S.Answer action × σ)}

@[simp] theorem run_done (value : α) (state : σ) : (Task.done value).run exec state = some (value, state) :=
  rfl

@[simp] theorem run_act (action : S.Action) (resume : S.Answer action → Task S α) (state : σ) :
    (Task.act action resume).run exec state =
      (exec action state).bind fun (answer, state) => (resume answer).run exec state := rfl

theorem run_bind (task : Task S α) (f : α → Task S β) (state : σ) :
    (task >>= f).run exec state = (task.run exec state).bind fun (value, state) => (f value).run exec state := by
  induction task generalizing state with
  | done value => rfl
  | act action resume ih =>
    rw [act_bind, run_act, run_act]
    cases exec action state with
    | none => rfl
    | some next => exact ih next.1 next.2

/-- Each action that the run comes to satisfies `P` in the state in which it comes to it. -/
def Meets (exec : (action : S.Action) → σ → Option (S.Answer action × σ)) (P : S.Action → σ → Prop) :
    Task S α → σ → Prop
  | .done _, _ => True
  | .act action resume, state =>
    P action state ∧ ∀ next, exec action state = some next → (resume next.1).Meets exec P next.2

/-- Where an action has to wait just when `P` fails, a run that meets `P` comes to its end. -/
theorem isSome_run_iff_meets {P : S.Action → σ → Prop}
    (hexec : ∀ action state, (exec action state).isSome = true ↔ P action state) (task : Task S α) (state : σ) :
    (task.run exec state).isSome = true ↔ task.Meets exec P state := by
  induction task generalizing state with
  | done value => simp [Meets]
  | act action resume ih =>
    rw [run_act, Meets, ← hexec]
    cases hnext : exec action state with
    | none => simp
    | some next => simpa using ih next.1 next.2

end async.Task
