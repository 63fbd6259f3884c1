import Mathlib.Logic.Basic

namespace async

/-- Atomic actions on shared state, each with the type of its answer. Everything
between two suspension points of asynchronous code is one action. -/
structure Signature where
  Action : Type
  Answer : Action → Type

/-- Asynchronous code as seen by a scheduler: it has returned, or it is suspended
before an atomic action and resumes with that action's answer. -/
inductive Task (S : Signature) (α : Type) : Type where
  | done (value : α)
  | act (action : S.Action) (resume : S.Answer action → Task S α)

namespace Task

variable {S : Signature} {α β γ : Type}

protected def bind : Task S α → (α → Task S β) → Task S β
  | .done value, f => f value
  | .act action resume, f => .act action (fun answer => (resume answer).bind f)

instance : Monad (Task S) where
  pure := .done
  bind := Task.bind

/-- The task that performs one action and returns its answer. -/
def perform (action : S.Action) : Task S (S.Answer action) := .act action .done

@[simp] theorem pure_eq_done (value : α) : (pure value : Task S α) = .done value := rfl

@[simp] theorem done_bind (value : α) (f : α → Task S β) : (Task.done value >>= f) = f value := rfl

@[simp] theorem act_bind (action : S.Action) (resume : S.Answer action → Task S α)
    (f : α → Task S β) :
    (Task.act action resume >>= f) = .act action (fun answer => resume answer >>= f) := rfl

@[simp] theorem perform_bind (action : S.Action) (f : S.Answer action → Task S β) :
    (perform action >>= f) = .act action f := rfl

theorem bind_assoc (task : Task S α) (f : α → Task S β) (g : β → Task S γ) :
    (task >>= f >>= g) = (task >>= fun value => f value >>= g) := by
  induction task with
  | done value => rfl
  | act action resume ih =>
    simp only [act_bind]
    congr 1
    funext answer
    exact ih answer

theorem bind_done (task : Task S α) : (task >>= Task.done) = task := by
  induction task with
  | done value => rfl
  | act action resume ih =>
    simp only [act_bind]
    congr 1
    funext answer
    exact ih answer

instance : LawfulMonad (Task S) := LawfulMonad.mk' (Task S) bind_done (fun _ _ => rfl) bind_assoc

/-- Every action the task can still perform, whatever answers it gets, satisfies `P`. -/
def Uses (P : S.Action → Prop) : Task S α → Prop
  | .done _ => True
  | .act action resume => P action ∧ ∀ answer, (resume answer).Uses P

@[simp] theorem uses_done (P : S.Action → Prop) (value : α) : (Task.done value : Task S α).Uses P :=
  trivial

@[simp] theorem uses_act {P : S.Action → Prop} {action : S.Action}
    {resume : S.Answer action → Task S α} :
    (Task.act action resume).Uses P ↔ P action ∧ ∀ answer, (resume answer).Uses P := Iff.rfl

@[simp] theorem uses_perform {P : S.Action → Prop} {action : S.Action} :
    (perform action).Uses P ↔ P action := by
  simp [perform]

theorem uses_perform_bind {P : S.Action → Prop} {action : S.Action} {f : S.Answer action → Task S β} :
    (perform action >>= f).Uses P ↔ P action ∧ ∀ answer, (f answer).Uses P := Iff.rfl

theorem Uses.perform_bind {P : S.Action → Prop} {action : S.Action} {f : S.Answer action → Task S β}
    (haction : P action) (hf : ∀ answer, (f answer).Uses P) : (perform action >>= f).Uses P :=
  ⟨haction, hf⟩

theorem Uses.bind {P : S.Action → Prop} {task : Task S α} {f : α → Task S β}
    (htask : task.Uses P) (hf : ∀ value, (f value).Uses P) : (task >>= f).Uses P := by
  induction task with
  | done value => exact hf value
  | act action resume ih => exact ⟨htask.1, fun answer => ih answer (htask.2 answer)⟩

theorem Uses.mono {P Q : S.Action → Prop} {task : Task S α} (htask : task.Uses P)
    (himp : ∀ action, P action → Q action) : task.Uses Q := by
  induction task with
  | done value => trivial
  | act action resume ih =>
    exact ⟨himp action htask.1, fun answer => ih answer (htask.2 answer)⟩

end Task

end async
