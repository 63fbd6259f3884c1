import Voip.Async.Task

namespace async.Task

variable {S : Signature} {α β : Type} {A : (action : S.Action) → S.Answer action → Prop}
  {P Q : S.Action → Prop}

/-- As long as its actions are answered as `A` expects, the task performs actions in `P`, until
it settles for actions in `Q`, whatever the answers. -/
def Settles (A : (action : S.Action) → S.Answer action → Prop) (P Q : S.Action → Prop) :
    Task S α → Prop
  | .done _ => True
  | .act action resume => (Task.act action resume : Task S α).Uses Q ∨
      P action ∧ ∀ answer, A action answer → (resume answer).Settles A P Q

theorem Settles.of_uses {task : Task S α} (htask : task.Uses Q) : task.Settles A P Q := by
  cases task with
  | done value => trivial
  | act action resume => exact .inl htask

theorem Settles.perform_bind {action : S.Action} {f : S.Answer action → Task S β} (haction : P action)
    (hf : ∀ answer, A action answer → (f answer).Settles A P Q) : (perform action >>= f).Settles A P Q :=
  .inr ⟨haction, hf⟩

theorem Settles.mono {P' : S.Action → Prop} {task : Task S α} (htask : task.Settles A P Q)
    (himp : ∀ action, P action → P' action) : task.Settles A P' Q := by
  induction task with
  | done value => trivial
  | act action resume ih =>
    obtain huses | ⟨haction, hrest⟩ := htask
    · exact .inl huses
    · exact .inr ⟨himp action haction, fun answer hanswer => ih answer (hrest answer hanswer)⟩

/-- The next action of a task, whether it has settled or not. -/
theorem Settles.action {action : S.Action} {resume : S.Answer action → Task S α}
    (htask : (Task.act action resume).Settles A P Q) : Q action ∨ P action :=
  htask.imp And.left And.left

end async.Task
