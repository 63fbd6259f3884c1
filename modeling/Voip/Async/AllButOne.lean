import Voip.Async.Task

namespace async.Task

variable {S : Signature} {α β : Type} {P : S.Action → Prop}

/-- Every action the task can still perform satisfies `P`, except for at most one. -/
def AllButOne (P : S.Action → Prop) : Task S α → Prop
  | .done _ => True
  | .act action resume => ∀ answer,
      P action ∧ (resume answer).AllButOne P ∨ (resume answer).Uses P

theorem AllButOne.of_uses {task : Task S α} (htask : task.Uses P) : task.AllButOne P := by
  cases task with
  | done value => trivial
  | act action resume => exact fun answer => .inr (htask.2 answer)

/-- After the exceptional action nothing is exceptional any more. -/
theorem AllButOne.uses_of_not {action : S.Action} {resume : S.Answer action → Task S α}
    (htask : (Task.act action resume).AllButOne P) (haction : ¬ P action) (answer : S.Answer action) :
    (resume answer).Uses P :=
  (htask answer).resolve_left fun h => haction h.1

theorem AllButOne.resume {action : S.Action} {resume : S.Answer action → Task S α}
    (htask : (Task.act action resume).AllButOne P) (answer : S.Answer action) :
    (resume answer).AllButOne P :=
  (htask answer).elim And.right .of_uses

/-- The exception may be in what follows. -/
theorem AllButOne.bind {task : Task S α} {f : α → Task S β} (htask : task.Uses P)
    (hf : ∀ value, (f value).AllButOne P) : (task >>= f).AllButOne P := by
  induction task with
  | done value => exact hf value
  | act action resume ih => exact fun answer => .inl ⟨htask.1, ih answer (htask.2 answer)⟩

theorem AllButOne.perform_bind {action : S.Action} {f : S.Answer action → Task S β} (haction : P action)
    (hf : ∀ answer, (f answer).AllButOne P) : (perform action >>= f).AllButOne P :=
  fun answer => .inl ⟨haction, hf answer⟩

/-- The exception may be in what comes first. -/
theorem AllButOne.bind_uses {task : Task S α} {f : α → Task S β} (htask : task.AllButOne P)
    (hf : ∀ value, (f value).Uses P) : (task >>= f).AllButOne P := by
  induction task with
  | done value => exact .of_uses (hf value)
  | act action resume ih =>
    intro answer
    obtain ⟨haction, hrest⟩ | hrest := htask answer
    · exact .inl ⟨haction, ih answer hrest⟩
    · exact .inr (hrest.bind hf)

end async.Task
