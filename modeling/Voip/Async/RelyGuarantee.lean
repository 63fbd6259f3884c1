import Voip.Async.Task

namespace async

namespace Task

variable {S : Signature} {σ α β : Type}

/-- Rely-guarantee safety of a task at a state: if every step of the environment
stays in `rely`, then each action is performed in a state allowed by `guar`, and
the task returns only with a value and state satisfying `post`. An action that
`run` leaves unanswered is blocked, and the task waits before it. -/
def Safe (run : (action : S.Action) → σ → Option (S.Answer action × σ))
    (rely : σ → σ → Prop) (guar : S.Action → σ → Prop) (post : α → σ → Prop) :
    Task S α → σ → Prop
  | .done value, state => ∀ after, rely state after → post value after
  | .act action resume, state => ∀ before, rely state before →
      ∀ answer after, run action before = some (answer, after) →
        guar action before ∧ (resume answer).Safe run rely guar post after

variable {run : (action : S.Action) → σ → Option (S.Answer action × σ)}
  {rely : σ → σ → Prop} {guar : S.Action → σ → Prop}

/-- Interference within the rely does not invalidate safety. -/
theorem Safe.interfere (htrans : ∀ a b c, rely a b → rely b c → rely a c) {post : α → σ → Prop}
    {task : Task S α} {state after : σ} (hsafe : task.Safe run rely guar post state)
    (hrely : rely state after) : task.Safe run rely guar post after := by
  cases task with
  | done value => exact fun final hfinal => hsafe final (htrans _ _ _ hrely hfinal)
  | act action resume => exact fun before hbefore => hsafe before (htrans _ _ _ hrely hbefore)

/-- One own step of a safe task is guaranteed and leaves a safe task. -/
theorem Safe.step (hrefl : ∀ state, rely state state) {post : α → σ → Prop}
    {action : S.Action} {resume : S.Answer action → Task S α} {state after : σ}
    {answer : S.Answer action}
    (hsafe : (Task.act action resume).Safe run rely guar post state)
    (hrun : run action state = some (answer, after)) :
    guar action state ∧ (resume answer).Safe run rely guar post after :=
  hsafe state (hrefl state) answer after hrun

theorem Safe.weaken {post post' : α → σ → Prop} {task : Task S α} {state : σ}
    (hsafe : task.Safe run rely guar post state)
    (himp : ∀ value after, post value after → post' value after) :
    task.Safe run rely guar post' state := by
  induction task generalizing state with
  | done value => exact fun after hafter => himp _ _ (hsafe after hafter)
  | act action resume ih =>
    intro before hbefore answer after hrun
    obtain ⟨hguar, hrest⟩ := hsafe before hbefore answer after hrun
    exact ⟨hguar, ih answer hrest⟩

/-- Sequential composition. -/
theorem Safe.bind (hrefl : ∀ state, rely state state) {post : β → σ → Prop}
    {task : Task S α} {f : α → Task S β} {state : σ}
    (hsafe : task.Safe run rely guar (fun value => (f value).Safe run rely guar post) state) :
    (task >>= f).Safe run rely guar post state := by
  induction task generalizing state with
  | done value => exact hsafe state (hrefl state)
  | act action resume ih =>
    intro before hbefore answer after hrun
    obtain ⟨hguar, hrest⟩ := hsafe before hbefore answer after hrun
    exact ⟨hguar, ih answer hrest⟩

/-- One action of a task, performed under a stable assertion. -/
theorem Safe.perform_bind {I : σ → Prop} (hstable : ∀ state after, I state → rely state after → I after)
    {post : β → σ → Prop} {action : S.Action} {f : S.Answer action → Task S β} {state : σ} (hstate : I state)
    (haction : ∀ before answer after, I before → run action before = some (answer, after) →
      guar action before ∧ (f answer).Safe run rely guar post after) :
    (perform action >>= f).Safe run rely guar post state :=
  fun before hbefore answer after hrun =>
    haction before answer after (hstable state before hstate hbefore) hrun

/-- A task all of whose actions keep a stable assertion, and are guaranteed
whenever it holds, is safe and returns with the assertion intact. -/
theorem Safe.of_uses {I : σ → Prop} (hstable : ∀ state after, I state → rely state after → I after)
    {task : Task S α}
    (huses : task.Uses fun action => ∀ before answer after, I before →
      run action before = some (answer, after) → guar action before ∧ I after)
    {state : σ} (hstate : I state) : task.Safe run rely guar (fun _ => I) state := by
  induction task generalizing state with
  | done value => exact fun after hafter => hstable _ _ hstate hafter
  | act action resume ih =>
    intro before hbefore answer after hrun
    obtain ⟨hguar, hafter⟩ := huses.1 before answer after (hstable _ _ hstate hbefore) hrun
    exact ⟨hguar, ih answer (huses.2 answer) hafter⟩

/-- A task whose action stays blocked never goes on. -/
theorem Safe.of_blocked {post : β → σ → Prop} {action : S.Action} {f : S.Answer action → Task S β}
    {state : σ} (hblocked : ∀ before, rely state before → run action before = none) :
    (perform action >>= f).Safe run rely guar post state := by
  intro before hbefore answer after hrun
  rw [hblocked before hbefore] at hrun
  contradiction

/-- Under interference that is an equivalence of states, an action whose effect is known up
to that equivalence, and which is not blocked in all equivalent states, can be executed
symbolically. -/
theorem Safe.perform_bind_iff (hequiv : Equivalence rely) (hguar : ∀ action state, guar action state)
    {post : β → σ → Prop} {action : S.Action} {f : S.Answer action → Task S β} {state next : σ}
    {answer : S.Answer action}
    (heffect : ∀ before result after, rely state before → run action before = some (result, after) →
      result = answer ∧ rely next after)
    (henabled : ∃ before, rely state before ∧ (run action before).isSome = true) :
    (perform action >>= f).Safe run rely guar post state ↔ (f answer).Safe run rely guar post next := by
  have htrans : ∀ a b c, rely a b → rely b c → rely a c := fun _ _ _ hab hbc => hequiv.trans hab hbc
  constructor
  · intro hsafe
    obtain ⟨before, hbefore, hsome⟩ := henabled
    obtain ⟨⟨result, after⟩, hrun⟩ := Option.isSome_iff_exists.mp hsome
    obtain ⟨rfl, hafter⟩ := heffect before result after hbefore hrun
    exact (hsafe before hbefore result after hrun).2.interfere htrans (hequiv.symm hafter)
  · intro hsafe before hbefore result after hrun
    obtain ⟨rfl, hafter⟩ := heffect before result after hbefore hrun
    exact ⟨hguar action before, hsafe.interfere htrans hafter⟩

end Task

end async
