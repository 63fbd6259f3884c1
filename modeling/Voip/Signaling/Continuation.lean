import Voip.Signaling.Changes

namespace voip_signaling.server

open async state session

variable {state : AppState} {sys next : System} {event : Event}

/-- A role runs on as long as the task of its actor is left alone. -/
private theorem System.Runs.of_eq {role : Role} {task : Async Unit} (hruns : sys.Runs role task)
    (hreceive : ∀ s, role.actor = .receive_loop s → next.receive s = sys.receive s)
    (hforward : ∀ s, role.actor = .forward_task s → next.forward s = sys.forward s) :
    next.Runs role task := by
  cases role with
  | handling s framed => exact (hreceive s rfl).trans hruns
  | closing s => exact (hreceive s rfl).trans hruns
  | finishing s => exact (hforward s rfl).trans hruns

/-- The loop of a running role is neither idle nor at its end. -/
private theorem System.Runs.receive {role : Role} {task : Async Unit} (hruns : sys.Runs role task)
    {s : SessionId} (hactor : role.actor = .receive_loop s) :
    sys.receive s ≠ .idle ∧ sys.receive s ≠ .ended := by
  cases role with
  | handling s' framed =>
    cases hactor
    simp [show sys.receive s = .handling framed task from hruns]
  | closing s' =>
    cases hactor
    simp [show sys.receive s = .closing task from hruns]
  | finishing s' => contradiction

private theorem System.Runs.forward {role : Role} {task : Async Unit} (hruns : sys.Runs role task)
    {s : SessionId} (hactor : role.actor = .forward_task s) : sys.forward s = .finishing task := by
  cases role with
  | handling s' framed => contradiction
  | closing s' => contradiction
  | finishing s' =>
    cases hactor
    exact hruns

/-- What a task does next: it goes on with the rest, or it has returned. -/
def System.GoesOn (sys : System) (role : Role) (rest : Async Unit) : Prop :=
  sys.Runs role rest ∨ ∃ value, rest = .done value

private theorem goes_on_handled {s : SessionId} {framed : FramedMessage} {rest : Async Unit}
    (hreceive : next.receive s = .handled framed rest) : next.GoesOn (.handling s framed) rest := by
  cases rest with
  | done value => exact .inr ⟨value, rfl⟩
  | act action resume => exact .inl hreceive

private theorem goes_on_closed {s : SessionId} {rest : Async Unit}
    (hreceive : next.receive s = .closed rest) : next.GoesOn (.closing s) rest := by
  cases rest with
  | done value => exact .inr ⟨value, rfl⟩
  | act action resume => exact .inl hreceive

private theorem goes_on_finished {s : SessionId} {rest : Async Unit}
    (hforward : next.forward s = .finished rest) : next.GoesOn (.finishing s) rest := by
  cases rest with
  | done value => exact .inr ⟨value, rfl⟩
  | act action resume => exact .inl hforward

/-- What becomes of a running task in a step: it stands still, or it performs its action
and goes on. -/
theorem Disciplined.continues (hsys : Disciplined state sys)
    (hstep : server.step state sys event = some next)
    {role : Role} {task : Async Unit} (hruns : sys.Runs role task) :
    next.Runs role task ∨ ∃ action resume answer after, event = role.event ∧ task = .act action resume ∧
      exec role.actor action sys.server = some (answer, after) ∧ after.Agrees next.server ∧
      next.GoesOn role (resume answer) := by
  cases step_taken hstep with
  | quiet _ hreceive hforward _ _ =>
    left
    cases role with
    | handling s framed => simpa only [System.Runs, hreceive] using hruns
    | closing s => simpa only [System.Runs, hreceive] using hruns
    | finishing s => exact (hforward s task).mpr hruns
  | @upgrade s token claims hfresh _ =>
    refine .inl (hruns.of_eq (fun s' hactor => ?_) fun s' hactor => ?_)
    · obtain ⟨session, hsession⟩ := hsys.opened (.inl (hruns.receive hactor).2)
      have hs : s' ≠ s := by
        rintro rfl
        simp [hfresh] at hsession
      simp [System.open_session, hs]
    · obtain ⟨session, hsession⟩ := hsys.opened (s := s') (.inr (by simp [hruns.forward hactor]))
      have hs : s' ≠ s := by
        rintro rfl
        simp [hfresh] at hsession
      simp [System.open_session, hs]
  | @message s data framed hidle _ =>
    refine .inl (hruns.of_eq (fun s' hactor => Function.update_of_ne ?_ _ _) fun _ _ => rfl)
    rintro rfl
    exact (hruns.receive hactor).1 hidle
  | @close s hidle =>
    refine .inl (hruns.of_eq (fun s' hactor => Function.update_of_ne ?_ _ _) fun _ _ => rfl)
    rintro rfl
    exact (hruns.receive hactor).1 hidle
  | @write_fails s message hwriting =>
    refine .inl (hruns.of_eq (fun _ _ => rfl) fun s' hactor => Function.update_of_ne ?_ _ _)
    rintro rfl
    simp [hruns.forward hactor] at hwriting
  | @drained s hreceiving _ _ _ =>
    refine .inl (hruns.of_eq (fun _ _ => rfl) fun s' hactor => Function.update_of_ne ?_ _ _)
    rintro rfl
    simp [hruns.forward hactor] at hreceiving
  | @handling s framed action resume answer server hrunning hdone =>
    by_cases hactor : role.actor = .receive_loop s
    · right
      cases role with
      | handling s' framed' =>
        cases hactor
        cases hrunning.symm.trans hruns
        exact ⟨action, resume, answer, server, rfl, rfl, hdone, Server.Agrees.refl _,
          goes_on_handled (Function.update_self ..)⟩
      | closing s' =>
        cases hactor
        cases hrunning.symm.trans hruns
      | finishing s' => contradiction
    · refine .inl (hruns.of_eq (fun s' hactor' => Function.update_of_ne ?_ _ _) fun _ _ => rfl)
      rintro rfl
      exact hactor hactor'
  | @closing s action resume answer server hrunning hdone =>
    by_cases hactor : role.actor = .receive_loop s
    · right
      cases role with
      | handling s' framed' =>
        cases hactor
        cases hrunning.symm.trans hruns
      | closing s' =>
        cases hactor
        cases hrunning.symm.trans hruns
        exact ⟨action, resume, answer, server, rfl, rfl, hdone, Server.Agrees.refl _,
          goes_on_closed (Function.update_self ..)⟩
      | finishing s' => contradiction
    · refine .inl (hruns.of_eq (fun s' hactor' => Function.update_of_ne ?_ _ _) fun _ _ => rfl)
      rintro rfl
      exact hactor hactor'
  | @finishing s action resume answer server hrunning hdone =>
    obtain ⟨hreceive, -, hforward⟩ := System.finish_eq { sys with server } s (resume answer)
    by_cases hactor : role.actor = .forward_task s
    · right
      cases role with
      | handling s' framed' => contradiction
      | closing s' => contradiction
      | finishing s' =>
        cases hactor
        cases hrunning.symm.trans hruns
        refine ⟨action, resume, answer, server, rfl, rfl, hdone,
          System.agrees_finish { sys with server } s (resume answer), goes_on_finished ?_⟩
        rw [hforward, Function.update_self]
    · refine .inl (hruns.of_eq (fun s' _ => by rw [hreceive]) fun s' hactor' => ?_)
      rw [hforward]
      refine Function.update_of_ne ?_ _ _
      rintro rfl
      exact hactor hactor'
  | request _ => exact .inl hruns
  | handler _ _ => exact .inl hruns

/-- A receive loop that has returned had returned before, or has just finished its cleanup. -/
theorem ended_of_step (hstep : step state sys event = some next) {s : SessionId}
    (hended : next.receive s = .ended) :
    sys.receive s = .ended ∨ ∃ action resume answer after value,
      sys.Runs (.closing s) (.act action resume) ∧
      exec (.receive_loop s) action sys.server = some (answer, after) ∧ resume answer = .done value ∧
      after.Agrees next.server := by
  have hother : ∀ {s' receive}, next.receive = Function.update sys.receive s' receive →
      receive ≠ .ended → sys.receive s = .ended := by
    intro s' receive hreceive hne
    rw [hreceive] at hended
    by_cases hs : s = s'
    · subst hs
      exact absurd (by simpa using hended) hne
    · simpa [hs] using hended
  cases step_taken hstep with
  | quiet _ hreceive _ _ _ => exact .inl (by rwa [← hreceive])
  | upgrade _ _ => exact .inl (hother rfl (by simp))
  | message _ _ => exact .inl (hother rfl (by simp))
  | close _ => exact .inl (hother rfl (by simp))
  | write_fails _ => exact .inl hended
  | drained _ _ _ _ => exact .inl hended
  | @handling s' framed action resume answer server hrunning hdone =>
    refine .inl (hother rfl ?_)
    cases resume answer <;> simp [Receive.handled]
  | @closing s' action resume answer server hrunning hdone =>
    cases hrest : resume answer with
    | done value =>
      by_cases hs : s = s'
      · subst hs
        exact .inr ⟨action, resume, answer, server, value, hrunning, hdone, hrest, Server.Agrees.refl _⟩
      · exact .inl (by simpa [System.set_receive, hs] using hended)
    | act action' resume' =>
      refine .inl (hother rfl ?_)
      simp [hrest, Receive.closed]
  | @finishing s' action resume answer server hrunning hdone =>
    rw [(System.finish_eq { sys with server } s' (resume answer)).1] at hended
    exact .inl hended
  | request _ => exact .inl hended
  | handler _ _ => exact .inl hended

/-- A session that opens waits for its first message. -/
theorem idle_of_opened (hstep : step state sys event = some next) {s : SessionId}
    (hbefore : sys.server.sessions s = none) (hafter : next.server.sessions s ≠ none) :
    next.receive s = .idle := by
  by_cases hopens : ∃ token, event = .upgrade s token
  · obtain ⟨token, rfl⟩ := hopens
    simp only [step, hbefore] at hstep
    split at hstep
    next =>
      cases hstep
      exact absurd hbefore hafter
    next =>
      cases hstep
      exact Function.update_self ..
  · exact absurd ((move_of_step hstep).unopened (by simpa using hopens) hbefore) hafter

end voip_signaling.server
