import Voip.Signaling.Discipline
import Voip.Signaling.Pacing

namespace voip_signaling.session

/-- The session that an actor belongs to. -/
def Actor.session_id : Actor → Option SessionId
  | .receive_loop s | .forward_task s => some s
  | .request _ => none

end voip_signaling.session

namespace voip_signaling.server

open async state session handlers

variable {state : AppState} {sys next : System} {event : Event} {s : SessionId}

/-- The task that the receive loop of a session is busy with. -/
def Receive.task : Receive → Option (Async Unit)
  | .handling _ task | .closing task => some task
  | .idle | .ended => none

/-- The task that the forward task of a session ends with. -/
def Forward.task : Forward → Option (Async Unit)
  | .finishing task => some task
  | .receiving | .writing _ | .ended => none

/-- The task of a session that an actor is busy with. -/
def System.task (sys : System) : Actor → Option (Async Unit)
  | .receive_loop s => (sys.receive s).task
  | .forward_task s => (sys.forward s).task
  | .request _ => none

def Role.session : Role → SessionId
  | .handling s _ | .closing s | .finishing s => s

theorem Disciplined.session (hsys : Disciplined state sys) {role : Role} {task : Async Unit}
    (hruns : sys.Runs role task) : ∃ session, sys.server.sessions role.session = some session := by
  cases role with
  | handling s framed =>
    have hrunning : sys.receive s = .handling framed task := hruns
    exact hsys.opened (s := s) (.inl (by simp [hrunning]))
  | closing s =>
    have hrunning : sys.receive s = .closing task := hruns
    exact hsys.opened (s := s) (.inl (by simp [hrunning]))
  | finishing s =>
    have hrunning : sys.forward s = .finishing task := hruns
    exact hsys.opened (s := s) (.inr (by simp [hrunning]))

/-- What is left of a task, if it has not returned. -/
def unfinished : Async Unit → Option (Async Unit)
  | .done _ => none
  | task => some task

section Tasks

variable {actor : Actor} {task : Async Unit}

theorem eq_of_mem_unfinished {rest : Async Unit} (hmem : rest ∈ unfinished task) : rest = task := by
  cases task with
  | done value => contradiction
  | act action resume => exact (Option.some.inj hmem).symm

theorem Receive.task_handled (framed : FramedMessage) : (Receive.handled framed task).task = unfinished task := by
  cases task <;> rfl

theorem Receive.task_closed : (Receive.closed task).task = unfinished task := by
  cases task <;> rfl

theorem Forward.task_finished : (Forward.finished task).task = unfinished task := by
  cases task <;> rfl

/-- The tasks of a system in which only one receive loop has changed. -/
theorem System.task_of_receive {receive : Receive}
    (hreceive : next.receive = Function.update sys.receive s receive) (hforward : next.forward = sys.forward) :
    next.task = Function.update sys.task (.receive_loop s) receive.task := by
  funext actor
  cases actor with
  | receive_loop s' => by_cases hs : s' = s <;> simp [System.task, hreceive, hs]
  | forward_task s' => simp [System.task, hforward]
  | request r => rfl

/-- The tasks of a system in which only one forward task has changed. -/
theorem System.task_of_forward {forward : Forward} (hreceive : next.receive = sys.receive)
    (hforward : next.forward = Function.update sys.forward s forward) :
    next.task = Function.update sys.task (.forward_task s) forward.task := by
  funext actor
  cases actor with
  | receive_loop s' => simp [System.task, hreceive]
  | forward_task s' => by_cases hs : s' = s <;> simp [System.task, hforward, hs]
  | request r => rfl

theorem System.task_set_receive (receive : Receive) :
    (sys.set_receive s receive).task = Function.update sys.task (.receive_loop s) receive.task :=
  System.task_of_receive rfl rfl

theorem System.task_set_forward (forward : Forward) :
    (sys.set_forward s forward).task = Function.update sys.task (.forward_task s) forward.task :=
  System.task_of_forward rfl rfl

theorem System.exists_role (hactor : actor.session_id = some s) (htask : sys.task actor = some task) :
    ∃ role, sys.Runs role task ∧ role.session = s := by
  cases actor with
  | receive_loop s' =>
    cases hactor
    change (sys.receive s).task = some task at htask
    cases hreceive : sys.receive s with
    | handling framed task' =>
      rw [hreceive] at htask
      cases htask
      exact ⟨.handling s framed, hreceive, rfl⟩
    | closing task' =>
      rw [hreceive] at htask
      cases htask
      exact ⟨.closing s, hreceive, rfl⟩
    | _ => simp [hreceive, Receive.task] at htask
  | forward_task s' =>
    cases hactor
    change (sys.forward s).task = some task at htask
    cases hforward : sys.forward s with
    | finishing task' =>
      rw [hforward] at htask
      cases htask
      exact ⟨.finishing s, hforward, rfl⟩
    | _ => simp [hforward, Forward.task] at htask
  | request r => contradiction

/-- The task that an event starts, and the actor that is then busy with it. -/
def Event.starts (state : AppState) : Event → Option (Actor × Async Unit)
  | .message s data =>
    (FramedMessage.from_bytes data).map fun framed => (.receive_loop s, receive_message state s framed)
  | .close s => some (.receive_loop s, session.cleanup s)
  | .write_fails s | .drained s => some (.forward_task s, session.cleanup s)
  | _ => none

theorem starts_message {data : wire.Bytes} {framed : FramedMessage}
    (hdecoded : FramedMessage.from_bytes data = some framed) :
    (Event.message s data).starts state = some (.receive_loop s, receive_message state s framed) := by
  simp [Event.starts, hdecoded]

/-- A task starts at an actor that is not busy, and nothing else changes. -/
theorem step_starts (hstarts : event.starts state = some (actor, task))
    (hstep : step state sys event = some next) :
    sys.task actor = none ∧ next.task = Function.update sys.task actor (some task) ∧
      next.server = sys.server ∧ next.requests = sys.requests := by
  cases event with
  | message s data =>
    obtain ⟨framed, hdecoded, heq⟩ := Option.map_eq_some_iff.mp hstarts
    cases heq
    simp only [step, hdecoded] at hstep
    split at hstep
    next hidle =>
      cases hstep
      exact ⟨by simp [System.task, hidle, Receive.task], System.task_set_receive _, rfl, rfl⟩
    next => contradiction
  | close s =>
    cases hstarts
    simp only [step] at hstep
    split at hstep
    next hidle =>
      cases hstep
      exact ⟨by simp [System.task, hidle, Receive.task], System.task_set_receive _, rfl, rfl⟩
    next => contradiction
  | write_fails s =>
    cases hstarts
    simp only [step] at hstep
    split at hstep
    next message hwriting =>
      cases hstep
      exact ⟨by simp [System.task, hwriting, Forward.task], System.task_set_forward _, rfl, rfl⟩
    next => contradiction
  | drained s =>
    cases hstarts
    simp only [step] at hstep
    split at hstep
    next hreceiving hended =>
      split at hstep
      next =>
        cases hstep
        exact ⟨by simp [System.task, hreceiving, Forward.task], System.task_set_forward _, rfl, rfl⟩
      next => contradiction
    next => contradiction
  | _ => contradiction

/-- A message that cannot be decoded is dropped. -/
theorem step_message_of_invalid {data : wire.Bytes} (hdecoded : FramedMessage.from_bytes data = none)
    (hstep : step state sys (.message s data) = some next) : next = sys := by
  simp only [step, hdecoded] at hstep
  split at hstep
  · exact (Option.some.inj hstep).symm
  · contradiction

/-- A task of a session performs its next action. -/
inductive Performed (sys : System) (actor : Actor) (event : Event) (next : System) : Prop where
  | mk {action : session.Action} {resume : action.Answer → Async Unit} {answer : action.Answer}
      {server : Server} (before : sys.task actor = some (.act action resume))
      (performs : sys.performs event = some action)
      (done : session.exec actor action sys.server = some (answer, server))
      (task : next.task = Function.update sys.task actor (unfinished (resume answer)))
      (requests : next.requests = sys.requests)
      (channels : next.server = { server with channels := next.server.channels }) :
      Performed sys actor event next

theorem performed_receive_loop (hstep : step state sys (.receive_loop s) = some next) :
    Performed sys (.receive_loop s) (.receive_loop s) next := by
  simp only [step] at hstep
  split at hstep
  next framed action resume hrunning =>
    obtain ⟨⟨answer, server⟩, hdone, rfl⟩ := Option.map_eq_some_iff.mp hstep
    have hbefore : sys.task (.receive_loop s) = some (.act action resume) := by
      simp [System.task, hrunning, Receive.task]
    refine .mk hbefore (by simp [System.performs, hrunning]) hdone ?_ rfl rfl
    rw [← Receive.task_handled framed]
    exact System.task_of_receive rfl rfl
  next action resume hrunning =>
    obtain ⟨⟨answer, server⟩, hdone, rfl⟩ := Option.map_eq_some_iff.mp hstep
    have hbefore : sys.task (.receive_loop s) = some (.act action resume) := by
      simp [System.task, hrunning, Receive.task]
    refine .mk hbefore (by simp [System.performs, hrunning]) hdone ?_ rfl rfl
    rw [← Receive.task_closed]
    exact System.task_of_receive rfl rfl
  next => contradiction

theorem performed_forward_task (hstep : step state sys (.forward_task s) = some next) :
    Performed sys (.forward_task s) (.forward_task s) next := by
  simp only [step] at hstep
  split at hstep
  next action resume hrunning =>
    obtain ⟨⟨answer, server⟩, hdone, rfl⟩ := Option.map_eq_some_iff.mp hstep
    have hbefore : sys.task (.forward_task s) = some (.act action resume) := by
      simp [System.task, hrunning, Forward.task]
    obtain ⟨hreceive, hrequests, hforward⟩ := System.finish_eq { sys with server } s (resume answer)
    refine .mk hbefore (by simp [System.performs, hrunning]) hdone ?_ hrequests ?_
    · rw [← Forward.task_finished]
      exact System.task_of_forward hreceive hforward
    · dsimp only
      cases resume answer <;> rfl
  next => contradiction

end Tasks

end voip_signaling.server
