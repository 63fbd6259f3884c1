import Voip.Async.RelyGuarantee
import Voip.Signaling.Transition

namespace voip_signaling.server

open async state session auth handlers

/-- The token of a session verifies with this subject at the time at which the session was opened. -/
def Credential.Verified (state : AppState) (credential : Credential) (subject : String) : Prop :=
  ∃ claims, jwt.verify_jwt state.serde state.ed25519 state.verifying_key credential.token credential.now_secs =
    .ok claims ∧ claims.sub = subject

/-- What a session's task is doing when it is suspended before an action. -/
inductive Role where
  | handling (s : SessionId) (framed : FramedMessage)
  | closing (s : SessionId)
  | finishing (s : SessionId)

namespace Role

def actor : Role → Actor
  | handling s _ | closing s => .receive_loop s
  | finishing s => .forward_task s

def event : Role → Event
  | handling s _ | closing s => .receive_loop s
  | finishing s => .forward_task s

end Role

def System.Runs (sys : System) : Role → Async Unit → Prop
  | .handling s framed, task => sys.receive s = .handling framed task
  | .closing s, task => sys.receive s = .closing task
  | .finishing s, task => sys.forward s = .finishing task

/-- The tasks that a step starts. -/
inductive Starts (state : AppState) (sys : System) : Event → Role → Async Unit → Prop where
  | message {s : SessionId} {data : wire.Bytes} {framed : FramedMessage} (idle : sys.receive s = .idle)
      (decoded : FramedMessage.from_bytes data = some framed) :
      Starts state sys (.message s data) (.handling s framed) (receive_message state s framed)
  | close {s : SessionId} (idle : sys.receive s = .idle) :
      Starts state sys (.close s) (.closing s) (cleanup s)
  | write_fails {s : SessionId} {message : FramedMessage} (writing : sys.forward s = .writing message) :
      Starts state sys (.write_fails s) (.finishing s) (cleanup s)
  | drained {s : SessionId} (receiving : sys.forward s = .receiving)
      (unregistered : sys.unregistered s = true) : Starts state sys (.drained s) (.finishing s) (cleanup s)

/-- A step as the tasks of sessions see it: nothing they observe changes, though a task
may start; a session opens; one of them performs an action; or a REST handler does. -/
inductive Move (state : AppState) (sys : System) (event : Event) (next : System) : Prop where
  | started (agrees : sys.server.Agrees next.server)
      (runs : ∀ {role task}, next.Runs role task → sys.Runs role task ∨ Starts state sys event role task)
  | opened {s : SessionId} {token peer_id : String} (label : event = .upgrade s token)
      (fresh : sys.server.sessions s = none)
      (server : next.server = (sys.open_session s token peer_id).server)
      (runs : ∀ {role task}, next.Runs role task → sys.Runs role task)
  | acted (role : Role) {action : session.Action} {resume : action.Answer → Async Unit}
      {answer : action.Answer} {after : Server} (label : event = role.event)
      (running : sys.Runs role (.act action resume))
      (done : exec role.actor action sys.server = some (answer, after))
      (agrees : after.Agrees next.server)
      (runs : ∀ {role' task}, next.Runs role' task →
        role' = role ∧ task = resume answer ∨ sys.Runs role' task ∧ role'.actor ≠ role.actor)
  | served {r : Nat} {pending : Pending} {action : session.Action}
      {resume : action.Answer → Async Outcome} {answer : action.Answer} (label : event = .handler r)
      (running : sys.requests r = some pending) (task : pending.task = .act action resume)
      (done : exec (.request r) action sys.server = some (answer, next.server))
      (runs : ∀ {role task}, next.Runs role task → sys.Runs role task)

section Roles

theorem handled_eq_handling {framed framed' : FramedMessage} {task task' : Async Unit}
    (hhandled : Receive.handled framed task = .handling framed' task') :
    framed' = framed ∧ task' = task := by
  cases task with
  | done value => contradiction
  | act action resume =>
    cases hhandled
    exact ⟨rfl, rfl⟩

theorem handled_ne_closing {framed : FramedMessage} {task task' : Async Unit} :
    Receive.handled framed task ≠ .closing task' := by
  cases task <;> simp [Receive.handled]

theorem closed_eq_closing {task task' : Async Unit} (hclosed : Receive.closed task = .closing task') :
    task' = task := by
  cases task with
  | done value => contradiction
  | act action resume =>
    cases hclosed
    rfl

theorem closed_ne_handling {framed : FramedMessage} {task task' : Async Unit} :
    Receive.closed task ≠ .handling framed task' := by
  cases task <;> simp [Receive.closed]

theorem finished_eq_finishing {task task' : Async Unit}
    (hfinished : Forward.finished task = .finishing task') : task' = task := by
  cases task with
  | done value => contradiction
  | act action resume =>
    cases hfinished
    rfl

variable (sys : System) {next : System} {s : SessionId}

/-- The roles of a system in which only the receive loop of one session has changed. -/
theorem runs_of_set_receive {receive : Receive} {role : Role} {task : Async Unit}
    (hruns : next.Runs role task) (hreceive : next.receive = Function.update sys.receive s receive)
    (hforward : next.forward = sys.forward) :
    (∃ framed, role = .handling s framed ∧ receive = .handling framed task) ∨
      (role = .closing s ∧ receive = .closing task) ∨
      (sys.Runs role task ∧ role.actor ≠ .receive_loop s) := by
  cases role with
  | handling s' framed =>
    simp only [System.Runs, hreceive] at hruns
    by_cases hs : s' = s
    · subst hs
      exact .inl ⟨framed, rfl, by simpa using hruns⟩
    · exact .inr (.inr ⟨by simpa [System.Runs, hs] using hruns, by simpa [Role.actor] using hs⟩)
  | closing s' =>
    simp only [System.Runs, hreceive] at hruns
    by_cases hs : s' = s
    · subst hs
      exact .inr (.inl ⟨rfl, by simpa using hruns⟩)
    · exact .inr (.inr ⟨by simpa [System.Runs, hs] using hruns, by simpa [Role.actor] using hs⟩)
  | finishing s' =>
    simp only [System.Runs, hforward] at hruns
    exact .inr (.inr ⟨hruns, by simp [Role.actor]⟩)

/-- The roles of a system in which only the forward task of one session has changed. -/
theorem runs_of_set_forward {forward : Forward} {role : Role} {task : Async Unit}
    (hruns : next.Runs role task) (hreceive : next.receive = sys.receive)
    (hforward : next.forward = Function.update sys.forward s forward) :
    (role = .finishing s ∧ forward = .finishing task) ∨
      (sys.Runs role task ∧ role.actor ≠ .forward_task s) := by
  cases role with
  | handling s' framed =>
    simp only [System.Runs, hreceive] at hruns
    exact .inr ⟨hruns, by simp [Role.actor]⟩
  | closing s' =>
    simp only [System.Runs, hreceive] at hruns
    exact .inr ⟨hruns, by simp [Role.actor]⟩
  | finishing s' =>
    simp only [System.Runs, hforward] at hruns
    by_cases hs : s' = s
    · subst hs
      exact .inl ⟨rfl, by simpa using hruns⟩
    · exact .inr ⟨by simpa [System.Runs, hs] using hruns, by simpa [Role.actor] using hs⟩

end Roles

section Moves

variable {state : AppState} {sys next : System} {event : Event}

/-- Every enabled step is a move. -/
theorem move_of_step (hstep : step state sys event = some next) : Move state sys event next := by
  cases step_taken hstep with
  | quiet hagrees hreceive hforward _ _ =>
    refine Move.started hagrees fun {role task} hruns => .inl ?_
    cases role with
    | handling s framed => simpa only [System.Runs, hreceive] using hruns
    | closing s => simpa only [System.Runs, hreceive] using hruns
    | finishing s => exact (hforward s task).mp hruns
  | @upgrade s token claims hfresh hverified =>
    refine Move.opened rfl hfresh rfl fun {role task} hruns => ?_
    cases role with
    | handling s' framed =>
      simp only [System.Runs, System.open_session, Function.update_apply] at hruns ⊢
      split at hruns
      · contradiction
      · exact hruns
    | closing s' =>
      simp only [System.Runs, System.open_session, Function.update_apply] at hruns ⊢
      split at hruns
      · contradiction
      · exact hruns
    | finishing s' =>
      simp only [System.Runs, System.open_session, Function.update_apply] at hruns ⊢
      split at hruns
      · contradiction
      · exact hruns
  | @message s data framed hidle hdecoded =>
    refine Move.started (Server.Agrees.refl _) fun {role task} hruns => ?_
    obtain ⟨framed', rfl, heq⟩ | ⟨rfl, heq⟩ | ⟨hruns, -⟩ := runs_of_set_receive sys hruns rfl rfl
    · cases heq
      exact .inr (.message hidle hdecoded)
    · contradiction
    · exact .inl hruns
  | @close s hidle =>
    refine Move.started (Server.Agrees.refl _) fun {role task} hruns => ?_
    obtain ⟨framed, rfl, heq⟩ | ⟨rfl, heq⟩ | ⟨hruns, -⟩ := runs_of_set_receive sys hruns rfl rfl
    · contradiction
    · cases heq
      exact .inr (.close hidle)
    · exact .inl hruns
  | @write_fails s message hwriting =>
    refine Move.started (Server.Agrees.refl _) fun {role task} hruns => ?_
    obtain ⟨rfl, heq⟩ | ⟨hruns, -⟩ := runs_of_set_forward sys hruns rfl rfl
    · cases heq
      exact .inr (.write_fails hwriting)
    · exact .inl hruns
  | @drained s hreceiving hended hempty hunregistered =>
    refine Move.started (Server.Agrees.refl _) fun {role task} hruns => ?_
    obtain ⟨rfl, heq⟩ | ⟨hruns, -⟩ := runs_of_set_forward sys hruns rfl rfl
    · cases heq
      exact .inr (.drained hreceiving hunregistered)
    · exact .inl hruns
  | @handling s framed action resume answer server hrunning hdone =>
    refine Move.acted (Role.handling s framed) rfl hrunning hdone (Server.Agrees.refl _)
      fun {role task} hruns => ?_
    obtain ⟨framed', rfl, heq⟩ | ⟨rfl, heq⟩ | hruns := runs_of_set_receive sys hruns rfl rfl
    · obtain ⟨rfl, rfl⟩ := handled_eq_handling heq
      exact .inl ⟨rfl, rfl⟩
    · exact absurd heq handled_ne_closing
    · exact .inr hruns
  | @closing s action resume answer server hrunning hdone =>
    refine Move.acted (Role.closing s) rfl hrunning hdone (Server.Agrees.refl _)
      fun {role task} hruns => ?_
    obtain ⟨framed, rfl, heq⟩ | ⟨rfl, heq⟩ | hruns := runs_of_set_receive sys hruns rfl rfl
    · exact absurd heq closed_ne_handling
    · exact .inl ⟨rfl, closed_eq_closing heq⟩
    · exact .inr hruns
  | @finishing s action resume answer server hrunning hdone =>
    obtain ⟨hreceive, -, hforward⟩ := System.finish_eq { sys with server } s (resume answer)
    refine Move.acted (Role.finishing s) rfl hrunning hdone
      (System.agrees_finish { sys with server } s (resume answer)) fun {role task} hruns => ?_
    obtain ⟨rfl, heq⟩ | hruns := runs_of_set_forward sys hruns hreceive hforward
    · exact .inl ⟨rfl, finished_eq_finishing heq⟩
    · exact .inr hruns
  | request hpassed => exact Move.started (Server.Agrees.refl _) fun {_ _} hruns => .inl hruns
  | handler hrunning hdone => exact Move.served rfl hrunning rfl hdone fun {_ _} hruns => hruns

/-- What the rest of the system may do to the shared state while a task of the given
actor stands still. -/
inductive Interferes (state : AppState) (sys : System) (event : Event) (actor : Actor) :
    Server → Prop where
  | agrees {after : Server} (agrees : sys.server.Agrees after) : Interferes state sys event actor after
  | opened {s : SessionId} {token peer_id : String} (fresh : sys.server.sessions s = none) :
      Interferes state sys event actor (sys.open_session s token peer_id).server
  | acted {role : Role} {action : session.Action} {resume : action.Answer → Async Unit}
      {answer : action.Answer} {server after : Server} (label : event = role.event)
      (running : sys.Runs role (.act action resume)) (other : actor ≠ role.actor)
      (done : exec role.actor action sys.server = some (answer, server)) (agrees : server.Agrees after) :
      Interferes state sys event actor after
  | served {r : Nat} {pending : Pending} {action : session.Action}
      {resume : action.Answer → Async Outcome} {answer : action.Answer} {after : Server}
      (label : event = .handler r) (running : sys.requests r = some pending)
      (task : pending.task = .act action resume)
      (done : exec (.request r) action sys.server = some (answer, after)) :
      Interferes state sys event actor after

/-- The rule for running tasks: an assertion about every running task is preserved if
it holds of every task that starts, survives the task's own actions, and survives what
the rest of the system does. -/
theorem Move.preserves {T : Role → Async Unit → Server → Prop} (hmove : Move state sys event next)
    (hstarts : ∀ {role task}, Starts state sys event role task → sys.server.Agrees next.server →
      T role task next.server)
    (hown : ∀ {role action resume answer after}, event = role.event →
      sys.Runs role (.act action resume) → exec role.actor action sys.server = some (answer, after) →
      after.Agrees next.server → T role (resume answer) next.server)
    (hinterferes : ∀ {role task}, sys.Runs role task →
      Interferes state sys event role.actor next.server → T role task next.server)
    {role : Role} {task : Async Unit} (hruns : next.Runs role task) : T role task next.server := by
  cases hmove with
  | started hagrees hbefore =>
    obtain hruns | hstart := hbefore hruns
    · exact hinterferes hruns (.agrees hagrees)
    · exact hstarts hstart hagrees
  | opened _ hfresh hserver hbefore => exact hinterferes (hbefore hruns) (hserver ▸ .opened hfresh)
  | acted acting hlabel hrunning hdone hagrees hbefore =>
    obtain ⟨rfl, rfl⟩ | ⟨hruns, hactor⟩ := hbefore hruns
    · exact hown hlabel hrunning hdone hagrees
    · exact hinterferes hruns (.acted hlabel hrunning hactor hdone hagrees)
  | served hlabel hrunning htask hdone hbefore =>
    exact hinterferes (hbefore hruns) (.served hlabel hrunning htask hdone)

/-- The parallel rule: tasks that are safe under their relies stay safe if each of them
starts safe and the rest of the system stays within its rely. A task is safe in each of
the ways `i` that its role has. -/
theorem Move.safe {ι : Type} (hmove : Move state sys event next) (Has : Role → ι → Prop)
    (rely : ι → Server → Server → Prop) (guar : ι → session.Action → Server → Prop)
    (hrefl : ∀ i server, rely i server server)
    (htrans : ∀ i a b c, rely i a b → rely i b c → rely i a c)
    (hagrees : ∀ {i server after}, Server.Agrees server after → rely i server after)
    (hsys : ∀ {role task i}, sys.Runs role task → Has role i →
      task.Safe (session.exec role.actor) (rely i) (guar i) (fun _ _ => True) sys.server)
    (hstarts : ∀ {role task i}, Starts state sys event role task → Has role i →
      task.Safe (session.exec role.actor) (rely i) (guar i) (fun _ _ => True) sys.server)
    (hinterferes : ∀ {role task i}, sys.Runs role task → Has role i →
      Interferes state sys event role.actor next.server → rely i sys.server next.server)
    {role : Role} {task : Async Unit} (hruns : next.Runs role task) {i : ι} (hhas : Has role i) :
    task.Safe (session.exec role.actor) (rely i) (guar i) (fun _ _ => True) next.server := by
  refine hmove.preserves (T := fun role task server => Has role i →
    task.Safe (session.exec role.actor) (rely i) (guar i) (fun _ _ => True) server) ?_ ?_ ?_ hruns hhas
  · intro role task hstart hsame hhas
    exact (hstarts hstart hhas).interfere (htrans i) (hagrees hsame)
  · intro role action resume answer after _ hrunning hdone hsame hhas
    obtain ⟨-, hrest⟩ := (hsys hrunning hhas).step (hrefl i) hdone
    exact hrest.interfere (htrans i) (hagrees hsame)
  · intro role task hrunning hchange hhas
    exact (hsys hrunning hhas).interfere (htrans i) (hinterferes hrunning hhas hchange)

end Moves

end voip_signaling.server
