import Voip.Signaling.Server

namespace voip_signaling.session

/-- Two server states that differ at most in the contents of channels, in clocks, in
rate limits and in the list of proxies. -/
structure Server.Agrees (server after : Server) : Prop where
  peers : after.inner.peers = server.inner.peers
  calls : after.inner.calls = server.inner.calls
  peers_lock : after.peers_lock = server.peers_lock
  sessions : after.sessions = server.sessions

theorem Server.Agrees.refl (server : Server) : server.Agrees server := ⟨rfl, rfl, rfl, rfl⟩

end voip_signaling.session

namespace voip_signaling.server

open async state session auth handlers

theorem System.agrees_finish (sys : System) (s : SessionId) (task : Async Unit) :
    sys.server.Agrees (sys.finish s task).server := by
  cases task <;> exact ⟨rfl, rfl, rfl, rfl⟩

theorem System.credentials_finish (sys : System) (s : SessionId) (task : Async Unit) :
    (sys.finish s task).credentials = sys.credentials := by
  cases task <;> rfl

def Forward.finished : Async Unit → Forward
  | .done _ => .ended
  | task => .finishing task

theorem System.finish_eq (sys : System) (s : SessionId) (task : Async Unit) :
    (sys.finish s task).receive = sys.receive ∧ (sys.finish s task).requests = sys.requests ∧
      (sys.finish s task).forward = Function.update sys.forward s (.finished task) := by
  cases task <;> exact ⟨rfl, rfl, rfl⟩

/-- Everything a step can do, with its guards. Steps that start no task and perform no
action of one are `quiet`. -/
inductive Taken (state : AppState) (sys : System) : Event → System → Prop where
  | quiet {event : Event} {next : System} (agrees : sys.server.Agrees next.server)
      (receive : next.receive = sys.receive)
      (forward : ∀ s task, next.forward s = .finishing task ↔ sys.forward s = .finishing task)
      (live : ∀ s, next.forward s ≠ .ended → sys.forward s ≠ .ended)
      (requests : ∀ r pending, next.requests r = some pending → sys.requests r = some pending)
      (credentials : next.credentials = sys.credentials) : Taken state sys event next
  | upgrade {s : SessionId} {token : String} {claims : jwt.JwtClaims}
      (fresh : sys.server.sessions s = none)
      (verified : jwt.verify_jwt state.serde state.ed25519 state.verifying_key token
        sys.server.now_secs = .ok claims) :
      Taken state sys (.upgrade s token) (sys.open_session s token claims.sub)
  | message {s : SessionId} {data : wire.Bytes} {framed : FramedMessage} (idle : sys.receive s = .idle)
      (decoded : FramedMessage.from_bytes data = some framed) :
      Taken state sys (.message s data)
        (sys.set_receive s (.handling framed (receive_message state s framed)))
  | close {s : SessionId} (idle : sys.receive s = .idle) :
      Taken state sys (.close s) (sys.set_receive s (.closing (cleanup s)))
  | write_fails {s : SessionId} {message : FramedMessage} (writing : sys.forward s = .writing message) :
      Taken state sys (.write_fails s) (sys.set_forward s (.finishing (cleanup s)))
  | drained {s : SessionId} (receiving : sys.forward s = .receiving) (ended : sys.receive s = .ended)
      (empty : (sys.server.channels s).queue = []) (unregistered : sys.unregistered s = true) :
      Taken state sys (.drained s) (sys.set_forward s (.finishing (cleanup s)))
  | handling {s : SessionId} {framed : FramedMessage} {action : session.Action}
      {resume : action.Answer → Async Unit} {answer : action.Answer} {server : Server}
      (running : sys.receive s = .handling framed (.act action resume))
      (done : exec (.receive_loop s) action sys.server = some (answer, server)) :
      Taken state sys (.receive_loop s)
        ({ sys with server }.set_receive s (.handled framed (resume answer)))
  | closing {s : SessionId} {action : session.Action}
      {resume : action.Answer → Async Unit} {answer : action.Answer} {server : Server}
      (running : sys.receive s = .closing (.act action resume))
      (done : exec (.receive_loop s) action sys.server = some (answer, server)) :
      Taken state sys (.receive_loop s) ({ sys with server }.set_receive s (.closed (resume answer)))
  | finishing {s : SessionId} {action : session.Action}
      {resume : action.Answer → Async Unit} {answer : action.Answer} {server : Server}
      (running : sys.forward s = .finishing (.act action resume))
      (done : exec (.forward_task s) action sys.server = some (answer, server)) :
      Taken state sys (.forward_task s) ({ sys with server }.finish s (resume answer))
  | request {r : Nat} {endpoint : Endpoint} {authorization : Option wire.Bytes}
      {auth : AuthenticatedPeer}
      (passed : auth_middleware state sys.server.now_secs endpoint.path endpoint.method
        authorization = .ok auth) :
      Taken state sys (.request r endpoint authorization)
        { sys with
          requests := Function.update sys.requests r
            (some { endpoint, authorization, auth, task := handle state auth endpoint }) }
  | handler {r : Nat} {endpoint : Endpoint} {authorization : Option wire.Bytes}
      {auth : AuthenticatedPeer} {action : session.Action} {resume : action.Answer → Async Outcome}
      {answer : action.Answer} {server : Server}
      (running : sys.requests r = some { endpoint, authorization, auth, task := .act action resume })
      (done : exec (.request r) action sys.server = some (answer, server)) :
      Taken state sys (.handler r)
        { sys with
          server
          requests := Function.update sys.requests r
            (some { endpoint, authorization, auth, task := resume answer }) }

section Inversion

variable {state : AppState} {sys next : System}

private theorem Taken.unchanged {event : Event} : Taken state sys event sys :=
  .quiet (Server.Agrees.refl _) rfl (fun _ _ => Iff.rfl) (fun _ h => h) (fun _ _ h => h) rfl

private theorem update_forward_finishing {s : SessionId} {forward : Forward}
    (hbefore : ∀ task, sys.forward s ≠ .finishing task) (hforward : ∀ task, forward ≠ .finishing task)
    (s' : SessionId) (task : Async Unit) :
    Function.update sys.forward s forward s' = .finishing task ↔ sys.forward s' = .finishing task := by
  by_cases hs : s' = s
  · subst hs
    simp [hbefore task, hforward task]
  · simp [hs]

private theorem update_forward_live {s : SessionId} {forward : Forward} (hlive : sys.forward s ≠ .ended)
    (s' : SessionId) (hnext : Function.update sys.forward s forward s' ≠ .ended) :
    sys.forward s' ≠ .ended := by
  by_cases hs : s' = s
  · subst hs
    exact hlive
  · simpa [hs] using hnext

/-- Every enabled step is one of the listed ones. -/
theorem step_taken {event : Event} (hstep : step state sys event = some next) :
    Taken state sys event next := by
  cases event with
  | upgrade s token =>
    simp only [step] at hstep
    split at hstep
    next => contradiction
    next hfresh =>
      split at hstep
      next =>
        cases hstep
        exact Taken.unchanged
      next claims hverified =>
        cases hstep
        exact Taken.upgrade hfresh hverified
  | message s data =>
    simp only [step] at hstep
    split at hstep
    next hidle =>
      split at hstep
      next =>
        cases hstep
        exact Taken.unchanged
      next framed hdecoded =>
        cases hstep
        exact Taken.message hidle hdecoded
    next => contradiction
  | close s =>
    simp only [step] at hstep
    split at hstep
    next hidle =>
      cases hstep
      exact Taken.close hidle
    next => contradiction
  | receive_loop s =>
    simp only [step] at hstep
    split at hstep
    next framed action resume hrunning =>
      obtain ⟨⟨answer, server⟩, hdone, rfl⟩ := Option.map_eq_some_iff.mp hstep
      exact Taken.handling hrunning hdone
    next action resume hrunning =>
      obtain ⟨⟨answer, server⟩, hdone, rfl⟩ := Option.map_eq_some_iff.mp hstep
      exact Taken.closing hrunning hdone
    next => contradiction
  | take s =>
    simp only [step] at hstep
    split at hstep
    next message queue hforward hqueue =>
      cases hstep
      exact Taken.quiet ⟨rfl, rfl, rfl, rfl⟩ rfl (update_forward_finishing (by simp [hforward]) (by simp))
        (update_forward_live (by simp [hforward])) (fun _ _ h => h) rfl
    next => contradiction
  | wrote s =>
    simp only [step] at hstep
    split at hstep
    next message hwriting =>
      cases hstep
      exact Taken.quiet (Server.Agrees.refl _) rfl
        (update_forward_finishing (by simp [hwriting]) (by simp))
        (update_forward_live (by simp [hwriting])) (fun _ _ h => h) rfl
    next => contradiction
  | write_fails s =>
    simp only [step] at hstep
    split at hstep
    next message hwriting =>
      cases hstep
      exact Taken.write_fails hwriting
    next => contradiction
  | drained s =>
    simp only [step] at hstep
    split at hstep
    next hreceiving hended =>
      split at hstep
      next hempty =>
        cases hstep
        exact Taken.drained hreceiving hended hempty.1 hempty.2
      next => contradiction
    next => contradiction
  | forward_task s =>
    simp only [step] at hstep
    split at hstep
    next action resume hrunning =>
      obtain ⟨⟨answer, server⟩, hdone, rfl⟩ := Option.map_eq_some_iff.mp hstep
      exact Taken.finishing hrunning hdone
    next => contradiction
  | request r endpoint authorization =>
    simp only [step] at hstep
    split at hstep
    next => contradiction
    next =>
      split at hstep
      next =>
        cases hstep
        exact Taken.unchanged
      next auth hpassed =>
        cases hstep
        exact Taken.request hpassed
  | handler r =>
    simp only [step] at hstep
    split at hstep
    next endpoint authorization auth action resume hrunning =>
      obtain ⟨⟨answer, server⟩, hdone, rfl⟩ := Option.map_eq_some_iff.mp hstep
      exact Taken.handler hrunning hdone
    next => contradiction
  | cancel r =>
    cases hstep
    refine Taken.quiet (Server.Agrees.refl _) rfl (fun _ _ => Iff.rfl) (fun _ h => h)
      (fun r' pending hpending => ?_) rfl
    by_cases hr : r' = r
    · subst hr
      simp at hpending
    · simpa [hr] using hpending
  | add_proxy _ | set_clock _ | elapse _ | cleanup =>
    cases hstep
    exact Taken.quiet ⟨rfl, rfl, rfl, rfl⟩ rfl (fun _ _ => Iff.rfl) (fun _ h => h) (fun _ _ h => h) rfl

/-- Where a pending request comes from: nothing happened to it, it has just passed the
middleware, or its handler has performed an action. -/
theorem requests_of_step {event : Event} (hstep : step state sys event = some next) {r : Nat}
    {pending : Pending} (hpending : next.requests r = some pending) :
    sys.requests r = some pending ∨
      (event = .request r pending.endpoint pending.authorization ∧ next.server = sys.server ∧
        auth_middleware state sys.server.now_secs pending.endpoint.path pending.endpoint.method
          pending.authorization = .ok pending.auth ∧
        pending.task = handle state pending.auth pending.endpoint) ∨
      ∃ (action : session.Action) (resume : action.Answer → Async Outcome) (answer : action.Answer),
        event = .handler r ∧ sys.requests r = some { pending with task := .act action resume } ∧
        exec (.request r) action sys.server = some (answer, next.server) ∧ pending.task = resume answer := by
  cases step_taken hstep with
  | quiet _ _ _ _ hrequests => exact .inl (hrequests r pending hpending)
  | @request r' endpoint authorization auth hpassed =>
    by_cases hr : r = r'
    · subst hr
      obtain rfl : _ = pending := by simpa using hpending
      exact .inr (.inl ⟨rfl, rfl, hpassed, rfl⟩)
    · exact .inl (by simpa [hr] using hpending)
  | @handler r' endpoint authorization auth action resume answer server hrunning hdone =>
    by_cases hr : r = r'
    · subst hr
      obtain rfl : _ = pending := by simpa using hpending
      exact .inr (.inr ⟨action, resume, answer, rfl, hrunning, hdone, rfl⟩)
    · exact .inl (by simpa [hr] using hpending)
  | @finishing s action resume answer server hrunning hdone =>
    rw [(System.finish_eq { sys with server } s (resume answer)).2.1] at hpending
    exact .inl hpending
  | _ => exact .inl hpending

end Inversion

end voip_signaling.server
