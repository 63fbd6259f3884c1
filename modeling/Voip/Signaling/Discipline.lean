import Voip.Signaling.Exec
import Voip.Signaling.Handling
import Voip.Signaling.Move

namespace voip_signaling.handlers

open async state session auth

/-- The actions of a REST handler that runs with the given identity. -/
def Serves (auth : AuthenticatedPeer) : Endpoint → session.Action → Prop
  | .register_peer body, .state (.register_peer info sender) => info.peer_id = body.peer_id ∧ sender = none
  | .update_peer peer_id _, .state (.register_peer info sender) =>
    auth.peer_id = peer_id ∧ info.peer_id = peer_id ∧ sender = none
  | .unregister_peer peer_id, .state (.unregister_peer removed) => auth.peer_id = peer_id ∧ removed = peer_id
  | _, .state op => reads op
  | _, .now_secs => True
  | _, _ => False

private theorem register_peer_uses (state : AppState) (auth : AuthenticatedPeer)
    (body : RegisterPeerRequest) :
    (register_peer state body).Uses (Serves auth (.register_peer body)) := by
  unfold register_peer
  split
  · trivial
  · refine Task.Uses.perform_bind trivial fun allowed => ?_
    cases allowed with
    | false => trivial
    | true =>
      refine Task.Uses.perform_bind trivial fun now => ?_
      refine Task.Uses.perform_bind ⟨rfl, rfl⟩ fun registered => ?_
      cases registered with
      | error e => trivial
      | ok _ =>
        refine Task.Uses.perform_bind trivial fun now => ?_
        dsimp only
        split <;> trivial

private theorem update_peer_uses (auth : AuthenticatedPeer) (peer_id : String)
    (body : RegisterPeerRequest) :
    (update_peer auth peer_id body).Uses (Serves auth (.update_peer peer_id body)) := by
  unfold update_peer
  split
  · trivial
  next hauth =>
    refine Task.Uses.perform_bind trivial fun existing => ?_
    cases existing with
    | none => trivial
    | some existing =>
      refine Task.Uses.perform_bind trivial fun now => ?_
      refine Task.Uses.perform_bind ⟨not_not.mp hauth, rfl, rfl⟩ fun registered => ?_
      cases registered <;> trivial

private theorem unregister_peer_uses (auth : AuthenticatedPeer) (peer_id : String) :
    (unregister_peer auth peer_id).Uses (Serves auth (.unregister_peer peer_id)) := by
  unfold unregister_peer
  split
  · trivial
  next hauth =>
    refine Task.Uses.perform_bind ⟨not_not.mp hauth, rfl⟩ fun removed => ?_
    cases removed <;> trivial

private theorem issue_proxy_token_uses (state : AppState) (auth : AuthenticatedPeer)
    (peer_id target_peer_id : String) : (issue_proxy_token state peer_id target_peer_id).Uses
      (Serves auth (.issue_proxy_token peer_id target_peer_id)) := by
  refine Task.Uses.perform_bind trivial fun caller => ?_
  cases caller with
  | none => trivial
  | some _ =>
    refine Task.Uses.perform_bind trivial fun target => ?_
    cases target with
    | none => trivial
    | some _ => exact Task.Uses.perform_bind trivial fun now => trivial

/-- A REST handler changes the registry only in the name of its path and identity. -/
theorem handle_uses (state : AppState) (auth : AuthenticatedPeer) (endpoint : Endpoint) :
    (handle state auth endpoint).Uses (Serves auth endpoint) := by
  cases endpoint with
  | register_peer body => exact register_peer_uses state auth body
  | update_peer peer_id body => exact update_peer_uses auth peer_id body
  | unregister_peer peer_id => exact unregister_peer_uses auth peer_id
  | get_peer _ | get_peer_status _ | lookup_peer _ =>
    refine Task.Uses.perform_bind trivial fun found => ?_
    cases found <;> trivial
  | get_proxies | dht_bootstrap => exact Task.Uses.perform_bind trivial fun _ => trivial
  | issue_proxy_token peer_id target_peer_id =>
    exact issue_proxy_token_uses state auth peer_id target_peer_id

/-- A REST handler does not touch calls. -/
theorem Serves.not_changes_call {auth : AuthenticatedPeer} {endpoint : Endpoint} {op : Op}
    (hserves : Serves auth endpoint (.state op)) {inner : InnerState} {c : String}
    {entry : Option CallEntry} : ¬ op.ChangesCall inner c entry := by
  intro hop
  cases hop <;> cases endpoint <;> exact hserves

/-- A REST handler points no registry entry at a session. -/
theorem Serves.sender_eq_none {auth : AuthenticatedPeer} {endpoint : Endpoint} {info : PeerInfo}
    {sender : Option SessionSender}
    (hserves : Serves auth endpoint (.state (.register_peer info sender))) : sender = none := by
  cases endpoint with
  | register_peer body => exact hserves.2
  | update_peer peer_id body => exact hserves.2.2
  | _ => exact hserves.elim

end voip_signaling.handlers

namespace voip_signaling.server

open async state session auth handlers

variable {state : AppState} {sys next : System} {event : Event}

/-- The actions that a session's task keeps to in each role. -/
def Role.Keeps (state : AppState) : Role → session.Action → Prop
  | .handling s framed => Handles s (client_message state framed)
  | .closing s | .finishing s => Cleans s

/-- Every running task keeps to its actions, a REST handler runs with an identity that
the middleware granted, and only sessions that were opened with a verified token have
tasks. -/
structure Disciplined (state : AppState) (sys : System) : Prop where
  keeps : ∀ {role task}, sys.Runs role task → task.Uses (role.Keeps state)
  serves : ∀ {r pending}, sys.requests r = some pending →
    pending.task.Uses (Serves pending.auth pending.endpoint)
  granted : ∀ {r pending}, sys.requests r = some pending →
    ∃ now, auth_middleware state now pending.endpoint.path pending.endpoint.method
      pending.authorization = .ok pending.auth
  opened : ∀ {s}, sys.receive s ≠ .ended ∨ sys.forward s ≠ .ended →
    ∃ session, sys.server.sessions s = some session
  verified : ∀ {s session}, sys.server.sessions s = some session →
    ∃ credential, sys.credentials s = some credential ∧ credential.Verified state session.peer_id

theorem Disciplined.init (rate_limits : rate_limit.RateLimitConfig) :
    Disciplined state (System.init rate_limits state) where
  keeps {role} := by cases role <;> simp [System.init, System.Runs]
  serves := by simp [System.init]
  granted := by simp [System.init]
  opened := by simp [System.init]
  verified := by simp [System.init]

theorem starts_uses {role : Role} {task : Async Unit} (hstart : Starts state sys event role task) :
    task.Uses (role.Keeps state) := by
  cases hstart with
  | message hidle hdecoded => exact receive_message_uses state _ _
  | close hidle => exact cleanup_uses _
  | write_fails hwriting => exact cleanup_uses _
  | drained _ _ => exact cleanup_uses _

private theorem keeps_step (hsys : Disciplined state sys) (hmove : Move state sys event next)
    {role : Role} {task : Async Unit} (hruns : next.Runs role task) : task.Uses (role.Keeps state) :=
  hmove.preserves (T := fun role task _ => task.Uses (role.Keeps state))
    (fun hstart _ => starts_uses hstart) (fun _ hrunning _ _ => (hsys.keeps hrunning).2 _)
    (fun hrunning _ => hsys.keeps hrunning) hruns

private theorem requests_step (hsys : Disciplined state sys) (hstep : step state sys event = some next)
    {r : Nat} {pending : Pending} (hpending : next.requests r = some pending) :
    pending.task.Uses (Serves pending.auth pending.endpoint) ∧
      ∃ now, auth_middleware state now pending.endpoint.path pending.endpoint.method
        pending.authorization = .ok pending.auth := by
  obtain hbefore | ⟨-, -, hpassed, htask⟩ | ⟨action, resume, answer, -, hrunning, -, htask⟩ :=
    requests_of_step hstep hpending
  · exact ⟨hsys.serves hbefore, hsys.granted hbefore⟩
  · rw [htask]
    exact ⟨handle_uses state pending.auth pending.endpoint, _, hpassed⟩
  · obtain ⟨now, hgranted⟩ := hsys.granted hrunning
    rw [htask]
    exact ⟨(hsys.serves hrunning).2 answer, now, hgranted⟩

theorem exec_opened {actor : Actor} {action : session.Action} {server after : Server}
    {answer : action.Answer} (hexec : exec actor action server = some (answer, after)) {s : SessionId}
    (hopened : ∃ session, server.sessions s = some session) :
    ∃ session, after.sessions s = some session := by
  obtain ⟨session, hsession⟩ := hopened
  exact ⟨_, by rw [exec_sessions hexec, hsession]; rfl⟩

private theorem of_update_receive {s s' : SessionId} {receive : Receive}
    (hrunning : sys.receive s ≠ .ended) (hnext : Function.update sys.receive s receive s' ≠ .ended ∨
      sys.forward s' ≠ .ended) : sys.receive s' ≠ .ended ∨ sys.forward s' ≠ .ended := by
  by_cases hs : s' = s
  · subst hs
    exact .inl hrunning
  · simpa [hs] using hnext

private theorem of_update_forward {s s' : SessionId} {forward : Forward}
    (hrunning : sys.forward s ≠ .ended) (hnext : sys.receive s' ≠ .ended ∨
      Function.update sys.forward s forward s' ≠ .ended) :
    sys.receive s' ≠ .ended ∨ sys.forward s' ≠ .ended := by
  by_cases hs : s' = s
  · subst hs
    exact .inr hrunning
  · simpa [hs] using hnext

private theorem opened_step (hsys : Disciplined state sys) (hstep : step state sys event = some next)
    {s : SessionId} (hnext : next.receive s ≠ .ended ∨ next.forward s ≠ .ended) :
    ∃ session, next.server.sessions s = some session := by
  cases step_taken hstep with
  | quiet hagrees hreceive _ hlive _ =>
    rw [hagrees.sessions]
    rw [hreceive] at hnext
    exact hsys.opened (hnext.imp_right (hlive s))
  | @upgrade s' token claims hfresh hverified =>
    by_cases hs : s = s'
    · subst hs
      exact ⟨_, Function.update_self ..⟩
    · obtain ⟨session, hsession⟩ := hsys.opened (by simpa [System.open_session, hs] using hnext)
      exact ⟨session, by simpa [System.open_session, Server.set_session, Server.set_channel, hs]⟩
  | message hidle hdecoded => exact hsys.opened (of_update_receive (by simp [hidle]) hnext)
  | close hidle => exact hsys.opened (of_update_receive (by simp [hidle]) hnext)
  | write_fails hwriting => exact hsys.opened (of_update_forward (by simp [hwriting]) hnext)
  | drained hreceiving _ _ _ => exact hsys.opened (of_update_forward (by simp [hreceiving]) hnext)
  | handling hrunning hdone =>
    exact exec_opened hdone (hsys.opened (of_update_receive (by simp [hrunning]) hnext))
  | closing hrunning hdone =>
    exact exec_opened hdone (hsys.opened (of_update_receive (by simp [hrunning]) hnext))
  | @finishing s' action resume answer server hrunning hdone =>
    obtain ⟨hreceive, -, hforward⟩ := System.finish_eq { sys with server } s' (resume answer)
    rw [(System.agrees_finish { sys with server } s' (resume answer)).sessions]
    rw [hreceive, hforward] at hnext
    exact exec_opened hdone (hsys.opened (of_update_forward (by simp [hrunning]) hnext))
  | request _ => exact hsys.opened hnext
  | handler hrunning hdone => exact exec_opened hdone (hsys.opened hnext)

private theorem verified_step (hsys : Disciplined state sys) (hstep : step state sys event = some next)
    {s : SessionId} {session : Session} (hsession : next.server.sessions s = some session) :
    ∃ credential, next.credentials s = some credential ∧ credential.Verified state session.peer_id := by
  have hexec {actor : Actor} {action : Action} {answer : action.Answer} {server : Server}
      (hdone : exec actor action sys.server = some (answer, server)) (hafter : server.sessions s = some session) :
      ∃ credential, sys.credentials s = some credential ∧ credential.Verified state session.peer_id := by
    rw [exec_sessions hdone] at hafter
    obtain ⟨before, hbefore, rfl⟩ := Option.map_eq_some_iff.mp hafter
    rw [Action.update_peer_id]
    exact hsys.verified hbefore
  cases step_taken hstep with
  | quiet hagrees _ _ _ _ hcredentials =>
    rw [hagrees.sessions] at hsession
    rw [hcredentials]
    exact hsys.verified hsession
  | @upgrade s' token claims hfresh hverified =>
    by_cases hs : s = s'
    · subst hs
      have hnew : Session.new claims.sub = session := by
        simpa [System.open_session, Server.set_session, Server.set_channel] using hsession
      exact ⟨_, Function.update_self .., claims, hverified, hnew ▸ rfl⟩
    · obtain ⟨credential, hcredential, hverified⟩ := hsys.verified (s := s)
        (by simpa [System.open_session, Server.set_session, Server.set_channel, hs] using hsession)
      exact ⟨credential, by simpa [System.open_session, hs] using hcredential, hverified⟩
  | message | close | write_fails | drained | request => exact hsys.verified hsession
  | handling _ hdone | closing _ hdone | handler _ hdone => exact hexec hdone hsession
  | @finishing s' action resume answer server hrunning hdone =>
    rw [(System.agrees_finish { sys with server } s' (resume answer)).sessions] at hsession
    rw [System.credentials_finish]
    exact hexec hdone hsession

/-- Every step keeps the discipline. -/
theorem Disciplined.step (hsys : Disciplined state sys) (hstep : step state sys event = some next) :
    Disciplined state next where
  keeps := keeps_step hsys (move_of_step hstep)
  serves hpending := (requests_step hsys hstep hpending).1
  granted hpending := (requests_step hsys hstep hpending).2
  opened := opened_step hsys hstep
  verified := verified_step hsys hstep

end voip_signaling.server
