import Voip.Signaling.Effects

namespace voip_signaling.session

open state lru

/-- What an action does to what the tasks of a session share. -/
def Action.update (action : Action) (actor : Actor) (s : SessionId) (session : Session) : Session :=
  match action with
  | .lock_holder s' => if s' = s then { session with holder_lock := some actor } else session
  | .unlock_holder s' => if s' = s then { session with holder_lock := none } else session
  | .write_holder s' peer_id => if s' = s then { session with peer_id_holder := peer_id } else session
  | .claim_disconnect s' => if s' = s then { session with disconnected := true } else session
  | _ => session

section Update

variable (action : Action) (actor : Actor) (s : SessionId) (session : Session)

@[simp] theorem Action.update_peer_id : (action.update actor s session).peer_id = session.peer_id := by
  cases action <;> simp only [Action.update] <;> split <;> rfl

/-- The holder of a session changes only by an assignment to it. -/
theorem Action.update_holder :
    (action.update actor s session).peer_id_holder = session.peer_id_holder ∨
      ∃ peer_id, action = .write_holder s peer_id ∧
        (action.update actor s session).peer_id_holder = peer_id := by
  cases action with
  | write_holder s' peer_id =>
    simp only [Action.update]
    split
    next hs =>
      subst hs
      exact .inr ⟨peer_id, rfl, rfl⟩
    next => exact .inl rfl
  | lock_holder s' | unlock_holder s' | claim_disconnect s' =>
    simp only [Action.update]
    split <;> exact .inl rfl
  | _ => exact .inl rfl

/-- The flag of a session is raised by a claim, and never lowered. -/
theorem Action.update_disconnected :
    (action.update actor s session).disconnected = session.disconnected ∨
      action = .claim_disconnect s ∧ (action.update actor s session).disconnected = true := by
  cases action with
  | claim_disconnect s' =>
    simp only [Action.update]
    split
    next hs =>
      subst hs
      exact .inr ⟨rfl, rfl⟩
    next => exact .inl rfl
  | lock_holder s' | unlock_holder s' | write_holder s' peer_id =>
    simp only [Action.update]
    split <;> exact .inl rfl
  | _ => exact .inl rfl

end Update

section Channel

variable {server after : Server} {s : SessionId} {message : FramedMessage} {sent : Bool}

/-- Sending changes nothing but the channel. -/
theorem Server.channel_send_eq_some (hsend : server.channel_send s message = some (sent, after)) :
    ∃ channels, after = { server with channels } := by
  unfold Server.channel_send at hsend
  dsimp only at hsend
  split at hsend
  next =>
    cases hsend
    exact ⟨server.channels, rfl⟩
  next =>
    split at hsend
    next =>
      cases hsend
      exact ⟨_, rfl⟩
    next => contradiction

end Channel

section Holder

variable {server after : Server} {α : Type} {answer : α} {s : SessionId} {f : Session → α × Session}

theorem Server.with_holder_eq_some (hwith : server.with_holder s f = some (answer, after)) :
    ∃ session, server.sessions s = some session ∧ session.holder_lock = none ∧
      answer = (f session).1 ∧ after = server.set_session s (f session).2 := by
  unfold Server.with_holder at hwith
  split at hwith
  next => contradiction
  next session hsession =>
    split at hwith
    next hlock =>
      cases hwith
      exact ⟨session, hsession, hlock, rfl, rfl⟩
    next => contradiction

theorem Server.set_session_update {action : Action} {actor : Actor} {session result : Session}
    (hsession : server.sessions s = some session) (hresult : action.update actor s session = result)
    (hother : ∀ s' session, s' ≠ s → action.update actor s' session = session) (s' : SessionId) :
    (server.set_session s result).sessions s' = (server.sessions s').map (action.update actor s') := by
  by_cases hs : s' = s
  · subst hs
    simp [Server.set_session, hsession, hresult]
  · have hid : action.update actor s' = id := funext fun session => hother s' session hs
    simp [Server.set_session, hs, hid]

end Holder

section Exec

variable {actor : Actor} {action : Action} {server after : Server} {answer : action.Answer}

theorem exec_state_eq_some {op : Op} {answer : op.Answer} :
    exec actor (.state op) server = some (answer, after) ↔
      (op.locks_peers = true → server.peers_lock = none) ∧
        answer = (op.run server.instant server.inner).1 ∧
        after = { server with inner := (op.run server.instant server.inner).2 } := by
  simp only [exec]
  constructor
  · intro hexec
    split at hexec
    next => contradiction
    next hfree =>
      cases hexec
      exact ⟨fun hlocks => by simpa [hlocks] using hfree, rfl, rfl⟩
  · rintro ⟨hfree, rfl, rfl⟩
    rw [if_neg (by simpa using hfree)]

theorem exec_find_sender_eq_some {peer_id : String} {answer : Except error.SignalingError SessionId} :
    exec actor (.find_sender peer_id) server = some (answer, after) ↔
      server.peers_lock = none ∧ answer = (server.inner.find_sender peer_id).1 ∧
        after = { server with
          inner := (server.inner.find_sender peer_id).2
          peers_lock := answer.toOption.map fun s => (actor, s) } := by
  simp only [exec]
  constructor
  · intro hexec
    split at hexec
    next hfree =>
      cases hexec
      exact ⟨hfree, rfl, rfl⟩
    next => contradiction
  · rintro ⟨hfree, rfl, rfl⟩
    rw [if_pos hfree]

theorem exec_send_holding_peers_eq_some {message : FramedMessage} {sent : Bool}
    (hexec : exec actor (.send_holding_peers message) server = some (sent, after)) :
    ∃ s channels, server.peers_lock = some (actor, s) ∧
      after = { server with channels, peers_lock := none } := by
  simp only [exec] at hexec
  split at hexec
  next => contradiction
  next holder s hlock =>
    split at hexec
    next hholder =>
      subst hholder
      obtain ⟨⟨sent', server'⟩, hsend, heq⟩ := Option.map_eq_some_iff.mp hexec
      obtain ⟨channels, rfl⟩ := Server.channel_send_eq_some hsend
      cases heq
      exact ⟨s, channels, hlock, rfl⟩
    next => contradiction

/-- Each action changes the sessions as `Action.update` says, and in no other way. -/
theorem exec_sessions (hexec : exec actor action server = some (answer, after)) (s : SessionId) :
    after.sessions s = (server.sessions s).map (action.update actor s) := by
  cases action with
  | lock_holder s' =>
    obtain ⟨session, hsession, -, -, rfl⟩ := Server.with_holder_eq_some hexec
    refine Server.set_session_update hsession ?_ (fun s session hs => ?_) s
    · exact if_pos rfl
    · exact if_neg (Ne.symm hs)
  | unlock_holder s' =>
    simp only [exec] at hexec
    split at hexec
    next => contradiction
    next session hsession =>
      cases hexec
      refine Server.set_session_update hsession ?_ (fun s session hs => ?_) s
      · exact if_pos rfl
      · exact if_neg (Ne.symm hs)
  | read_holder s' =>
    obtain ⟨session, hsession, -, -, rfl⟩ := Server.with_holder_eq_some hexec
    refine Server.set_session_update hsession ?_ (fun s session hs => ?_) s
    · rfl
    · rfl
  | write_holder s' peer_id =>
    obtain ⟨session, hsession, -, -, rfl⟩ := Server.with_holder_eq_some hexec
    refine Server.set_session_update hsession ?_ (fun s session hs => ?_) s
    · exact if_pos rfl
    · exact if_neg (Ne.symm hs)
  | claim_disconnect s' =>
    simp only [exec] at hexec
    split at hexec
    next => contradiction
    next session hsession =>
      cases hexec
      refine Server.set_session_update hsession ?_ (fun s session hs => ?_) s
      · exact if_pos rfl
      · exact if_neg (Ne.symm hs)
  | send s' message =>
    obtain ⟨channels, rfl⟩ := Server.channel_send_eq_some hexec
    exact Option.map_id'.symm
  | find_sender peer_id =>
    obtain ⟨-, -, rfl⟩ := exec_find_sender_eq_some.mp hexec
    exact Option.map_id'.symm
  | send_holding_peers message =>
    obtain ⟨s', channels, -, rfl⟩ := exec_send_holding_peers_eq_some hexec
    exact Option.map_id'.symm
  | now_secs =>
    cases hexec
    exact Option.map_id'.symm
  | state op =>
    obtain ⟨-, -, rfl⟩ := exec_state_eq_some.mp hexec
    exact Option.map_id'.symm

/-- An action that does not assign to the holder of a session leaves it as it is. -/
theorem exec_keeps_holder (hexec : exec actor action server = some (answer, after)) {s : SessionId}
    (hkeeps : ∀ assigned, action ≠ .write_holder s assigned) {session : Session}
    (hsession : server.sessions s = some session) :
    ∃ session', after.sessions s = some session' ∧ session'.peer_id = session.peer_id ∧
      session'.peer_id_holder = session.peer_id_holder := by
  refine ⟨action.update actor s session, ?_, Action.update_peer_id action actor s session, ?_⟩
  · rw [exec_sessions hexec, hsession]
    rfl
  · obtain hsame | ⟨assigned, hwrites, -⟩ := Action.update_holder action actor s session
    · exact hsame
    · exact absurd hwrites (hkeeps assigned)

private theorem find_sender_registries (inner : InnerState) (peer_id : String) :
    (inner.find_sender peer_id).2 = { inner with peers := (inner.peers.get peer_id).2 } := by
  unfold InnerState.find_sender
  dsimp only
  split
  · rfl
  · split <;> rfl

/-- Only critical sections on the shared state change the registries, the order of use
aside, and the rate limits. -/
theorem exec_registries (hexec : exec actor action server = some (answer, after)) :
    after.instant = server.instant ∧
      ((∃ op, action = .state op ∧ after.inner = (op.run server.instant server.inner).2) ∨
        (∀ op, action ≠ .state op) ∧ after.inner.rate_limiter = server.inner.rate_limiter ∧
          (∀ c, after.inner.calls.peek c = server.inner.calls.peek c) ∧
          ∀ p, after.inner.peers.peek p = server.inner.peers.peek p) := by
  cases action with
  | lock_holder s' | read_holder s' | write_holder s' peer_id =>
    obtain ⟨session, hsession, -, -, rfl⟩ := Server.with_holder_eq_some hexec
    exact ⟨rfl, .inr ⟨by simp, rfl, fun _ => rfl, fun _ => rfl⟩⟩
  | unlock_holder s' | claim_disconnect s' =>
    simp only [exec] at hexec
    split at hexec
    next => contradiction
    next session hsession =>
      cases hexec
      exact ⟨rfl, .inr ⟨by simp, rfl, fun _ => rfl, fun _ => rfl⟩⟩
  | send s' message =>
    obtain ⟨channels, rfl⟩ := Server.channel_send_eq_some hexec
    exact ⟨rfl, .inr ⟨by simp, rfl, fun _ => rfl, fun _ => rfl⟩⟩
  | find_sender peer_id =>
    obtain ⟨-, -, rfl⟩ := exec_find_sender_eq_some.mp hexec
    rw [find_sender_registries]
    exact ⟨rfl, .inr ⟨by simp, rfl, fun _ => rfl, fun p => LruCache.peek_get ..⟩⟩
  | send_holding_peers message =>
    obtain ⟨s', channels, -, rfl⟩ := exec_send_holding_peers_eq_some hexec
    exact ⟨rfl, .inr ⟨by simp, rfl, fun _ => rfl, fun _ => rfl⟩⟩
  | now_secs =>
    cases hexec
    exact ⟨rfl, .inr ⟨by simp, rfl, fun _ => rfl, fun _ => rfl⟩⟩
  | state op =>
    obtain ⟨-, -, rfl⟩ := exec_state_eq_some.mp hexec
    exact ⟨rfl, .inl ⟨op, rfl, rfl⟩⟩

/-- An action leaves the entry of a call as it is, or makes one of the listed changes. -/
theorem exec_calls (hexec : exec actor action server = some (answer, after)) (c : String) :
    after.inner.calls.peek c = server.inner.calls.peek c ∨
      ∃ op, action = .state op ∧ op.ChangesCall server.inner c (after.inner.calls.peek c) := by
  obtain ⟨-, ⟨op, rfl, hinner⟩ | ⟨-, -, hcalls, -⟩⟩ := exec_registries hexec
  · rw [hinner]
    obtain hsame | hchange := Op.run_calls op c
    · exact .inl hsame
    · exact .inr ⟨op, rfl, hchange⟩
  · exact .inl (hcalls c)

/-- An action leaves the entry of a peer as it is, or makes one of the listed changes. -/
theorem exec_peers (hexec : exec actor action server = some (answer, after)) (p : String) :
    after.inner.peers.peek p = server.inner.peers.peek p ∨
      ∃ op, action = .state op ∧ op.ChangesPeer server.inner p (after.inner.peers.peek p) := by
  obtain ⟨-, ⟨op, rfl, hinner⟩ | ⟨-, -, -, hpeers⟩⟩ := exec_registries hexec
  · rw [hinner]
    obtain hsame | hchange := Op.run_peers op p
    · exact .inl hsame
    · exact .inr ⟨op, rfl, hchange⟩
  · exact .inl (hpeers p)

end Exec

end voip_signaling.session
