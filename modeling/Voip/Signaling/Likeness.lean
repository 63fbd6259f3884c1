import Voip.Signaling.InName

namespace voip_signaling.session

open async state

/-- A session with the locks left out, and with everything left out if it is the peer's own. -/
def Session.masked (p : String) (session : Session) : Session :=
  if session.peer_id = p then Session.new p else { session with holder_lock := none }

section Masked

variable {p : String} {session other : Session}

theorem Session.masked_of_eq (hpeer : session.peer_id = p) : session.masked p = Session.new p := if_pos hpeer

theorem Session.masked_of_ne (hpeer : session.peer_id ≠ p) :
    session.masked p = { session with holder_lock := none } := if_neg hpeer

@[simp] theorem Session.masked_peer_id : (session.masked p).peer_id = session.peer_id := by
  by_cases hpeer : session.peer_id = p
  · rw [masked_of_eq hpeer, hpeer]
    rfl
  · rw [masked_of_ne hpeer]

theorem Session.eq_of_masked (hmasked : other.masked p = session.masked p) :
    other.peer_id = session.peer_id ∧ (session.peer_id ≠ p →
      other.peer_id_holder = session.peer_id_holder ∧ other.disconnected = session.disconnected) := by
  have hpeer : other.peer_id = session.peer_id := by
    simpa using congrArg Session.peer_id hmasked
  refine ⟨hpeer, fun hne => ?_⟩
  rw [masked_of_ne hne, masked_of_ne (hpeer ▸ hne)] at hmasked
  exact ⟨(Session.mk.inj hmasked).2.1, (Session.mk.inj hmasked).2.2.2⟩

/-- What an action does to a session can be told from what is left of it. -/
theorem Session.masked_update (session : Session) (action : Action) (actor : Actor) (s : SessionId) :
    (action.update actor s session).masked p = (action.update actor s (session.masked p)).masked p := by
  by_cases hpeer : session.peer_id = p
  · rw [masked_of_eq (by simpa using hpeer), masked_of_eq (by simpa using hpeer)]
  · rw [masked_of_ne (by simpa using hpeer), masked_of_ne (by simpa using hpeer), masked_of_ne hpeer]
    cases action <;> simp only [Action.update] <;> split <;> rfl

end Masked

/-- Two server states that look alike to all peers but one: the other peers cannot tell them
apart by their limits, their entries and their sessions. -/
structure Server.Like (p : String) (server other : Server) : Prop where
  now_secs : other.now_secs = server.now_secs
  instant : other.instant = server.instant
  same : ∀ {q}, q ≠ p → InnerState.Same q server.inner other.inner
  sessions : ∀ s, (other.sessions s).map (Session.masked p) = (server.sessions s).map (Session.masked p)

namespace Server.Like

variable {p : String} {server other last : Server}

theorem refl (server : Server) : server.Like p server := ⟨rfl, rfl, fun _ => .refl _, fun _ => rfl⟩

theorem symm (hlike : server.Like p other) : other.Like p server :=
  ⟨hlike.now_secs.symm, hlike.instant.symm, fun hq => (hlike.same hq).symm,
    fun s => (hlike.sessions s).symm⟩

theorem trans (hfirst : server.Like p other) (hsecond : other.Like p last) : server.Like p last :=
  ⟨hsecond.now_secs.trans hfirst.now_secs, hsecond.instant.trans hfirst.instant,
    fun hq => (hfirst.same hq).trans (hsecond.same hq),
    fun s => (hsecond.sessions s).trans (hfirst.sessions s)⟩

/-- The sessions of one state are those of the other. -/
theorem exists_session (hlike : server.Like p other) {s : SessionId} {session : Session}
    (hsession : server.sessions s = some session) :
    ∃ session', other.sessions s = some session' ∧ session'.peer_id = session.peer_id ∧
      (session.peer_id ≠ p → session'.peer_id_holder = session.peer_id_holder ∧
        session'.disconnected = session.disconnected) := by
  have hmasked := hlike.sessions s
  rw [hsession, Option.map_some] at hmasked
  obtain ⟨session', hsession', heq⟩ := Option.map_eq_some_iff.mp hmasked
  exact ⟨session', hsession', Session.eq_of_masked heq⟩

end Server.Like

/-- Actions that leave everything alone that other peers could notice. -/
def Private (p : String) (server : Server) : Action → Prop
  | .write_holder s _ => ∀ session, server.sessions s = some session → session.peer_id = p
  | .claim_disconnect s => ∀ session, server.sessions s = some session →
    session.peer_id = p ∨ session.disconnected = true
  | .state op => op.incidental = true ∨ op.subject = some p
  | _ => True

/-- The action does not push an entry out of the full registry. -/
def Action.evicts_none (server : Server) : Action → Bool
  | .state op => op.evicts_none server.inner
  | _ => true

section Exec

variable {p q : String} {actor : Actor} {action : Action} {server other after after' : Server}
  {answer answer' : action.Answer}

theorem Incidental.private (haction : Incidental action) : Private p server action := by
  cases action with
  | write_holder _ _ | claim_disconnect _ => exact haction.elim
  | state op => exact .inl haction
  | _ => trivial

theorem InName.private {own : Option SessionId} (haction : InName own p action)
    (hown : ∀ s session, own = some s → server.sessions s = some session → session.peer_id = p) :
    Private p server action := by
  cases action with
  | write_holder s _ => exact fun session hsession => hown s session haction hsession
  | claim_disconnect s => exact fun session hsession => .inl (hown s session haction hsession)
  | state op => exact .inr haction
  | _ => trivial

theorem exec_now_secs (hexec : exec actor action server = some (answer, after)) :
    after.now_secs = server.now_secs := by
  cases action with
  | lock_holder s | read_holder s | write_holder s peer_id =>
    obtain ⟨session, -, -, -, rfl⟩ := Server.with_holder_eq_some hexec
    rfl
  | unlock_holder s | claim_disconnect s =>
    simp only [exec] at hexec
    split at hexec
    next => contradiction
    next =>
      cases hexec
      rfl
  | send s message =>
    obtain ⟨channels, rfl⟩ := Server.channel_send_eq_some hexec
    rfl
  | find_sender peer_id =>
    obtain ⟨-, -, rfl⟩ := exec_find_sender_eq_some.mp hexec
    rfl
  | send_holding_peers message =>
    obtain ⟨s, channels, -, rfl⟩ := exec_send_holding_peers_eq_some hexec
    rfl
  | now_secs =>
    cases hexec
    rfl
  | state op =>
    obtain ⟨-, -, rfl⟩ := exec_state_eq_some.mp hexec
    rfl

/-- A peer cannot tell that an action was performed whose critical section, if any, is not
about it. -/
theorem exec_same (hexec : exec actor action server = some (answer, after))
    (hroom : action.evicts_none server = true)
    (hop : ∀ op, action = .state op → op.incidental = true ∨ op.subject ≠ some q) :
    InnerState.Same q server.inner after.inner := by
  obtain ⟨-, ⟨op, rfl, hinner⟩ | ⟨-, hlimiter, -, hpeers⟩⟩ := exec_registries hexec
  · rw [hinner]
    exact Op.run_same (hop op rfl) hroom
  · exact ⟨by rw [hlimiter], fun kind => by rw [hlimiter], hpeers q⟩

private theorem Private.masked_update (hprivate : Private p server action) {s : SessionId}
    {session : Session} (hsession : server.sessions s = some session) :
    (action.update actor s session).masked p = session.masked p := by
  by_cases hpeer : session.peer_id = p
  · rw [Session.masked_of_eq (by simpa using hpeer), Session.masked_of_eq hpeer]
  rw [Session.masked_of_ne (by simpa using hpeer), Session.masked_of_ne hpeer]
  cases action with
  | write_holder s' peer_id =>
    have hs : s' ≠ s := by
      rintro rfl
      exact hpeer (hprivate session hsession)
    rw [Action.update, if_neg hs]
  | claim_disconnect s' =>
    simp only [Action.update]
    split
    next hs =>
      subst hs
      rw [(hprivate session hsession).resolve_left hpeer]
    next => rfl
  | lock_holder s' | unlock_holder s' =>
    simp only [Action.update]
    split <;> rfl
  | _ => rfl

/-- The other peers cannot tell that a private action was performed. -/
theorem Private.like (hprivate : Private p server action) (hroom : action.evicts_none server = true)
    (hexec : exec actor action server = some (answer, after)) : server.Like p after where
  now_secs := exec_now_secs hexec
  instant := (exec_registries hexec).1
  same {q} hq := by
    refine exec_same hexec hroom ?_
    rintro op rfl
    exact hprivate.imp_right fun hsubject h => hq (Option.some.inj (h.symm.trans hsubject))
  sessions s := by
    rw [exec_sessions hexec]
    cases hsession : server.sessions s with
    | none => rfl
    | some session => exact congrArg some (hprivate.masked_update hsession)

/-- An action in the name of another peer is answered by what that peer can tell. -/
theorem InName.answer_eq {own : Option SessionId} (haction : InName own q action) (hq : q ≠ p)
    (hown : ∀ s session, own = some s → server.sessions s = some session → session.peer_id ≠ p)
    (hlike : server.Like p other) (hroom : action.evicts_none server = true)
    (hroom' : action.evicts_none other = true)
    (hexec : exec actor action server = some (answer, after))
    (hexec' : exec actor action other = some (answer', after')) : answer' = answer := by
  cases action with
  | lock_holder s | read_holder s =>
    obtain ⟨session, hsession, -, rfl, -⟩ := Server.with_holder_eq_some hexec
    obtain ⟨session', hsession', -, rfl, -⟩ := Server.with_holder_eq_some hexec'
    obtain ⟨_, hother, -, hfields⟩ := hlike.exists_session hsession
    cases hsession'.symm.trans hother
    exact (hfields (hown s session haction hsession)).1
  | unlock_holder s | write_holder s peer_id => rfl
  | claim_disconnect s =>
    simp only [exec] at hexec hexec'
    split at hexec
    next => contradiction
    next session hsession =>
      obtain ⟨session', hother, -, hfields⟩ := hlike.exists_session hsession
      rw [hother] at hexec'
      cases hexec
      cases hexec'
      rw [(hfields (hown s session haction hsession)).2]
  | now_secs =>
    cases hexec
    cases hexec'
    exact hlike.now_secs
  | state op =>
    obtain ⟨-, rfl, -⟩ := exec_state_eq_some.mp hexec
    obtain ⟨-, rfl, -⟩ := exec_state_eq_some.mp hexec'
    rw [hlike.instant]
    exact (Op.run_congr haction (hlike.same hq) hroom hroom').1
  | _ => exact haction.elim

/-- An action in the name of another peer changes what the others can tell in the same way. -/
theorem InName.like {own : Option SessionId} (haction : InName own q action)
    (hlike : server.Like p other) (hroom : action.evicts_none server = true)
    (hroom' : action.evicts_none other = true)
    (hexec : exec actor action server = some (answer, after))
    (hexec' : exec actor action other = some (answer', after')) : after.Like p after' where
  now_secs := by rw [exec_now_secs hexec, exec_now_secs hexec', hlike.now_secs]
  instant := by rw [(exec_registries hexec).1, (exec_registries hexec').1, hlike.instant]
  same {q'} hq' := by
    by_cases hop : ∃ op, action = .state op ∧ op.subject = some q'
    · obtain ⟨op, rfl, hsubject⟩ := hop
      obtain ⟨-, -, rfl⟩ := exec_state_eq_some.mp hexec
      obtain ⟨-, -, rfl⟩ := exec_state_eq_some.mp hexec'
      rw [hlike.instant]
      exact (Op.run_congr hsubject (hlike.same hq') hroom hroom').2
    · have hother (op : Op) (heq : action = .state op) : op.incidental = true ∨ op.subject ≠ some q' :=
        .inr fun hsubject => hop ⟨op, heq, hsubject⟩
      exact (exec_same hexec hroom hother).symm.trans
        ((hlike.same hq').trans (exec_same hexec' hroom' hother))
  sessions s := by
    have hmasked (session : Session) := session.masked_update (p := p) action actor s
    rw [exec_sessions hexec, exec_sessions hexec', Option.map_map, Option.map_map]
    rw [show Session.masked p ∘ action.update actor s =
      (fun session => (action.update actor s session).masked p) ∘ Session.masked p from funext hmasked]
    rw [← Option.map_map, ← Option.map_map, hlike.sessions]

end Exec

end voip_signaling.session
