import Voip.Signaling.Cleanup
import Voip.Signaling.Reference

namespace voip_signaling.server

open async state session auth handlers wire

variable {state : AppState} {sys next : System} {event : Event}

/-- A step changes the registry entry of a peer only through a session that was opened with a verified
token of that peer, or a `PUT` or `DELETE` request with such a token. Unauthenticated registrations and
evictions of the least recently used entry are left out. -/
def PeerAuthority (state : AppState) (sys : System) (event : Event) (next : System) : Prop :=
  ∀ p, next.server.inner.peers.peek p ≠ sys.server.inner.peers.peek p →
    (∃ s session, (event = .receive_loop s ∨ event = .forward_task s) ∧
      sys.server.sessions s = some session ∧ session.peer_id = p ∧
      ∃ credential, sys.credentials s = some credential ∧ credential.Verified state p) ∨
    (∃ r pending now, event = .handler r ∧ sys.requests r = some pending ∧
      Authenticated state now pending.authorization p) ∨
    (∃ r pending body, event = .handler r ∧ sys.requests r = some pending ∧
      pending.endpoint = .register_peer body) ∨
    (sys.server.inner.peers.Full ∧ sys.server.inner.peers.victim = some p ∧
      next.server.inner.peers.peek p = none)

/-- A cleanup disconnects only the peer of its session. -/
def DisconnectsOwn (s : SessionId) (phase : Phase) (server : Server) : Prop :=
  ∀ peer_id session, phase = .disconnecting peer_id → server.sessions s = some session →
    peer_id = session.peer_id

/-- The invariant behind the authority over registry entries. -/
structure OwnPeers (state : AppState) (sys : System) : Prop where
  disciplined : Disciplined state sys
  holder : OwnHolder state sys
  unregisters : ∀ {s framed task session}, sys.Runs (.handling s framed) task →
    sys.server.sessions s = some session →
    ∀ msg, client_message state framed = some (.PeerUnregister msg) → msg.peer_id = session.peer_id
  disconnects : InPhase DisconnectsOwn sys

theorem OwnPeers.init (rate_limits : rate_limit.RateLimitConfig) :
    OwnPeers state (System.init rate_limits state) where
  disciplined := .init rate_limits
  holder := .init rate_limits
  unregisters := by simp [System.init]
  disconnects := .init _ rate_limits

private theorem DisconnectsOwn.stable (hmove : Move state sys event next) {s : SessionId} {phase : Phase}
    (hopened : ∃ session, sys.server.sessions s = some session)
    (hphase : DisconnectsOwn s phase sys.server) : DisconnectsOwn s phase next.server := by
  intro peer_id after hdisconnecting hafter
  obtain ⟨before, hbefore⟩ := hopened
  obtain ⟨after', hafter', hpeer⟩ := hmove.peer_id hbefore
  obtain rfl : after' = after := by simpa [hafter'] using hafter
  rw [hpeer]
  exact hphase peer_id before hdisconnecting hbefore

private theorem disconnects_step (hsys : OwnPeers state sys) (hmove : Move state sys event next) :
    InPhase DisconnectsOwn next := by
  refine hsys.disconnects.step hsys.disciplined hmove ?_ ?_ ?_
  · intro s _ peer_id session hdisconnecting
    contradiction
  · intro role s before phase phase' action resume answer after _ hrunning hcleans _ hbefore hnext _ _
    refine DisconnectsOwn.stable hmove ⟨before, hbefore⟩ ?_
    intro peer_id session hdisconnecting hsession
    obtain rfl : before = session := by simpa [hbefore] using hsession
    cases hnext with
    | locked hholder =>
      cases hdisconnecting
      obtain hnone | hown := hsys.holder.holder hbefore
      · simp [hholder] at hnone
      · simpa [hholder] using hown
    | _ => contradiction
  · intro role s phase hrunning hcleans hphase _
    exact DisconnectsOwn.stable hmove (cleans_opened hsys.disciplined hrunning hcleans) hphase

theorem OwnPeers.step (hsys : OwnPeers state sys) (hregisters : registers_own state sys event = true)
    (hunregisters : unregisters_own state sys event = true) (hstep : step state sys event = some next) :
    OwnPeers state next where
  disciplined := hsys.disciplined.step hstep
  holder := .step hsys.disciplined hsys.holder hregisters (move_of_step hstep)
  unregisters hruns hsession := by
    refine (move_of_step hstep).handling_fact hsys.disciplined (fun framed peer_id => ∀ msg,
      client_message state framed = some (.PeerUnregister msg) → msg.peer_id = peer_id)
      hsys.unregisters ?_ hruns hsession
    rintro s data framed session rfl hdecoded hsession msg hmsg
    simpa [unregisters_own, Event.arrival_message hdecoded hmsg hsession] using hunregisters
  disconnects := disconnects_step hsys (move_of_step hstep)

/-- The peer that a cleanup is about to disconnect is that of its session. -/
theorem OwnPeers.disconnects_own (hsys : OwnPeers state sys) {role : Role} {peer_id : String}
    {resume : (Op.disconnect_peer peer_id).Answer → Async Unit}
    (hrunning : sys.Runs role (.act (.state (.disconnect_peer peer_id)) resume)) {s : SessionId}
    (hcleans : role.cleans = some s) {session : Session}
    (hsession : sys.server.sessions s = some session) : peer_id = session.peer_id := by
  obtain ⟨phase, htask, hphase⟩ := hsys.disconnects _ _ s hrunning hcleans
  cases phase with
  | disconnecting peer_id' =>
    cases htask
    exact hphase peer_id session rfl hsession
  | _ => cases htask

/-- What a session writes to the registry of peers is about the peer of its token. -/
private theorem session_names_own (hsys : OwnPeers state sys) {role : Role} {op : Op}
    {resume : op.Answer → Async Unit} (hrunning : sys.Runs role (.act (.state op) resume)) {p : String}
    (hnames : op.names = some p) :
    ∃ s session, (role.event = .receive_loop s ∨ role.event = .forward_task s) ∧
      sys.server.sessions s = some session ∧ session.peer_id = p := by
  have hkeeps := (hsys.disciplined.keeps hrunning).1
  cases hcleans : role.cleans with
  | some s =>
    obtain ⟨session, hsession⟩ := cleans_opened hsys.disciplined hrunning hcleans
    refine ⟨s, session, ?_, hsession, ?_⟩
    · cases role <;> cases hcleans
      · exact .inl rfl
      · exact .inr rfl
    · obtain ⟨peer_id, rfl⟩ : ∃ peer_id, op = .disconnect_peer peer_id := by
        cases role with
        | handling s' framed => contradiction
        | closing s' | finishing s' =>
          cases op with
          | disconnect_peer peer_id => exact ⟨peer_id, rfl⟩
          | _ => exact hkeeps.elim
      cases hnames
      exact (hsys.disconnects_own hrunning hcleans hsession).symm
  | none =>
    cases role with
    | handling s framed =>
      obtain ⟨session, hsession⟩ := hsys.disciplined.opened (s := s)
        (.inl (by simp [show sys.receive s = .handling framed _ from hrunning]))
      refine ⟨s, session, .inl rfl, hsession, ?_⟩
      obtain hreads | ⟨msg, hmsg, ⟨assigned, heq, -⟩ | ⟨written, heq, hwrites⟩⟩ := hkeeps
      · cases op <;> first | exact hreads.elim | cases hnames
      · contradiction
      · cases heq
        cases op with
        | register_peer info sender =>
          cases hnames
          cases msg with
          | PeerRegister msg =>
            rw [hwrites.1]
            exact (hsys.holder.registers hrunning hsession msg hmsg).symm
          | _ => exact hwrites.elim
        | unregister_peer peer_id =>
          cases hnames
          cases msg with
          | PeerUnregister msg =>
            rw [show p = msg.peer_id from hwrites]
            exact (hsys.unregisters hrunning hsession msg hmsg).symm
          | _ => exact hwrites.elim
        | disconnect_peer peer_id => cases msg <;> exact hwrites.elim
        | _ => cases hnames
    | closing s => contradiction
    | finishing s => contradiction

private theorem protected_of_method {endpoint : Endpoint}
    (hmethod : endpoint.method = .PUT ∨ endpoint.method = .DELETE) :
    is_public_path endpoint.path endpoint.method = false := by
  obtain hmethod | hmethod := hmethod <;> simp [is_public_path, hmethod]

/-- What a REST handler writes to the registry of peers is about the subject of its
token, unless it is the handler of registrations. -/
private theorem request_names_own (hsys : OwnPeers state sys) {r : Nat} {pending : Pending} {op : Op}
    {resume : op.Answer → Async Outcome} (hrunning : sys.requests r = some pending)
    (htask : pending.task = .act (.state op) resume) {p : String} (hnames : op.names = some p) :
    (∃ now, Authenticated state now pending.authorization p) ∨
      ∃ body, pending.endpoint = .register_peer body := by
  have hserves := hsys.disciplined.serves hrunning
  rw [htask] at hserves
  replace hserves := hserves.1
  obtain ⟨now, hgranted⟩ := hsys.disciplined.granted hrunning
  cases hendpoint : pending.endpoint with
  | register_peer body => exact .inr ⟨body, rfl⟩
  | update_peer peer_id body =>
    rw [hendpoint] at hserves hgranted
    have hauth := (auth_middleware_eq_ok (protected_of_method (.inl rfl))).mp hgranted
    cases op with
    | register_peer info sender =>
      cases hnames
      obtain ⟨hself, hid, -⟩ := hserves
      exact .inl ⟨now, by rwa [hid, ← hself]⟩
    | unregister_peer _ | disconnect_peer _ => exact hserves.elim
    | _ => cases hnames
  | unregister_peer peer_id =>
    rw [hendpoint] at hserves hgranted
    have hauth := (auth_middleware_eq_ok (protected_of_method (.inr rfl))).mp hgranted
    cases op with
    | unregister_peer removed =>
      cases hnames
      obtain ⟨hself, hid⟩ := hserves
      exact .inl ⟨now, by rwa [hid, ← hself]⟩
    | register_peer _ _ | disconnect_peer _ => exact hserves.elim
    | _ => cases hnames
  | _ =>
    rw [hendpoint] at hserves
    cases op <;> first | exact hserves.elim | cases hnames

theorem OwnPeers.authority (hsys : OwnPeers state sys) (hmove : Move state sys event next) :
    PeerAuthority state sys event next := by
  intro p hchange
  obtain ⟨op, hop, hactor⟩ := hmove.peer_change hchange
  obtain hnames | hevicts := hop.names_or_evicts
  · obtain ⟨role, resume, rfl, hrunning⟩ | ⟨r, pending, resume, rfl, hrunning, htask⟩ := hactor
    · obtain ⟨s, session, hlabel, hsession, hpeer⟩ := session_names_own hsys hrunning hnames
      exact .inl ⟨s, session, hlabel, hsession, hpeer, hpeer ▸ hsys.disciplined.verified hsession⟩
    · obtain ⟨now, hauth⟩ | ⟨body, hbody⟩ := request_names_own hsys hrunning htask hnames
      · exact .inr (.inl ⟨r, pending, now, rfl, hrunning, hauth⟩)
      · exact .inr (.inr (.inl ⟨r, pending, body, rfl, hrunning, hbody⟩))
  · exact .inr (.inr (.inr hevicts))

/-- In every run in which sessions register and unregister only the peer of their token,
registry entries change only with the authority of their peer. -/
theorem peer_authority_of_own_registrations (state : AppState) (rate_limits : rate_limit.RateLimitConfig)
    (events : List Event)
    (hown : Along (step state) (fun sys event _ => registers_own state sys event ∧
      unregisters_own state sys event) (System.init rate_limits state) events) :
    Along (step state) (PeerAuthority state) (System.init rate_limits state) events := by
  refine Along.of_invariant (I := OwnPeers state) ?_ (.init rate_limits) hown
  intro sys event next hsys hcond hstep
  exact ⟨hsys.authority (move_of_step hstep), hsys.step hcond.1 hcond.2 hstep⟩

/-- The condition of the theorem is met when alice and bob register themselves, bob
unregisters and alice's connection closes. -/
theorem peer_authority_of_alice_and_bob :
    Along (step .reference) (PeerAuthority .reference) (System.init .default .reference)
      (alice_and_bob_connect ++ (exchange 1 type_id.PEER_REGISTER (proto.string 1 "alice") 6 ++
        exchange 2 type_id.PEER_REGISTER (proto.string 1 "bob") 6 ++
        exchange 2 type_id.PEER_UNREGISTER (proto.string 1 "bob") 4 ++
        .close 1 :: List.replicate 4 (.receive_loop 1))) := by
  apply peer_authority_of_own_registrations
  apply along_alice_and_bob_connect
  · intro sys s token next
    exact ⟨rfl, rfl⟩
  · decide +kernel

/-- Bob, on their own session, registers as alice, whose entry then leads to the session of bob. -/
theorem not_peer_authority_of_foreign_registration :
    ¬ Along (step .reference) (PeerAuthority .reference) (System.init .default .reference)
      ((alice_and_bob_connect ++ (exchange 1 type_id.PEER_REGISTER (proto.string 1 "alice") 6 ++
        exchange 2 type_id.PEER_REGISTER (proto.string 1 "alice") 5)) ++ [.receive_loop 2]) := by
  refine not_along_alice_and_bob (fun middle next =>
    (middle.server.sessions 2).map Session.peer_id = some "bob" ∧
      (middle.server.inner.peers.peek "alice").map PeerEntry.sender = some (some 1) ∧
      (next.server.inner.peers.peek "alice").map PeerEntry.sender = some (some 2)) ?_ ?_
  · intro middle next hseen hauthority
    obtain ⟨hbob, hbefore, hafter⟩ := of_decide_eq_true hseen
    have hchange : next.server.inner.peers.peek "alice" ≠ middle.server.inner.peers.peek "alice" := by
      intro hsame
      simp [hsame, hbefore] at hafter
    obtain ⟨s, session, hevent, hsession, hpeer, -⟩ | ⟨r, pending, now, hevent, -⟩ |
      ⟨r, pending, body, hevent, -⟩ | ⟨-, -, hnone⟩ := hauthority "alice" hchange
    · obtain rfl : s = 2 := by simpa [eq_comm] using hevent
      simp [hsession, hpeer] at hbob
    · contradiction
    · contradiction
    · simp [hnone] at hafter
  · decide +kernel

end voip_signaling.server
