import Voip.Signaling.Continuation
import Voip.Signaling.Registered

namespace voip_signaling.state

/-- What the end of a session makes of an entry: a peer that was reached through the
session is offline. -/
def PeerEntry.torn_down (s : SessionSender) (entry : PeerEntry) : PeerEntry :=
  if entry.sender = some s then entry.offline else entry

end voip_signaling.state

namespace voip_signaling.session

open async state

/-- The phases of a cleanup that has claimed the end of its session and not yet
disconnected its peer. -/
def Phase.Pending : Phase → Prop
  | .claimed | .disconnecting _ => True
  | _ => False

theorem Disconnected.exec {s : SessionId} {server after : Server} {actor : Actor} {action : Action}
    {answer : action.Answer} (hdisconnected : Disconnected s server)
    (hexec : exec actor action server = some (answer, after)) : Disconnected s after := by
  obtain ⟨session, hsession, hflag⟩ := hdisconnected
  refine ⟨action.update actor s session, by rw [exec_sessions hexec, hsession]; rfl, ?_⟩
  obtain hsame | ⟨-, htrue⟩ := Action.update_disconnected action actor s session
  · rw [hsame, hflag]
  · exact htrue

theorem exec_claim_disconnect {s : SessionId} {server after : Server} {actor : Actor} {won : Bool}
    (hexec : exec actor (.claim_disconnect s) server = some (won, after)) : Disconnected s after := by
  simp only [exec] at hexec
  split at hexec
  next => contradiction
  next session hsession =>
    cases hexec
    exact ⟨{ session with disconnected := true }, Function.update_self .., rfl⟩

end voip_signaling.session

namespace voip_signaling.server

open async state session handlers wire

variable {state : AppState} {sys next : System} {event : Event}

namespace System

variable (sys : System)

/-- The session that an event helps to tear down. -/
def tears_down : Event → Option SessionId
  | .receive_loop s =>
    match sys.receive s with
    | .closing _ => some s
    | _ => none
  | .forward_task s =>
    match sys.forward s with
    | .finishing _ => some s
    | _ => none
  | _ => none

/-- The peer that an event is about to disconnect, and the session that ends. -/
def disconnects : Event → Option (SessionId × String)
  | .receive_loop s =>
    match sys.receive s with
    | .closing (.act (.state (.disconnect_peer p)) _) => some (s, p)
    | _ => none
  | .forward_task s =>
    match sys.forward s with
    | .finishing (.act (.state (.disconnect_peer p)) _) => some (s, p)
    | _ => none
  | _ => none

/-- The session that an event is about to enter in the registry. -/
def registers : Event → Option Session
  | .receive_loop s =>
    match sys.receive s with
    | .handling _ (.act (.state (.register_peer _ (some _))) _) => sys.server.sessions s
    | _ => none
  | _ => none

/-- The receive loop of a session has returned, and no cleanup of the session is running. -/
def Ended (s : SessionId) : Prop := sys.receive s = .ended ∧ ∀ task, sys.forward s ≠ .finishing task

/-- A cleanup of the session is on its way to disconnect the session's peer. -/
def Tearing (s : SessionId) : Prop :=
  ∃ (role : Role) (phase : Phase), role.cleans = some s ∧ sys.Runs role (phase.task s) ∧ phase.Pending

end System

/-- A step of a session's teardown leaves the registry alone, or takes offline exactly
the entries that lead to the session; and no entry leads to a session that has ended. -/
structure Teardown (sys : System) (event : Event) (next : System) : Prop where
  exactly : ∀ s, sys.tears_down event = some s →
    (∀ p, next.server.inner.peers.peek p = sys.server.inner.peers.peek p) ∨
      ∀ p, next.server.inner.peers.peek p = (sys.server.inner.peers.peek p).map (PeerEntry.torn_down s)
  gone : ∀ s p entry, next.Ended s → next.server.inner.peers.peek p = some entry → entry.sender ≠ some s

/-- A session enters itself in the registry only while it has not been disconnected. -/
def registers_connected (sys : System) (event : Event) : Bool :=
  (sys.registers event).all fun session => !session.disconnected

/-- The peer that a session disconnects at its end has no entry, or one that leads to the
session, or one that is offline already. -/
def disconnects_own_entry (sys : System) (event : Event) : Bool :=
  match sys.disconnects event with
  | some (s, p) => (sys.server.inner.peers.peek p).all fun entry =>
      entry.sender = some s ∨ entry.sender = none ∧ entry.info.status = 1
  | none => true

/-- The invariant behind exact teardown. -/
structure TornDown (state : AppState) (sys : System) : Prop where
  registered : Registered state sys
  flagged : InPhase (fun s phase server => phase = .claiming ∨ Disconnected s server) sys
  ended : ∀ {s session}, sys.server.sessions s = some session → sys.receive s = .ended →
    session.disconnected = true
  torn : ∀ {s}, Disconnected s sys.server → NoEntry s sys.server ∨ sys.Tearing s

theorem TornDown.init (rate_limits : rate_limit.RateLimitConfig) :
    TornDown state (System.init rate_limits state) where
  registered := .init rate_limits
  flagged := .init _ rate_limits
  ended := by simp [System.init]
  torn := by simp [System.init, Disconnected]

private theorem disconnected_step (hmove : Move state sys event next) {s : SessionId}
    (hbefore : Disconnected s sys.server) : Disconnected s next.server := by
  cases hmove with
  | started hagrees _ => simpa only [Disconnected, hagrees.sessions] using hbefore
  | @opened s' token peer_id _ hfresh hserver _ =>
    obtain ⟨session, hsession, hflag⟩ := hbefore
    have hs : s ≠ s' := by
      rintro rfl
      simp [hfresh] at hsession
    refine ⟨session, ?_, hflag⟩
    simpa [hserver, System.open_session, Server.set_session, Server.set_channel, hs] using hsession
  | acted role _ _ hdone hagrees _ =>
    simpa only [Disconnected, hagrees.sessions] using hbefore.exec hdone
  | served _ _ _ hdone _ => exact hbefore.exec hdone

/-- The only way to be newly disconnected is to be claimed by a cleanup. -/
private theorem claims_of_disconnected (hsys : Disciplined state sys) (hmove : Move state sys event next)
    {s : SessionId} (hconnected : ¬ Disconnected s sys.server) (hafter : Disconnected s next.server) :
    ∃ role resume answer after, role.cleans = some s ∧ sys.Runs role (.act (.claim_disconnect s) resume) ∧
      exec role.actor (.claim_disconnect s) sys.server = some (answer, after) ∧
      ∀ task, next.Runs role task → task = resume answer := by
  obtain ⟨session, hsession, hflag⟩ := hafter
  cases hmove with
  | started hagrees _ => exact absurd ⟨session, by rwa [← hagrees.sessions], hflag⟩ hconnected
  | @opened s' token peer_id _ _ hserver _ =>
    by_cases hs : s = s'
    · subst hs
      obtain rfl : Session.new peer_id = session := by
        simpa [hserver, System.open_session, Server.set_session, Server.set_channel] using hsession
      contradiction
    · refine absurd ⟨session, ?_, hflag⟩ hconnected
      simpa [hserver, System.open_session, Server.set_session, Server.set_channel, hs] using hsession
  | @acted role action resume answer after _ hrunning hdone hagrees hruns =>
    rw [hagrees.sessions, exec_sessions hdone] at hsession
    obtain ⟨before, hbefore, rfl⟩ := Option.map_eq_some_iff.mp hsession
    obtain hsame | ⟨rfl, -⟩ := Action.update_disconnected action role.actor s before
    · exact absurd ⟨before, hbefore, hsame ▸ hflag⟩ hconnected
    · refine ⟨role, resume, answer, after, ?_, hrunning, hdone, fun task htask => ?_⟩
      · have hkeeps := (hsys.keeps hrunning).1
        cases role with
        | handling s' framed =>
          obtain hobserves | ⟨msg, -, ⟨assigned, heq, -⟩ | ⟨op, heq, -⟩⟩ := hkeeps
          · exact hobserves.elim
          · contradiction
          · contradiction
        | closing s' => exact congrArg some (Eq.symm hkeeps)
        | finishing s' => exact congrArg some (Eq.symm hkeeps)
      · obtain ⟨-, heq⟩ | ⟨-, hother⟩ := hruns htask
        · exact heq
        · exact absurd rfl hother
  | served hlabel hrunning htask hdone _ =>
    rw [exec_sessions hdone] at hsession
    obtain ⟨before, hbefore, rfl⟩ := Option.map_eq_some_iff.mp hsession
    have hserves := hsys.serves hrunning
    rw [htask] at hserves
    rw [Serves.update_eq hserves.1] at hflag
    exact absurd ⟨before, hbefore, hflag⟩ hconnected

private theorem flagged_step (hsys : TornDown state sys) (hmove : Move state sys event next) :
    InPhase (fun s phase server => phase = .claiming ∨ Disconnected s server) next := by
  refine hsys.flagged.step hsys.registered.own.disciplined hmove ?_ ?_ ?_
  · intro s _
    exact .inl rfl
  · intro role s session phase phase' action resume answer after _ _ _ hphase _ hnext hdone hagrees
    right
    cases hnext with
    | lost _ | won _ =>
      have hafter : Disconnected s after := exec_claim_disconnect hdone
      simpa only [Disconnected, hagrees.sessions] using hafter
    | _ => exact disconnected_step hmove (hphase.resolve_left (by simp))
  · intro role s phase _ _ hphase _
    exact hphase.imp_right (disconnected_step hmove)

private theorem ended_step (hsys : TornDown state sys) (hstep : step state sys event = some next)
    {s : SessionId} {session : Session} (hsession : next.server.sessions s = some session)
    (hended : next.receive s = .ended) : session.disconnected = true := by
  have hdisciplined := hsys.registered.own.disciplined
  have hbefore : Disconnected s sys.server := by
    obtain hended' | ⟨action, resume, answer, after, value, hrunning, hdone, hrest, -⟩ :=
      ended_of_step hstep hended
    · cases hbefore : sys.server.sessions s with
      | none =>
        have hidle := idle_of_opened hstep hbefore (by simp [hsession])
        simp [hended] at hidle
      | some before => exact ⟨before, hbefore, hsys.ended hbefore hended'⟩
    · obtain ⟨phase, htask, hphase⟩ := hsys.flagged _ _ s hrunning rfl
      obtain ⟨before, hopened⟩ := cleans_opened hdisciplined hrunning rfl
      obtain ⟨phase', hnext, hresume⟩ := Phase.next_of_exec htask hdone hopened
      rw [hrest] at hresume
      cases hnext with
      | lost hflag => exact ⟨before, hopened, hflag⟩
      | unlocked => exact hphase.resolve_left (by simp)
      | _ => contradiction
  obtain ⟨session', hsession', hflag⟩ := disconnected_step (move_of_step hstep) hbefore
  obtain rfl : session' = session := by simpa [hsession'] using hsession
  exact hflag

/-- The step in which a cleanup decides: it finds that its session acts as no peer, or it
goes on to disconnect the peer, or it has disconnected it. -/
private theorem pending_step (hsys : TornDown state sys) (hstep : step state sys event = some next)
    {s : SessionId} (htearing : sys.Tearing s) : NoEntry s next.server ∨ next.Tearing s := by
  obtain ⟨role, phase, hcleans, hruns, hpending⟩ := htearing
  have hdisciplined := hsys.registered.own.disciplined
  obtain hstill | ⟨action, resume, answer, after, hlabel, htask, hdone, hagrees, hrest⟩ :=
    hdisciplined.continues hstep hruns
  · exact .inr ⟨role, phase, hcleans, hstill, hpending⟩
  · rw [htask] at hruns
    obtain ⟨session, hsession⟩ := cleans_opened hdisciplined hruns hcleans
    obtain ⟨phase', hnext, hresume⟩ := Phase.next_of_exec htask.symm hdone hsession
    cases hnext with
    | lost _ | won _ | unlocked => exact hpending.elim
    | skipped hholder =>
      refine .inl fun p hleads => ?_
      obtain hled | ⟨info, heq, -⟩ := leads_of_exec hdone ((leads_of_agrees hagrees).mp hleads)
      · exact hsys.registered.unheld ⟨session, hsession, hholder⟩ p hled
      · cases heq
    | @locked peer_id hholder =>
      rw [hresume] at hrest
      obtain hrest | ⟨value, hvalue⟩ := hrest
      · exact .inr ⟨role, .disconnecting peer_id, hcleans, hrest, trivial⟩
      · contradiction
    | @disconnected peer_id =>
      refine .inl fun p hleads => ?_
      have hown := hsys.registered.own.disconnects_own hruns hcleans hsession
      obtain ⟨entry, hentry, hsender⟩ := (leads_of_agrees hagrees).mp hleads
      rw [exec_disconnect_peer hdone p] at hentry
      by_cases hp : p = peer_id
      · rw [if_pos hp] at hentry
        obtain ⟨before, -, rfl⟩ := Option.map_eq_some_iff.mp hentry
        contradiction
      · rw [if_neg hp] at hentry
        obtain ⟨session', hsession', rfl⟩ := hsys.registered.keys ⟨entry, hentry, hsender⟩
        obtain rfl : session = session' := by simpa [hsession] using hsession'
        exact hp hown.symm

private theorem torn_step (hsys : TornDown state sys) (hconnected : registers_connected sys event = true)
    (hstep : step state sys event = some next) {s : SessionId} (hafter : Disconnected s next.server) :
    NoEntry s next.server ∨ next.Tearing s := by
  have hdisciplined := hsys.registered.own.disciplined
  by_cases hbefore : Disconnected s sys.server
  · obtain hno | htearing := hsys.torn hbefore
    · refine .inl fun p hleads => ?_
      obtain hled | ⟨info, framed, resume, hregisters⟩ := (move_of_step hstep).leads hdisciplined hleads
      · exact hno p hled
      · obtain ⟨session, hsession, hflag⟩ := hbefore
        have hrunning : sys.receive s = .handling framed (.act (.state (.register_peer info (some s))) resume) :=
          hregisters.running
        simp [registers_connected, System.registers, hregisters.label, hrunning, hsession, hflag] at hconnected
    · exact pending_step hsys hstep htearing
  · obtain ⟨role, resume, answer, after, hcleans, hrunning, hdone, hrest⟩ :=
      claims_of_disconnected hdisciplined (move_of_step hstep) hbefore hafter
    obtain ⟨phase, htask, -⟩ := hsys.flagged _ _ s hrunning hcleans
    obtain ⟨session, hsession⟩ := cleans_opened hdisciplined hrunning hcleans
    obtain ⟨phase', hnext, hresume⟩ := Phase.next_of_exec htask hdone hsession
    cases hnext with
    | lost hflag => exact absurd ⟨session, hsession, hflag⟩ hbefore
    | won _ =>
      refine .inr ⟨role, .claimed, hcleans, ?_, trivial⟩
      obtain hstill | ⟨action, resume', answer', after', -, heq, hdone', -, hgoes⟩ :=
        hdisciplined.continues hstep hrunning
      · cases (hrest _ hstill).trans hresume
      · cases heq
        obtain ⟨rfl, rfl⟩ := Prod.mk.inj (Option.some.inj (hdone.symm.trans hdone'))
        rw [hresume] at hgoes
        obtain hgoes | ⟨value, hvalue⟩ := hgoes
        · exact hgoes
        · cases hvalue

theorem TornDown.step (hsys : TornDown state sys) (hregisters : registers_own state sys event = true)
    (hunregisters : unregisters_own state sys event = true)
    (hconnected : registers_connected sys event = true)
    (hstep : server.step state sys event = some next) : TornDown state next where
  registered := hsys.registered.step hregisters hunregisters hstep
  flagged := flagged_step hsys (move_of_step hstep)
  ended := ended_step hsys hstep
  torn := torn_step hsys hconnected hstep

private theorem cleans_of_tears_down {role : Role} {task : Async Unit} (hruns : sys.Runs role task)
    {s : SessionId} (htears : sys.tears_down role.event = some s) : role.cleans = some s := by
  cases role with
  | handling s' framed =>
    simp [System.tears_down, Role.event, show sys.receive s' = .handling framed task from hruns] at htears
  | closing s' =>
    simpa [System.tears_down, Role.event, Role.cleans, show sys.receive s' = .closing task from hruns]
      using htears
  | finishing s' =>
    simpa [System.tears_down, Role.event, Role.cleans, show sys.forward s' = .finishing task from hruns]
      using htears

private theorem disconnects_of_running {role : Role} {s : SessionId} {p : String}
    {resume : (Op.disconnect_peer p).Answer → Async Unit}
    (hruns : sys.Runs role (.act (.state (.disconnect_peer p)) resume)) (hcleans : role.cleans = some s) :
    sys.disconnects role.event = some (s, p) := by
  cases role with
  | handling s' framed => contradiction
  | closing s' =>
    cases hcleans
    simp [System.disconnects, Role.event, show sys.receive s = .closing _ from hruns]
  | finishing s' =>
    cases hcleans
    simp [System.disconnects, Role.event, show sys.forward s = .finishing _ from hruns]

/-- Disconnecting the peer of a session takes offline exactly the entries that lead to
the session, if the peer's entry leads there or is offline. -/
private theorem disconnect_exactly (hsys : TornDown state sys)
    (hdisconnects : disconnects_own_entry sys event = true) {role : Role} (hlabel : event = role.event)
    {p : String} {resume : (Op.disconnect_peer p).Answer → Async Unit}
    (hruns : sys.Runs role (.act (.state (.disconnect_peer p)) resume)) {s : SessionId}
    (hcleans : role.cleans = some s) (q : String) :
    (if q = p then (sys.server.inner.peers.peek q).map PeerEntry.offline
      else sys.server.inner.peers.peek q) = (sys.server.inner.peers.peek q).map (PeerEntry.torn_down s) := by
  obtain ⟨session, hsession⟩ := cleans_opened hsys.registered.own.disciplined hruns hcleans
  have hown := hsys.registered.own.disconnects_own hruns hcleans hsession
  cases hentry : sys.server.inner.peers.peek q with
  | none => simp
  | some entry =>
    by_cases hq : q = p
    · subst hq
      rw [hlabel] at hdisconnects
      have hcond : entry.sender = some s ∨ entry.sender = none ∧ entry.info.status = 1 := by
        simpa [disconnects_own_entry, disconnects_of_running hruns hcleans, hentry] using hdisconnects
      obtain hsender | ⟨hsender, hstatus⟩ := hcond
      · simp [PeerEntry.torn_down, hsender]
      · simp [PeerEntry.torn_down, hsender, PeerEntry.offline_eq_self hsender hstatus]
    · have hother : entry.sender ≠ some s := by
        intro hsender
        obtain ⟨session', hsession', rfl⟩ := hsys.registered.keys ⟨entry, hentry, hsender⟩
        obtain rfl : session = session' := by simpa [hsession] using hsession'
        exact hq hown.symm
      simp [PeerEntry.torn_down, hq, hother]

theorem TornDown.teardown (hsys : TornDown state sys)
    (hdisconnects : disconnects_own_entry sys event = true) (hmove : Move state sys event next)
    (hnext : TornDown state next) : Teardown sys event next where
  exactly s htears := by
    cases hmove with
    | started hagrees _ => exact .inl fun p => by rw [hagrees.peers]
    | opened _ _ hserver _ => exact .inl fun p => by rw [hserver]; rfl
    | acted role hlabel hrunning hdone hagrees _ =>
      have hcleans := cleans_of_tears_down hrunning (hlabel ▸ htears)
      obtain ⟨phase, htask, -⟩ := hsys.flagged _ _ s hrunning hcleans
      rw [hagrees.peers]
      cases phase with
      | disconnecting peer_id =>
        cases htask
        refine .inr fun p => ?_
        rw [exec_disconnect_peer hdone p]
        exact disconnect_exactly hsys hdisconnects hlabel hrunning hcleans p
      | finished => cases htask
      | _ =>
        cases htask
        refine .inl fun p => ?_
        obtain hsame | ⟨op, heq, -⟩ := exec_peers hdone p
        · exact hsame
        · cases heq
    | served hlabel _ _ _ _ =>
      rw [hlabel] at htears
      contradiction
  gone s p entry hended hentry hsender := by
    obtain ⟨session, hsession, -⟩ := hnext.registered.keys ⟨entry, hentry, hsender⟩
    obtain hno | ⟨role, phase, hcleans, hruns, -⟩ :=
      hnext.torn ⟨session, hsession, hnext.ended hsession hended.1⟩
    · exact hno p ⟨entry, hentry, hsender⟩
    · cases role with
      | handling s' framed => contradiction
      | closing s' =>
        cases hcleans
        cases hended.1.symm.trans hruns
      | finishing s' =>
        cases hcleans
        exact hended.2 _ hruns

/-- In every run in which sessions register and unregister only the peer of their token,
register only while they are connected, and end when their peer's entry leads to them or
is offline, the end of a session is exact. -/
theorem teardown_exact_of_own_entries (state : AppState) (rate_limits : rate_limit.RateLimitConfig)
    (events : List Event)
    (hown : Along (step state) (fun sys event _ => registers_own state sys event ∧
      unregisters_own state sys event ∧ registers_connected sys event ∧
      disconnects_own_entry sys event) (System.init rate_limits state) events) :
    Along (step state) Teardown (System.init rate_limits state) events := by
  refine Along.of_invariant (I := TornDown state) ?_ (.init rate_limits) hown
  intro sys event next hsys hcond hstep
  obtain ⟨hregisters, hunregisters, hconnected, hdisconnects⟩ := hcond
  have hnext := hsys.step hregisters hunregisters hconnected hstep
  exact ⟨hsys.teardown hdisconnects (move_of_step hstep) hnext, hnext⟩

/-- The condition of the theorem is met when alice and bob register themselves, alice's
connection closes, bob's forward task fails to write, and bob's connection closes. -/
theorem teardown_exact_of_alice_and_bob :
    Along (step .reference) Teardown (System.init .default .reference)
      (alice_and_bob_connect ++ (exchange 1 type_id.PEER_REGISTER (proto.string 1 "alice") 6 ++
        exchange 2 type_id.PEER_REGISTER (proto.string 1 "bob") 6 ++
        .close 1 :: List.replicate 4 (.receive_loop 1) ++
        exchange 2 type_id.CALL_ENDED (proto.string 1 "call") 4 ++
        [.take 2, .write_fails 2] ++ List.replicate 4 (.forward_task 2) ++
        [.close 2, .receive_loop 2])) := by
  apply teardown_exact_of_own_entries
  apply along_alice_and_bob_connect
  · intro sys s token next
    exact ⟨rfl, rfl, rfl, rfl⟩
  · decide +kernel

/-- Alice has connected again and registered on a new session, 3; when the old session
ends, it takes alice offline. -/
theorem not_teardown_exact_of_reconnection :
    ¬ Along (step .reference) Teardown (System.init .default .reference)
      ((alice_and_bob_connect ++ (exchange 1 type_id.PEER_REGISTER (proto.string 1 "alice") 6 ++
        .upgrade 3 (AppState.reference_token "alice") ::
        exchange 3 type_id.PEER_REGISTER (proto.string 1 "alice") 6 ++
        [.close 1, .receive_loop 1, .receive_loop 1])) ++ [.receive_loop 1]) := by
  refine not_along_alice_and_bob (fun middle next =>
    middle.tears_down (.receive_loop 1) = some 1 ∧
      (middle.server.inner.peers.peek "alice").map PeerEntry.sender = some (some 3) ∧
      (next.server.inner.peers.peek "alice").map PeerEntry.sender = some none) ?_ ?_
  · intro middle next hseen hteardown
    obtain ⟨htears, hbefore, hafter⟩ := of_decide_eq_true hseen
    obtain ⟨entry, hentry, hsender⟩ := Option.map_eq_some_iff.mp hbefore
    obtain hsame | htorn := hteardown.exactly 1 htears
    · simp [hsame, hbefore] at hafter
    · simp [htorn, hentry, PeerEntry.torn_down, hsender] at hafter
  · decide +kernel

end voip_signaling.server
