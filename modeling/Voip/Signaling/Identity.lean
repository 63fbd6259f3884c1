import Voip.Signaling.Changes

namespace voip_signaling.server

open async state session

variable {state : AppState} {sys next : System} {event : Event}

/-- A client message that arrives, with the session it arrives on. -/
def Event.arrival (state : AppState) (sys : System) : Event → Option (Session × ClientMessage)
  | .message s data => do
    let framed ← FramedMessage.from_bytes data
    let msg ← client_message state framed
    let session ← sys.server.sessions s
    return (session, msg)
  | _ => none

theorem Event.arrival_message {s : SessionId} {data : wire.Bytes} {framed : FramedMessage}
    {msg : ClientMessage} {session : Session} (hdecoded : FramedMessage.from_bytes data = some framed)
    (hmsg : client_message state framed = some msg) (hsession : sys.server.sessions s = some session) :
    (Event.message s data).arrival state sys = some (session, msg) := by
  simp [Event.arrival, hdecoded, hmsg, hsession]

/-- A `PeerRegister` that arrives on a session names the peer of the session's token. -/
def registers_own (state : AppState) (sys : System) (event : Event) : Bool :=
  match event.arrival state sys with
  | some (session, .PeerRegister msg) => msg.peer_id = session.peer_id
  | _ => true

/-- A `PeerUnregister` that arrives on a session names the peer of the session's token. -/
def unregisters_own (state : AppState) (sys : System) (event : Event) : Bool :=
  match event.arrival state sys with
  | some (session, .PeerUnregister msg) => msg.peer_id = session.peer_id
  | _ => true

/-- Each session acts as the peer of its token or as no peer, and handles only
registrations of that peer. -/
structure OwnHolder (state : AppState) (sys : System) : Prop where
  holder : ∀ {s session}, sys.server.sessions s = some session →
    session.peer_id_holder = none ∨ session.peer_id_holder = some session.peer_id
  registers : ∀ {s framed task session}, sys.Runs (.handling s framed) task →
    sys.server.sessions s = some session → ∀ msg, client_message state framed = some (.PeerRegister msg) →
    msg.peer_id = session.peer_id

theorem OwnHolder.init (rate_limits : rate_limit.RateLimitConfig) :
    OwnHolder state (System.init rate_limits state) where
  holder := by simp [System.init]
  registers := by simp [System.init]

/-- Sessions keep acting as the peer of their token while every `PeerRegister` names it. -/
theorem OwnHolder.step (hsys : Disciplined state sys) (hown : OwnHolder state sys)
    (hcond : registers_own state sys event = true) (hmove : Move state sys event next) :
    OwnHolder state next where
  holder {s after} hafter := by
    obtain ⟨-, peer_id, rfl⟩ | ⟨before, hbefore, rfl | ⟨role, action, resume, -, hrunning, rfl⟩⟩ :=
      hmove.session hsys hafter
    · exact .inr rfl
    · exact hown.holder hbefore
    · rw [Action.update_peer_id]
      obtain hsame | ⟨peer_id, rfl, hassigned⟩ := Action.update_holder action role.actor s before
      · rw [hsame]
        exact hown.holder hbefore
      · rw [hassigned]
        have hkeeps := (hsys.keeps hrunning).1
        cases role with
        | handling s' framed =>
          obtain hobserves | ⟨msg, hmsg, ⟨assigned, heq, hassigns⟩ | ⟨op, heq, -⟩⟩ := hkeeps
          · exact hobserves.elim
          · cases heq
            cases msg with
            | PeerRegister msg =>
              right
              rw [show peer_id = some msg.peer_id from hassigns]
              rw [hown.registers hrunning hbefore msg hmsg]
            | PeerUnregister msg => exact .inl hassigns
            | _ => exact hassigns.elim
          · contradiction
        | closing s' => exact hkeeps.elim
        | finishing s' => exact hkeeps.elim
  registers hruns hsession := by
    refine hmove.handling_fact hsys (fun framed peer_id => ∀ msg,
      client_message state framed = some (.PeerRegister msg) → msg.peer_id = peer_id)
      hown.registers ?_ hruns hsession
    rintro s data framed session rfl hdecoded hsession msg hmsg
    simpa [registers_own, Event.arrival_message hdecoded hmsg hsession] using hcond

end voip_signaling.server
