import Voip.Async.RelyGuarantee
import Voip.Signaling.Exec
import Voip.Signaling.Handling

namespace voip_signaling.session

open async state voip_core.proto.signaling

/-- The registry entry of a peer leads to a session's channel. -/
def Leads (s : SessionId) (p : String) (server : Server) : Prop :=
  ∃ entry, server.inner.peers.peek p = some entry ∧ entry.sender = some s

def NoEntry (s : SessionId) (server : Server) : Prop := ∀ p, ¬ Leads s p server

def HolderIs (s : SessionId) (holder : Option String) (server : Server) : Prop :=
  ∃ session, server.sessions s = some session ∧ session.peer_id_holder = holder

/-- While a session handles a message, others neither assign its holder nor point
registry entries at it. -/
def RegistrationRely (s : SessionId) (before after : Server) : Prop :=
  (∀ holder, HolderIs s holder before → HolderIs s holder after) ∧
    ∀ p, Leads s p after → Leads s p before

/-- A session enters itself in the registry only while it acts as some peer, and stops
acting as one only while no entry leads to it. -/
def RegistersInOrder (s : SessionId) (action : Action) (server : Server) : Prop :=
  (∀ info, action = .state (.register_peer info (some s)) → ∃ peer_id, HolderIs s (some peer_id) server) ∧
    (action = .write_holder s none → NoEntry s server)

def RegistrationSafe (s : SessionId) (task : Async Unit) (server : Server) : Prop :=
  task.Safe (exec (.receive_loop s)) (RegistrationRely s) (RegistersInOrder s) (fun _ _ => True) server

section Steps

variable {s : SessionId} {p : String} {server after : Server} {actor : Actor} {action : Action}
  {answer : action.Answer}

/-- An entry leads to a session because it did so before, or because the session has
just been registered under it. -/
theorem leads_of_exec (hexec : exec actor action server = some (answer, after)) (hleads : Leads s p after) :
    Leads s p server ∨ ∃ info, action = .state (.register_peer info (some s)) ∧ info.peer_id = p := by
  obtain ⟨entry, hentry, hsender⟩ := hleads
  obtain hsame | ⟨op, rfl, hop⟩ := exec_peers hexec p
  · exact .inl ⟨entry, by rwa [← hsame], hsender⟩
  · rw [hentry] at hop
    cases hop with
    | @register info sender hid =>
      cases sender with
      | some sender =>
        obtain rfl : sender = s := by simpa using hsender
        exact .inr ⟨info, rfl, hid⟩
      | none =>
        left
        obtain ⟨before, hbefore, hkept⟩ := Option.bind_eq_some_iff.mp (by simpa using hsender)
        exact ⟨before, hbefore, hkept⟩
    | disconnect hpresent => simp [PeerEntry.offline] at hsender

theorem leads_of_agrees (hagrees : server.Agrees after) : Leads s p after ↔ Leads s p server := by
  simp only [Leads, hagrees.peers]

theorem HolderIs.exec {holder : Option String} (hholder : HolderIs s holder server)
    (hkeeps : ∀ assigned, action ≠ .write_holder s assigned)
    (hexec : exec actor action server = some (answer, after)) : HolderIs s holder after := by
  obtain ⟨session, hsession, hholder⟩ := hholder
  obtain ⟨session', hsession', -, hsame⟩ := exec_keeps_holder hexec hkeeps hsession
  exact ⟨session', hsession', hsame.trans hholder⟩

theorem exec_write_holder {holder : Option String}
    (hexec : exec actor (.write_holder s holder) server = some ((), after)) : HolderIs s holder after := by
  obtain ⟨session, -, -, -, rfl⟩ := Server.with_holder_eq_some hexec
  exact ⟨{ session with peer_id_holder := holder }, Function.update_self .., rfl⟩

theorem exec_unregister_peer {answer : Except error.SignalingError Unit}
    (hexec : exec actor (.state (.unregister_peer p)) server = some (answer, after)) :
    after.inner.peers.peek p = none := by
  obtain ⟨-, -, rfl⟩ := exec_state_eq_some.mp hexec
  exact (InnerState.peek_unregister_peer p p).trans (if_pos rfl)

theorem exec_disconnect_peer
    (hexec : exec actor (.state (.disconnect_peer p)) server = some ((), after)) (q : String) :
    after.inner.peers.peek q =
      if q = p then (server.inner.peers.peek q).map PeerEntry.offline else server.inner.peers.peek q := by
  obtain ⟨-, -, rfl⟩ := exec_state_eq_some.mp hexec
  exact InnerState.peek_disconnect_peer_eq p q

theorem NoEntry.rely (hno : NoEntry s server) (hrely : RegistrationRely s server after) :
    NoEntry s after := fun p hleads => hno p (hrely.2 p hleads)

end Steps

section Safety

variable {s : SessionId} {server : Server}

/-- Actions that neither register a session nor assign a holder. -/
def Action.Unregistering : Action → Prop
  | .state (.register_peer ..) | .write_holder .. => False
  | _ => True

theorem Action.Unregistering.in_order {action : Action} (hunregistering : action.Unregistering) :
    RegistersInOrder s action server := by
  refine ⟨?_, ?_⟩
  · rintro info rfl
    exact hunregistering.elim
  · rintro rfl
    exact hunregistering.elim

theorem RegistrationSafe.of_uses {task : Async Unit} (huses : task.Uses Action.Unregistering) :
    RegistrationSafe s task server := by
  refine Task.Safe.weaken (Task.Safe.of_uses (I := fun _ => True) (fun _ _ _ _ => trivial) ?_ trivial)
    fun _ _ _ => trivial
  exact huses.mono fun action hunregistering before answer after _ _ => ⟨hunregistering.in_order, trivial⟩

theorem Observes.unregistering {action : Action} (hobserves : Observes s action) : action.Unregistering := by
  cases action with
  | state op => cases op <;> trivial
  | write_holder _ _ => exact hobserves.elim
  | _ => trivial

/-- A message about a call registers nobody. -/
theorem Handles.unregistering {message : Option ClientMessage} {action : Action}
    (hhandles : Handles s message action)
    (hcall : ∀ msg, message = some msg → msg.call_id ≠ none) : action.Unregistering := by
  obtain hobserves | ⟨msg, rfl, ⟨assigned, rfl, hassigns⟩ | ⟨op, rfl, hwrites⟩⟩ := hhandles
  · exact hobserves.unregistering
  · cases msg with
    | PeerRegister _ | PeerUnregister _ => exact absurd rfl (hcall _ rfl)
    | _ => exact hassigns.elim
  · cases op with
    | register_peer info sender =>
      cases msg with
      | PeerRegister _ => exact absurd rfl (hcall _ rfl)
      | _ => exact hwrites.elim
    | _ => trivial

private theorem send_error_unregistering (code : Nat) (text : String) :
    (send_error s code text).Uses Action.Unregistering :=
  Task.Uses.perform_bind trivial fun _ => trivial

/-- A registration assigns the holder before it writes the registry. -/
private theorem register_in_order {state : AppState} {payload : wire.Bytes} {register : PeerRegister}
    (hdecoded : state.prost.peer_register payload = some register) :
    RegistrationSafe s (ws_handle_peer_register state s payload) server := by
  unfold ws_handle_peer_register
  rw [hdecoded]
  have hstable : ∀ a b : Server, True → RegistrationRely s a b → True := fun _ _ h _ => h
  refine Task.Safe.perform_bind hstable trivial fun before allowed after _ _ => ?_
  refine ⟨Action.Unregistering.in_order trivial, ?_⟩
  cases allowed with
  | false => exact RegistrationSafe.of_uses (send_error_unregistering _ _)
  | true =>
    refine Task.Safe.perform_bind hstable trivial fun before now after _ _ => ?_
    refine ⟨Action.Unregistering.in_order trivial, ?_⟩
    refine Task.Safe.perform_bind hstable trivial fun before _ after _ hexec => ?_
    refine ⟨⟨by simp, by simp⟩, ?_⟩
    have hholder : HolderIs s (some register.peer_id) after := exec_write_holder hexec
    refine Task.Safe.perform_bind (fun _ _ h hrely => hrely.1 _ h) hholder ?_
    intro before registered after hbefore _
    refine ⟨⟨fun _ _ => ⟨_, hbefore⟩, by simp⟩, ?_⟩
    cases registered with
    | ok _ => exact RegistrationSafe.of_uses trivial
    | error e => exact RegistrationSafe.of_uses (send_error_unregistering _ _)

/-- An unregistration of the only peer whose entry can lead to the session leaves no
such entry when the session stops acting as a peer. -/
private theorem unregister_in_order {state : AppState} {payload : wire.Bytes}
    {unregister : PeerUnregister} (hdecoded : state.prost.peer_unregister payload = some unregister)
    (honly : ∀ p, Leads s p server → p = unregister.peer_id) :
    RegistrationSafe s (ws_handle_peer_unregister state s payload) server := by
  unfold ws_handle_peer_unregister
  rw [hdecoded]
  refine Task.Safe.perform_bind (I := fun server => ∀ p, Leads s p server → p = unregister.peer_id)
    (fun _ _ h hrely p hleads => h p (hrely.2 p hleads)) honly ?_
  intro before answer after honly hexec
  refine ⟨Action.Unregistering.in_order trivial, ?_⟩
  have hno : NoEntry s after := by
    intro p hleads
    obtain hbefore | ⟨info, hregisters, -⟩ := leads_of_exec hexec hleads
    · obtain rfl := honly p hbefore
      obtain ⟨entry, hentry, -⟩ := hleads
      simp [exec_unregister_peer hexec] at hentry
    · cases hregisters
  intro before hrely answer after _
  refine ⟨⟨by simp, fun _ => hno.rely hrely⟩, ?_⟩
  exact fun _ _ => trivial

/-- A session whose own entry is the only one that can lead to it keeps its holder and
the registry in order while it handles a message. -/
theorem receive_message_in_order {state : AppState} {framed : FramedMessage} (own : String)
    (hunregisters : ∀ msg, client_message state framed = some (.PeerUnregister msg) → msg.peer_id = own)
    (honly : ∀ p, Leads s p server → p = own) :
    RegistrationSafe s (receive_message state s framed) server := by
  have hstable : ∀ a b, (∀ p, Leads s p a → p = own) → RegistrationRely s a b →
      ∀ p, Leads s p b → p = own := fun _ _ h hrely p hleads => h p (hrely.2 p hleads)
  have hobserved : ∀ {action : Action} {answer before after}, Observes s action →
      exec (.receive_loop s) action before = some (answer, after) → (∀ p, Leads s p before → p = own) →
      ∀ p, Leads s p after → p = own := by
    intro action answer before after hobserves hexec honly p hleads
    obtain hbefore | ⟨info, rfl, -⟩ := leads_of_exec hexec hleads
    · exact honly p hbefore
    · exact hobserves.elim
  have hdispatch : ∀ server, (∀ p, Leads s p server → p = own) →
      RegistrationSafe s (dispatch_ws_message state s framed) server := by
    intro server honly
    cases hmsg : client_message state framed with
    | none =>
      refine RegistrationSafe.of_uses ((dispatch_ws_message_uses state s framed).mono ?_)
      intro action hhandles
      exact hhandles.unregistering (by simp [hmsg])
    | some msg =>
      by_cases hcall : msg.call_id = none
      · have hdispatched := dispatch_ws_message_dispatched s hmsg
        generalize dispatch_ws_message state s framed = task at hdispatched ⊢
        cases hdispatched with
        | PeerRegister hdecoded => exact register_in_order hdecoded
        | PeerUnregister hdecoded =>
          refine unregister_in_order hdecoded fun p hleads => ?_
          rw [hunregisters _ hmsg]
          exact honly p hleads
        | _ => contradiction
      · refine RegistrationSafe.of_uses ((dispatch_ws_message_uses state s framed).mono ?_)
        intro action hhandles
        exact hhandles.unregistering (by simp [hmsg, hcall])
  refine Task.Safe.perform_bind hstable honly fun before holder after honly hexec => ?_
  refine ⟨Action.Unregistering.in_order trivial, ?_⟩
  have hread : Observes s (.read_holder s) := rfl
  replace honly := hobserved hread hexec honly
  cases holder with
  | none => exact hdispatch after honly
  | some peer_id =>
    refine Task.Safe.perform_bind hstable honly fun before allowed after honly hexec => ?_
    refine ⟨Action.Unregistering.in_order trivial, ?_⟩
    have hcheck : Observes s (.state (.check .WsMessage peer_id)) := trivial
    replace honly := hobserved hcheck hexec honly
    cases allowed with
    | false => exact RegistrationSafe.of_uses (send_error_unregistering _ _)
    | true => exact hdispatch after honly

end Safety

end voip_signaling.session
