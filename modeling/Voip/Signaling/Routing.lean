import Voip.Signaling.RelayAtomicity
import Voip.Signaling.RequestTrace

namespace voip_signaling.session

open state error async voip_core.proto.signaling

/-- The types of the messages about a call, in both directions. -/
def call_signaling : List UInt16 :=
  [type_id.CALL_REQUEST_CS, type_id.CALL_REQUEST_SC, type_id.CALL_ACCEPT_CS, type_id.CALL_ACCEPT_SC,
    type_id.CALL_REJECT_CS, type_id.CALL_REJECT_SC, type_id.CALL_FAILED, type_id.CALL_ENDED]

/-- The messages about a call among those that a task has sent. -/
def forwards (log : List (SessionId × FramedMessage)) : List (SessionId × FramedMessage) :=
  log.filter fun entry => entry.2.type_id ∈ call_signaling

/-- As what and to whom a message that arrives on the session of a peer may be forwarded: to the
other side of a call in which the peer has the role that the message requires. -/
inductive MayForward (state : AppState) (server : Server) (p : String) (framed : FramedMessage) :
    UInt16 → String → Prop where
  | request (msg : CallRequest) (htype : framed.type_id = type_id.CALL_REQUEST_CS)
      (hmsg : state.prost.call_request framed.payload = some msg) (hrole : msg.caller_id = p) :
    MayForward state server p framed type_id.CALL_REQUEST_SC msg.callee_id
  | accept (msg : CallAccept) (call : CallEntry) (htype : framed.type_id = type_id.CALL_ACCEPT_CS)
      (hmsg : state.prost.call_accept framed.payload = some msg)
      (hcall : server.inner.calls.peek msg.call_id = some call) (hrole : call.callee_id = p) :
    MayForward state server p framed type_id.CALL_ACCEPT_SC call.caller_id
  | reject (msg : CallReject) (call : CallEntry) (htype : framed.type_id = type_id.CALL_REJECT_CS)
      (hmsg : state.prost.call_reject framed.payload = some msg)
      (hcall : server.inner.calls.peek msg.call_id = some call) (hrole : call.callee_id = p) :
    MayForward state server p framed type_id.CALL_REJECT_SC call.caller_id
  | failed (msg : CallFailed) (call : CallEntry) (other : String)
      (htype : framed.type_id = type_id.CALL_FAILED)
      (hmsg : state.prost.call_failed framed.payload = some msg)
      (hcall : server.inner.calls.peek msg.call_id = some call) (hrole : is_participant call p = true)
      (hother : is_participant call other = true) (hne : other ≠ p) :
    MayForward state server p framed type_id.CALL_FAILED other
  | ended (msg : CallEnded) (call : CallEntry) (other : String)
      (htype : framed.type_id = type_id.CALL_ENDED)
      (hmsg : state.prost.call_ended framed.payload = some msg)
      (hcall : server.inner.calls.peek msg.call_id = some call) (hrole : is_participant call p = true)
      (hother : is_participant call other = true) (hne : other ≠ p) :
    MayForward state server p framed type_id.CALL_ENDED other

/-- At most one message about a call has been sent, with the payload that arrived, and into the
session of a peer it may be forwarded to. -/
structure Routed (state : AppState) (server : Server) (p : String) (framed : FramedMessage)
    (log : List (SessionId × FramedMessage)) : Prop where
  at_most_one : (forwards log).length ≤ 1
  payload : ∀ entry ∈ forwards log, entry.2.payload = framed.payload
  recipient : ∀ entry ∈ forwards log, ∃ peer_id peer, MayForward state server p framed entry.2.type_id peer_id ∧
    server.inner.peers.peek peer_id = some peer ∧ peer.sender = some entry.1

/-- The session's client is told of the failure or the end of a call between its peer and itself,
by its own message. -/
structure Echoes (state : AppState) (server : Server) (session : Session) (p : String)
    (framed : FramedMessage) : Prop where
  unlocked : session.holder_lock = none
  reachable : server.Reachable p
  call : ∃ call, call.caller_id = p ∧ call.callee_id = p ∧
    (framed.type_id = type_id.CALL_FAILED ∧
        (∃ msg, state.prost.call_failed framed.payload = some msg ∧
          server.inner.calls.peek msg.call_id = some call) ∨
      framed.type_id = type_id.CALL_ENDED ∧
        ∃ msg, state.prost.call_ended framed.payload = some msg ∧
          server.inner.calls.peek msg.call_id = some call)

/-- Sends no message about a call. -/
abbrev OffCalls : Action → Prop := Sends fun message => message.type_id ∉ call_signaling

section

variable {actor : Actor} {α : Type} {post : α → Logged → Prop} {state : AppState} {server server' : Server}
  {p : String} {framed : FramedMessage} {s : SessionId} {sent : List (SessionId × FramedMessage)}

theorem forwards_append (log more : List (SessionId × FramedMessage)) :
    forwards (log ++ more) = forwards log ++ forwards more := List.filter_append ..

theorem forwards_eq_nil {log : List (SessionId × FramedMessage)}
    (hlog : ∀ entry ∈ log, entry.2.type_id ∉ call_signaling) : forwards log = [] :=
  List.filter_eq_nil_iff.mpr fun entry hentry => by simpa using hlog entry hentry

theorem Routed.of_off_calls {log : List (SessionId × FramedMessage)} (hlog : forwards log = []) :
    Routed state server p framed log := by
  constructor <;> simp [hlog]

theorem Routed.of_forwards_eq {log log' : List (SessionId × FramedMessage)}
    (hrouted : Routed state server p framed log) (hlog : forwards log' = forwards log) :
    Routed state server p framed log' := by
  obtain ⟨hone, hpayload, hrecipient⟩ := hrouted
  rw [← hlog] at hone hpayload hrecipient
  exact ⟨hone, hpayload, hrecipient⟩

theorem Sends.of_mem {M : FramedMessage → Prop} {action : Action} (haction : Sends M action)
    {entry : SessionId × FramedMessage} (hentry : entry ∈ action.sends server) : M entry.2 := by
  cases action with
  | send s message =>
    rw [mem_log_send hentry]
    exact haction
  | send_holding_peers message =>
    cases hlock : server.peers_lock with
    | none => simp [Action.sends, hlock] at hentry
    | some held =>
      simp only [Action.sends, hlock] at hentry
      rw [mem_log_send hentry]
      exact haction
  | _ => cases hentry

/-- A task without messages about calls leaves what has been forwarded as it is. -/
theorem ensures_of_off_calls {task : Async α} (hoff : task.Uses OffCalls)
    (hpost : ∀ value after, forwards after.sent = forwards sent → post value after) :
    Ensures actor task post ⟨server, sent⟩ := by
  have hsafe : Ensures actor task (fun _ after => forwards after.sent = forwards sent) ⟨server, sent⟩ := by
    refine Task.Safe.of_uses (I := fun after : Logged => forwards after.sent = forwards sent)
      (fun before after hbefore hsteady => by rw [hsteady.sent, hbefore]) ?_ rfl
    refine hoff.mono fun action haction before answer after hbefore hexec => ⟨trivial, ?_⟩
    obtain ⟨⟨result, server'⟩, -, hafter⟩ := Option.map_eq_some_iff.mp hexec
    cases hafter
    rw [forwards_append, hbefore, forwards_eq_nil fun entry hentry => haction.of_mem hentry, List.append_nil]
  exact hsafe.weaken hpost

theorem send_error_off_calls (code : Nat) (text : String) : (send_error s code text).Uses OffCalls :=
  Task.Uses.perform_bind (show type_id.ERROR ∉ call_signaling by decide) fun _ => trivial

/-- A handler that goes on with an error only has routed nothing. -/
theorem ensures_routed_of_off_calls {task : Async α} (hoff : task.Uses OffCalls) (hsent : forwards sent = []) :
    Ensures actor task (fun _ after => Routed state server p framed after.sent) ⟨server', sent⟩ :=
  ensures_of_off_calls hoff fun _ _ hafter => .of_off_calls (hafter.trans hsent)

theorem Routed.of_send_outcome (hpeers : server'.inner.peers = server.inner.peers)
    {id : UInt16} {peer_id : String} (hmay : MayForward state server p framed id peer_id) :
    Routed state server p framed (server'.send_outcome peer_id ⟨id, framed.payload⟩).2 := by
  by_cases hreach : server'.Reachable peer_id
  · obtain ⟨s, hsent, peer, s', hpeer, hsender, hmem⟩ := send_outcome_of_reachable hreach ⟨id, framed.payload⟩
    obtain rfl : s' = s := by simpa using hmem
    rw [hsent]
    refine ⟨List.length_filter_le .., fun entry hentry => ?_, fun entry hentry => ?_⟩
    · rw [List.mem_singleton.mp (List.mem_of_mem_filter hentry)]
    · rw [List.mem_singleton.mp (List.mem_of_mem_filter hentry)]
      exact ⟨peer_id, peer, hmay, hpeers ▸ hpeer, hsender⟩
  · obtain ⟨e, hsent⟩ := send_outcome_of_unreachable hreach ⟨id, framed.payload⟩
    rw [hsent]
    exact .of_off_calls rfl

/-- A handler that forwards the message where it may, and sends nothing about calls before or
after, has routed it. -/
theorem ensures_routed_of_forward (hleaves : server'.LeavesPeers actor)
    (hpeers : server'.inner.peers = server.inner.peers) {id : UInt16} {peer_id : String}
    (hmay : MayForward state server p framed id peer_id) {f : Except SignalingError Unit → Async α}
    (hoff : ∀ result, (f result).Uses OffCalls) :
    Ensures actor (send_to_peer peer_id ⟨id, framed.payload⟩ >>= f)
      (fun _ after => Routed state server p framed after.sent) ⟨server', []⟩ := by
  rw [ensures_send_to_peer hleaves, List.nil_append]
  exact ensures_of_off_calls (hoff _) fun _ _ hafter => (Routed.of_send_outcome hpeers hmay).of_forwards_eq hafter

theorem steady_modify_call {middle : Server} (hmiddle : Steady actor ⟨server, sent⟩ ⟨middle, sent⟩)
    (call_id : String) (write : CallEntry → CallEntry) :
    (middle.inner.modify_call call_id write).1 = (server.inner.modify_call call_id write).1 ∧
      Steady actor ⟨{ server with inner := (server.inner.modify_call call_id write).2 }, sent⟩
        ⟨{ middle with inner := (middle.inner.modify_call call_id write).2 }, sent⟩ := by
  have hcalls : middle.inner.calls = server.inner.calls := hmiddle.calls
  simp only [InnerState.modify_call, hcalls]
  split
  · exact ⟨rfl, { hmiddle with calls := rfl }⟩
  · exact ⟨rfl, hmiddle⟩

theorem ensures_update_call_state (hleaves : server.LeavesPeers actor) {call_id : String} {new_state : Int}
    {f : Except SignalingError Unit → Async α} :
    Ensures actor (update_call_state call_id new_state >>= f) post ⟨server, sent⟩ ↔
      Ensures actor (f (server.inner.update_call_state call_id new_state).1) post
        ⟨{ server with inner := (server.inner.update_call_state call_id new_state).2 }, sent⟩ :=
  ensures_state hleaves fun _ hmiddle => steady_modify_call hmiddle call_id _

theorem ensures_end_call (hleaves : server.LeavesPeers actor) {call_id : String} {reason : Option String}
    {f : Except SignalingError Unit → Async α} :
    Ensures actor (end_call call_id reason >>= f) post ⟨server, sent⟩ ↔
      Ensures actor (f (server.inner.end_call call_id server.now_secs reason).1) post
        ⟨{ server with inner := (server.inner.end_call call_id server.now_secs reason).2 }, sent⟩ := by
  rw [end_call, bind_assoc, ensures_now_secs]
  exact ensures_state hleaves fun _ hmiddle => steady_modify_call hmiddle call_id _

theorem modify_call_peers (inner : InnerState) (call_id : String) (write : CallEntry → CallEntry) :
    (inner.modify_call call_id write).2.peers = inner.peers := by
  unfold InnerState.modify_call
  split <;> rfl

theorem create_call_peers (inner : InnerState) (call : CallEntry) :
    (inner.create_call call).2.peers = inner.peers := by
  cases hcreated : (inner.create_call call).1 with
  | ok _ => rw [create_call_of_ok hcreated]
  | error e => rw [create_call_of_error hcreated]

/-- A handler may go on after its check under the mutex of the holder when the peer it acts for
passes the check. -/
theorem ensures_routed_of_lock {session : Session} (hsession : server'.sessions s = some session)
    (hholder : session.peer_id_holder = some p) {allowed : String → Bool} {code : Nat} {text : String}
    {task : Async Unit}
    (htask : allowed p = true → Ensures actor task (fun _ after => Routed state server p framed after.sent)
      ⟨server', []⟩) :
    Ensures actor (lock_holder s >>= fun session_peer =>
        if mismatch session_peer allowed then send_error s code text >>= fun _ => unlock_holder s
        else unlock_holder s >>= fun _ => task)
      (fun _ after => Routed state server p framed after.sent) ⟨server', []⟩ := by
  by_cases hfree : session.holder_lock = none
  · rw [ensures_lock_holder hsession hfree]
    cases hallowed : allowed p with
    | false =>
      have hmismatch : mismatch session.peer_id_holder allowed = true := by simp [mismatch, hholder, hallowed]
      rw [hmismatch, if_pos rfl]
      exact ensures_routed_of_off_calls ((send_error_off_calls _ _).bind fun _ => Task.uses_perform.mpr trivial) rfl
    | true =>
      have hmatch : mismatch session.peer_id_holder allowed = false := by simp [mismatch, hholder, hallowed]
      rw [hmatch, if_neg Bool.false_ne_true, ensures_unlock_holder hsession hfree]
      exact htask hallowed
  · refine ensures_holder_blocked (.lock_holder s)
      (fun session => (session.peer_id_holder, { session with holder_lock := some actor }))
      (fun _ => rfl) fun locked hlocked => ?_
    rwa [Option.some.inj (hlocked.symm.trans hsession)]

/-- The same for a check of the holder that was read. -/
theorem ensures_routed_of_read {session : Session} (hsession : server'.sessions s = some session)
    (hholder : session.peer_id_holder = some p) {allowed : String → Bool} {code : Nat} {text : String}
    {task : Option String → Async Unit}
    (htask : allowed p = true → session.holder_lock = none →
      Ensures actor (task (some p)) (fun _ after => Routed state server p framed after.sent) ⟨server', []⟩) :
    Ensures actor (read_holder s >>= fun sending_peer =>
        if mismatch sending_peer allowed then send_error s code text else task sending_peer)
      (fun _ after => Routed state server p framed after.sent) ⟨server', []⟩ := by
  by_cases hfree : session.holder_lock = none
  · rw [ensures_read_holder hsession hfree, hholder]
    cases hallowed : allowed p with
    | false =>
      rw [show mismatch (some p) allowed = true by simp [mismatch, hallowed], if_pos rfl]
      exact ensures_routed_of_off_calls (send_error_off_calls _ _) rfl
    | true =>
      rw [show mismatch (some p) allowed = false by simp [mismatch, hallowed], if_neg Bool.false_ne_true]
      exact htask hallowed hfree
  · refine ensures_holder_blocked (.read_holder s) (fun session => (session.peer_id_holder, session))
      (fun _ => rfl) fun locked hlocked => ?_
    rwa [Option.some.inj (hlocked.symm.trans hsession)]

theorem end_call_off_calls (call_id : String) (reason : Option String) : (end_call call_id reason).Uses OffCalls :=
  Task.Uses.perform_bind trivial fun _ => Task.uses_perform.mpr trivial

theorem remove_call_off_calls (call_id : String) : (remove_call call_id).Uses OffCalls :=
  Task.uses_perform.mpr trivial

theorem peer_register_off_calls (payload : wire.Bytes) : (ws_handle_peer_register state s payload).Uses OffCalls := by
  unfold ws_handle_peer_register
  cases state.prost.peer_register payload with
  | none => exact send_error_off_calls _ _
  | some msg =>
    refine Task.Uses.perform_bind trivial fun allowed => ?_
    cases allowed with
    | false => exact send_error_off_calls _ _
    | true =>
      refine Task.Uses.perform_bind trivial fun now => ?_
      refine Task.Uses.perform_bind trivial fun _ => ?_
      refine Task.Uses.perform_bind trivial fun registered => ?_
      cases registered with
      | ok _ => trivial
      | error e => exact send_error_off_calls _ _

theorem peer_unregister_off_calls (payload : wire.Bytes) :
    (ws_handle_peer_unregister state s payload).Uses OffCalls := by
  unfold ws_handle_peer_unregister
  cases state.prost.peer_unregister payload with
  | none => trivial
  | some msg => exact Task.Uses.perform_bind trivial fun _ => Task.uses_perform.mpr trivial

end

end voip_signaling.session
