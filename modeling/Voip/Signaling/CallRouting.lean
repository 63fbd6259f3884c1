import Voip.Signaling.Routing

namespace voip_signaling.session

open state error async voip_core.proto.signaling

section handlers

variable {state : AppState} {server : Server} {p : String} {framed : FramedMessage} {s : SessionId}
  {session : Session}

theorem ensures_routed_request_call {server' : Server} {msg : CallRequest} {now : Nat}
    (hleaves : server'.LeavesPeers (.receive_loop s)) (hpeers : server'.inner.peers = server.inner.peers)
    (hmay : MayForward state server p framed type_id.CALL_REQUEST_SC msg.callee_id) :
    Ensures (.receive_loop s) (request_call s framed.payload msg now)
      (fun _ after => Routed state server p framed after.sent) ⟨server', []⟩ := by
  rw [request_call, ensures_create_call hleaves]
  cases (server'.inner.create_call (new_call msg now)).1 with
  | error e => exact ensures_routed_of_off_calls (send_error_off_calls _ _) rfl
  | ok _ =>
    refine ensures_routed_of_forward ?_ ?_ hmay fun result => ?_
    · exact hleaves
    · exact (create_call_peers _ _).trans hpeers
    · cases result with
      | ok _ => trivial
      | error e => exact (send_error_off_calls _ _).bind fun _ => remove_call_off_calls _

/-- The call that an accepted message is sent on for is the one that was found at first. -/
theorem ensures_routed_accept_call {call_id : String} {call : CallEntry} {server' : Server}
    (hleaves : server'.LeavesPeers (.receive_loop s)) (hpeers : server'.inner.peers = server.inner.peers)
    (hcall : server'.inner.calls.peek call_id = some call)
    (hmay : MayForward state server p framed type_id.CALL_ACCEPT_SC call.caller_id) :
    Ensures (.receive_loop s) (accept_call s call_id framed.payload)
      (fun _ after => Routed state server p framed after.sent) ⟨server', []⟩ := by
  have hfound : server'.inner.calls.contains call_id = true := by
    rw [lru.LruCache.contains, hcall]
    rfl
  rw [accept_call, ensures_update_call_state hleaves]
  simp only [InnerState.update_call_state, InnerState.modify_call, hfound, if_true]
  rw [ensures_get_call]
  · simp only [lru.LruCache.peek_modify, hcall, if_true, Option.map_some]
    refine ensures_routed_of_forward ?_ ?_ hmay fun result => ?_
    · exact hleaves
    · exact hpeers
    · cases result with
      | ok _ => trivial
      | error e => exact send_error_off_calls _ _
  · exact hleaves

theorem mem_relay_outcome {call_id caller_id callee_id : String} {entry : SessionId × FramedMessage}
    (hentry : entry ∈ (masque.relay_outcome state server call_id caller_id callee_id).2) :
    entry.2.type_id = type_id.MASQUE_RELAY_NEEDED := by
  unfold masque.relay_outcome at hentry
  split at hentry
  · contradiction
  · dsimp only at hentry
    split at hentry
    · rw [mem_send_outcome hentry]
      rfl
    · obtain hfirst | hsecond := List.mem_append.mp hentry
      · rw [mem_send_outcome hfirst]
        rfl
      · rw [mem_send_outcome hsecond]
        rfl

/-- The follow-up of a failed call consists of relay and retry messages. -/
theorem forwards_recover_log (call_id : String) (call : CallEntry) (reason : Int) (other : String) :
    forwards (recover_log state server call_id call reason other) = [] := by
  have hrelay : forwards (masque.relay_outcome state server call_id call.caller_id call.callee_id).2 = [] :=
    forwards_eq_nil fun entry hentry => by
      rw [mem_relay_outcome hentry]
      decide
  have hretry : forwards (if push.is_retryable_reason reason then
      retry_log state server call_id call reason other else []) = [] := by
    split
    · refine forwards_eq_nil fun entry hentry => ?_
      rw [mem_retry_log hentry]
      decide
    · rfl
  unfold recover_log
  dsimp only
  split
  · split
    · exact hrelay
    · rw [forwards_append, hrelay, hretry, List.append_nil]
  · exact hretry

/-- A participant's message is for the other participant, except in a call of a peer with itself. -/
theorem other_peer_cases (call : CallEntry) (p : String) :
    is_participant call (other_peer call (some p)) = true ∧ (other_peer call (some p) = p →
      call.caller_id = p ∧ call.callee_id = p) := by
  simp only [is_participant, other_peer, Bool.or_eq_true, decide_eq_true_eq, Option.some.injEq]
  split
  next hcaller => exact ⟨.inr rfl, fun hcallee => ⟨hcaller, hcallee⟩⟩
  next hcaller => exact ⟨.inl rfl, fun hother => absurd hother hcaller⟩

/-- A message to the other participant is routed, if there is one. -/
theorem Routed.of_other {server' : Server} (hpeers : server'.inner.peers = server.inner.peers) {id : UInt16}
    {other : String} (hmay : other ≠ p → MayForward state server p framed id other)
    (hself : other = p → ¬ server'.Reachable p) :
    Routed state server p framed (server'.send_outcome other ⟨id, framed.payload⟩).2 := by
  by_cases hother : other = p
  · obtain ⟨e, hsent⟩ := send_outcome_of_unreachable (hself hother) ⟨id, framed.payload⟩
    rw [hother, hsent]
    exact .of_off_calls rfl
  · exact .of_send_outcome hpeers (hmay hother)

/-- The handler of a participant's message, once the call has been found. -/
theorem ensures_routed_participant {server' : Server} (hleaves : server'.LeavesPeers (.receive_loop s))
    (hsession : server'.sessions s = some session) (hholder : session.peer_id_holder = some p)
    (hpeers : server'.inner.peers = server.inner.peers) {call : CallEntry} {id : UInt16} {code : Nat} {text : String}
    {rest : Option String → Except SignalingError Unit → Async Unit}
    (hmay : ∀ other, is_participant call p = true → is_participant call other = true → other ≠ p →
      MayForward state server p framed id other)
    (hself : session.holder_lock = none → call.caller_id = p → call.callee_id = p → ¬ server'.Reachable p)
    (hrest : ∀ result sent, Ensures (.receive_loop s) (rest (some p) result)
      (fun _ after => forwards after.sent = forwards sent) ⟨server', sent⟩) :
    Ensures (.receive_loop s) (read_holder s >>= fun sending_peer =>
        if mismatch sending_peer (is_participant call) then send_error s code text
        else send_to_peer (other_peer call sending_peer) ⟨id, framed.payload⟩ >>= rest sending_peer)
      (fun _ after => Routed state server p framed after.sent) ⟨server', []⟩ := by
  refine ensures_routed_of_read hsession hholder fun hrole hfree => ?_
  obtain ⟨hother, hsame⟩ := other_peer_cases call p
  have hrouted : Routed state server p framed
      (server'.send_outcome (other_peer call (some p)) ⟨id, framed.payload⟩).2 := by
    refine .of_other hpeers (hmay _ hrole hother) fun heq => ?_
    obtain ⟨hcaller, hcallee⟩ := hsame heq
    exact hself hfree hcaller hcallee
  rw [ensures_send_to_peer hleaves, List.nil_append]
  exact (hrest _ _).weaken fun _ _ hafter => hrouted.of_forwards_eq hafter

variable (hleaves : server.LeavesPeers (.receive_loop s)) (hsession : server.sessions s = some session)
  (hholder : session.peer_id_holder = some p)
include hleaves hsession hholder

theorem ensures_routed_call_request (htype : framed.type_id = type_id.CALL_REQUEST_CS) :
    Ensures (.receive_loop s) (ws_handle_call_request state s framed.payload)
      (fun _ after => Routed state server p framed after.sent) ⟨server, []⟩ := by
  unfold ws_handle_call_request
  cases hmsg : state.prost.call_request framed.payload with
  | none => exact ensures_routed_of_off_calls (send_error_off_calls _ _) rfl
  | some msg =>
    rw [ensures_check_call hleaves]
    split
    · refine ensures_routed_of_lock ?_ hholder fun hrole => ?_
      · exact hsession
      · have hcaller : msg.caller_id = p := (of_decide_eq_true hrole).symm
        rw [ensures_now_secs]
        refine ensures_routed_request_call ?_ ?_ (.request msg htype hmsg hcaller)
        · exact hleaves
        · rfl
    · exact ensures_routed_of_off_calls (send_error_off_calls _ _) rfl

theorem ensures_routed_call_accept (htype : framed.type_id = type_id.CALL_ACCEPT_CS) :
    Ensures (.receive_loop s) (ws_handle_call_accept state s framed.payload)
      (fun _ after => Routed state server p framed after.sent) ⟨server, []⟩ := by
  unfold ws_handle_call_accept
  cases hmsg : state.prost.call_accept framed.payload with
  | none => exact ensures_routed_of_off_calls (send_error_off_calls _ _) rfl
  | some msg =>
    rw [ensures_get_call hleaves]
    cases hcall : server.inner.calls.peek msg.call_id with
    | none => exact ensures_routed_of_off_calls (send_error_off_calls _ _) rfl
    | some call =>
      refine ensures_routed_of_lock ?_ hholder fun hrole => ?_
      · exact hsession
      · have hcallee : call.callee_id = p := (of_decide_eq_true hrole).symm
        refine ensures_routed_accept_call ?_ rfl ?_ (.accept msg call htype hmsg hcall hcallee)
        · exact hleaves
        · rw [lru.LruCache.peek_get, hcall]

theorem ensures_routed_call_reject (htype : framed.type_id = type_id.CALL_REJECT_CS) :
    Ensures (.receive_loop s) (ws_handle_call_reject state s framed.payload)
      (fun _ after => Routed state server p framed after.sent) ⟨server, []⟩ := by
  unfold ws_handle_call_reject
  cases hmsg : state.prost.call_reject framed.payload with
  | none => exact ensures_routed_of_off_calls trivial rfl
  | some msg =>
    rw [ensures_get_call hleaves]
    cases hcall : server.inner.calls.peek msg.call_id with
    | none => exact ensures_routed_of_off_calls (send_error_off_calls _ _) rfl
    | some call =>
      refine ensures_routed_of_lock ?_ hholder fun hrole => ?_
      · exact hsession
      · have hcallee : call.callee_id = p := (of_decide_eq_true hrole).symm
        rw [ensures_end_call]
        · refine ensures_routed_of_forward ?_ ?_ (.reject msg call htype hmsg hcall hcallee)
            fun _ => remove_call_off_calls _
          · exact hleaves
          · exact modify_call_peers _ _ _
        · exact hleaves

theorem ensures_routed_call_failed (htype : framed.type_id = type_id.CALL_FAILED)
    (hechoes : ¬ Echoes state server session p framed) :
    Ensures (.receive_loop s) (ws_handle_call_failed state s framed.payload)
      (fun _ after => Routed state server p framed after.sent) ⟨server, []⟩ := by
  unfold ws_handle_call_failed
  cases hmsg : state.prost.call_failed framed.payload with
  | none => exact ensures_routed_of_off_calls trivial rfl
  | some msg =>
    rw [ensures_get_call hleaves]
    cases hcall : server.inner.calls.peek msg.call_id with
    | none => exact ensures_routed_of_off_calls (send_error_off_calls _ _) rfl
    | some call =>
      refine ensures_routed_participant ?_ ?_ hholder ?_
        (fun other => .failed msg call other htype hmsg hcall) (fun hfree hcaller hcallee hreach => ?_)
        fun result sent => ?_
      · exact hleaves
      · exact hsession
      · rfl
      · exact hechoes ⟨hfree, hreach, call, hcaller, hcallee, .inl ⟨htype, msg, hmsg, hcall⟩⟩
      · rw [ensures_recover]
        · refine ensures_of_off_calls ((end_call_off_calls _ _).bind fun _ => trivial) fun _ after hafter => ?_
          rw [hafter, forwards_append, forwards_recover_log, List.append_nil]
        · exact hleaves

theorem ensures_routed_call_ended (htype : framed.type_id = type_id.CALL_ENDED)
    (hechoes : ¬ Echoes state server session p framed) :
    Ensures (.receive_loop s) (ws_handle_call_ended state s framed.payload)
      (fun _ after => Routed state server p framed after.sent) ⟨server, []⟩ := by
  unfold ws_handle_call_ended
  cases hmsg : state.prost.call_ended framed.payload with
  | none => exact ensures_routed_of_off_calls trivial rfl
  | some msg =>
    rw [ensures_get_call hleaves]
    cases hcall : server.inner.calls.peek msg.call_id with
    | none => exact ensures_routed_of_off_calls (send_error_off_calls _ _) rfl
    | some call =>
      refine ensures_routed_participant ?_ ?_ hholder ?_
        (fun other => .ended msg call other htype hmsg hcall) (fun hfree hcaller hcallee hreach => ?_)
        fun result sent => ?_
      · exact hleaves
      · exact hsession
      · rfl
      · exact hechoes ⟨hfree, hreach, call, hcaller, hcallee, .inr ⟨htype, msg, hmsg, hcall⟩⟩
      · exact ensures_of_off_calls ((end_call_off_calls _ _).bind fun _ => remove_call_off_calls _)
          fun _ _ hafter => hafter

/-- Every message but one about a call of a peer with itself is routed. -/
theorem ensures_routed_dispatch (hechoes : ¬ Echoes state server session p framed) :
    Ensures (.receive_loop s) (dispatch_ws_message state s framed)
      (fun _ after => Routed state server p framed after.sent) ⟨server, []⟩ := by
  unfold dispatch_ws_message
  split
  next => exact ensures_routed_of_off_calls (peer_register_off_calls _) rfl
  next =>
    split
    next => exact ensures_routed_of_off_calls (peer_unregister_off_calls _) rfl
    next =>
      split
      next htype => exact ensures_routed_call_request hleaves hsession hholder htype
      next =>
        split
        next htype => exact ensures_routed_call_accept hleaves hsession hholder htype
        next =>
          split
          next htype => exact ensures_routed_call_reject hleaves hsession hholder htype
          next =>
            split
            next htype => exact ensures_routed_call_failed hleaves hsession hholder htype hechoes
            next =>
              split
              next htype => exact ensures_routed_call_ended hleaves hsession hholder htype hechoes
              next => exact ensures_routed_of_off_calls (send_error_off_calls _ _) rfl

end handlers

section echo

variable {state : AppState} {server : Server} {p : String} {framed : FramedMessage} {s : SessionId}
  {session : Session}

/-- A message about the end of a call between a peer and itself may be forwarded to nobody. -/
theorem Echoes.not_may_forward (hechoes : Echoes state server session p framed) (id : UInt16) (peer_id : String) :
    ¬ MayForward state server p framed id peer_id := by
  obtain ⟨-, -, call, hcaller, hcallee, hmessage⟩ := hechoes
  have hself (other : String) (hother : is_participant call other = true) : other = p := by
    simpa [is_participant, hcaller, hcallee] using hother
  have htypes : framed.type_id ∈ [type_id.CALL_FAILED, type_id.CALL_ENDED] := by
    obtain ⟨htype, -⟩ | ⟨htype, -⟩ := hmessage <;> simp [htype]
  intro hmay
  cases hmay with
  | request msg htype _ _ =>
    rw [htype] at htypes
    exact absurd htypes (by decide)
  | accept msg call htype _ _ _ =>
    rw [htype] at htypes
    exact absurd htypes (by decide)
  | reject msg call htype _ _ _ =>
    rw [htype] at htypes
    exact absurd htypes (by decide)
  | failed msg call' other htype hmsg hcall _ hother hne =>
    obtain ⟨-, msg', hmsg', hcall'⟩ | ⟨htype', -⟩ := hmessage
    · obtain rfl : msg = msg' := Option.some.inj (hmsg.symm.trans hmsg')
      obtain rfl : call' = call := Option.some.inj (hcall.symm.trans hcall')
      exact hne (hself _ hother)
    · exact absurd (htype.symm.trans htype') (by decide)
  | ended msg call' other htype hmsg hcall _ hother hne =>
    obtain ⟨htype', -⟩ | ⟨-, msg', hmsg', hcall'⟩ := hmessage
    · exact absurd (htype.symm.trans htype') (by decide)
    · obtain rfl : msg = msg' := Option.some.inj (hmsg.symm.trans hmsg')
      obtain rfl : call' = call := Option.some.inj (hcall.symm.trans hcall')
      exact hne (hself _ hother)

theorem dispatch_call_failed (htype : framed.type_id = type_id.CALL_FAILED) :
    dispatch_ws_message state s framed = ws_handle_call_failed state s framed.payload := by
  simp +decide only [dispatch_ws_message, htype, if_true, if_false]

theorem dispatch_call_ended (htype : framed.type_id = type_id.CALL_ENDED) :
    dispatch_ws_message state s framed = ws_handle_call_ended state s framed.payload := by
  simp +decide only [dispatch_ws_message, htype, if_true, if_false]

/-- The handler of a participant's message sends it back to a peer that calls itself. -/
theorem forwards_of_self {server' : Server} (hleaves : server'.LeavesPeers (.receive_loop s))
    (hsession : server'.sessions s = some session) (hholder : session.peer_id_holder = some p)
    (hfree : session.holder_lock = none) (hreach : server'.Reachable p) {call : CallEntry}
    (hcaller : call.caller_id = p) (hcallee : call.callee_id = p) {id : UInt16} (hid : id ∈ call_signaling)
    {code : Nat} {text : String} {rest : Option String → Except SignalingError Unit → Async Unit}
    {post : Unit → Logged → Prop}
    (hrest : ∀ result sent, Ensures (.receive_loop s) (rest (some p) result) post ⟨server', sent⟩ →
      ∃ after, post () after ∧ sent ⊆ after.sent)
    (hensures : Ensures (.receive_loop s) (read_holder s >>= fun sending_peer =>
        if mismatch sending_peer (is_participant call) then send_error s code text
        else send_to_peer (other_peer call sending_peer) ⟨id, framed.payload⟩ >>= rest sending_peer)
      post ⟨server', []⟩) :
    ∃ after, post () after ∧ forwards after.sent ≠ [] := by
  have hmatch : mismatch session.peer_id_holder (is_participant call) = false := by
    simp [hholder, mismatch, is_participant, hcaller]
  have hother : other_peer call session.peer_id_holder = p := by simp [hholder, other_peer, hcaller, hcallee]
  obtain ⟨receiver, hsent, -⟩ := send_outcome_of_reachable hreach ⟨id, framed.payload⟩
  rw [ensures_read_holder hsession hfree, hmatch, if_neg Bool.false_ne_true, hother,
    ensures_send_to_peer hleaves, hsent, hholder] at hensures
  obtain ⟨after, hpost, hsub⟩ := hrest _ _ hensures
  have hmem : (receiver, FramedMessage.mk id framed.payload) ∈ forwards after.sent :=
    List.mem_filter.mpr ⟨hsub (List.mem_singleton_self _), by simpa using hid⟩
  exact ⟨after, hpost, List.ne_nil_of_mem hmem⟩

/-- A message about a call of a peer with itself is sent somewhere. -/
theorem Echoes.exists_forwards (hechoes : Echoes state server session p framed)
    (hleaves : server.LeavesPeers (.receive_loop s)) (hsession : server.sessions s = some session)
    (hholder : session.peer_id_holder = some p) {post : Unit → Logged → Prop}
    (hensures : Ensures (.receive_loop s) (dispatch_ws_message state s framed) post ⟨server, []⟩) :
    ∃ after, post () after ∧ forwards after.sent ≠ [] := by
  obtain ⟨hfree, hreach, call, hcaller, hcallee, ⟨htype, msg, hmsg, hcall⟩ | ⟨htype, msg, hmsg, hcall⟩⟩ := hechoes
  · rw [dispatch_call_failed htype, ws_handle_call_failed, hmsg] at hensures
    dsimp only at hensures
    rw [ensures_get_call hleaves, hcall] at hensures
    refine forwards_of_self ?_ ?_ hholder hfree ?_ hcaller hcallee (by decide) (fun result sent hrest => ?_) hensures
    · exact hleaves
    · exact hsession
    · exact hreach
    · rw [ensures_recover] at hrest
      · rw [ensures_end_call] at hrest
        · exact ⟨_, hrest _ (Steady.equivalence.refl _), List.subset_append_left _ _⟩
        · exact hleaves
      · exact hleaves
  · rw [dispatch_call_ended htype, ws_handle_call_ended, hmsg] at hensures
    dsimp only at hensures
    rw [ensures_get_call hleaves, hcall] at hensures
    refine forwards_of_self ?_ ?_ hholder hfree ?_ hcaller hcallee (by decide) (fun result sent hrest => ?_) hensures
    · exact hleaves
    · exact hsession
    · exact hreach
    · rw [ensures_end_call] at hrest
      · rw [← bind_pure (remove_call msg.call_id), ensures_remove_call] at hrest
        · exact ⟨_, hrest _ (Steady.equivalence.refl _), List.Subset.refl _⟩
        · exact hleaves
      · exact hleaves

theorem Echoes.not_ensures_routed (hechoes : Echoes state server session p framed)
    (hleaves : server.LeavesPeers (.receive_loop s)) (hsession : server.sessions s = some session)
    (hholder : session.peer_id_holder = some p) :
    ¬ Ensures (.receive_loop s) (dispatch_ws_message state s framed)
      (fun _ after => Routed state server p framed after.sent) ⟨server, []⟩ := by
  intro hensures
  obtain ⟨after, hrouted, hforwards⟩ := hechoes.exists_forwards hleaves hsession hholder hensures
  obtain ⟨entry, hentry⟩ := List.exists_mem_of_ne_nil _ hforwards
  obtain ⟨peer_id, _, hmay, -⟩ := hrouted.recipient entry hentry
  exact hechoes.not_may_forward _ _ hmay

end echo

/-- The messages about calls that a session's client sends are routed, except that a peer which
calls itself gets its own message about the end of that call back. -/
theorem routes_iff (state : AppState) (server : Server) (s : SessionId) (session : Session) (p : String)
    (framed : FramedMessage) (hsession : server.sessions s = some session)
    (hholder : session.peer_id_holder = some p) (hleaves : server.LeavesPeers (.receive_loop s)) :
    Ensures (.receive_loop s) (dispatch_ws_message state s framed)
        (fun _ after => Routed state server p framed after.sent) ⟨server, []⟩ ↔
      ¬ Echoes state server session p framed := by
  constructor
  · intro hensures hechoes
    exact hechoes.not_ensures_routed hleaves hsession hholder hensures
  · exact ensures_routed_dispatch hleaves hsession hholder

end voip_signaling.session

namespace voip_signaling.server

open state session async wire voip_core.proto.signaling

/-- The server with alice connected as session 1 and bob as session 2, after a request for a call. -/
def Server.in_call (msg : CallRequest) : Server :=
  let server := Server.with_peers [.named "alice" (some 1), .named "bob" (some 2)]
  { server.set_session 1 (Session.new "alice") with inner := (server.inner.create_call (new_call msg 0)).2 }

theorem Server.in_call_leaves_peers (msg : CallRequest) (actor : Actor) : (Server.in_call msg).LeavesPeers actor :=
  fun s => by simp [Server.in_call, Server.with_peers, Server.set_session, System.reference, System.init]

/-- Alice hangs up on bob. -/
theorem routes_end_of_call_to_bob :
    Ensures (.receive_loop 1) (dispatch_ws_message .reference 1 ⟨type_id.CALL_ENDED, proto.string 1 "call"⟩)
      (fun _ after => Routed .reference (Server.in_call ⟨"call", "alice", "bob", 0⟩) "alice"
        ⟨type_id.CALL_ENDED, proto.string 1 "call"⟩ after.sent)
      ⟨Server.in_call ⟨"call", "alice", "bob", 0⟩, []⟩ := by
  refine (routes_iff _ _ 1 (Session.new "alice") "alice" _ rfl rfl (Server.in_call_leaves_peers _ _)).mpr ?_
  rintro ⟨-, -, call, -, hcallee, ⟨htype, -⟩ | ⟨-, msg, hmsg, hcall⟩⟩
  · exact absurd htype (by decide)
  · have hdecoded : some msg = some ⟨"call"⟩ := hmsg.symm.trans (by decide +kernel)
    cases hdecoded
    have hbob : some call = some (new_call ⟨"call", "alice", "bob", 0⟩ 0) := hcall.symm.trans (by decide +kernel)
    cases hbob
    exact absurd hcallee (by decide)

/-- Alice ends a call from alice to alice, and is told so. -/
theorem not_routes_end_of_call_to_self :
    ¬ Ensures (.receive_loop 1) (dispatch_ws_message .reference 1 ⟨type_id.CALL_ENDED, proto.string 1 "call"⟩)
      (fun _ after => Routed .reference (Server.in_call ⟨"call", "alice", "alice", 0⟩) "alice"
        ⟨type_id.CALL_ENDED, proto.string 1 "call"⟩ after.sent)
      ⟨Server.in_call ⟨"call", "alice", "alice", 0⟩, []⟩ := by
  have hechoes : Echoes .reference (Server.in_call ⟨"call", "alice", "alice", 0⟩) (Session.new "alice") "alice"
      ⟨type_id.CALL_ENDED, proto.string 1 "call"⟩ :=
    { unlocked := rfl
      reachable := ⟨.named "alice" (some 1), 1, by decide +kernel, rfl, rfl⟩
      call := ⟨new_call ⟨"call", "alice", "alice", 0⟩ 0, rfl, rfl,
        .inr ⟨rfl, ⟨"call"⟩, by decide +kernel, by decide +kernel⟩⟩ }
  exact hechoes.not_ensures_routed (Server.in_call_leaves_peers _ _) rfl rfl

end voip_signaling.server
