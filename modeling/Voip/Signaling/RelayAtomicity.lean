import Voip.Signaling.Delivery
import Voip.Signaling.Reference

namespace voip_signaling.masque

open state session error async voip_core.proto.signaling

section outcome

variable (state : AppState) (server : Server) (call_id caller_id callee_id : String)

/-- What `send_relay_needed` comes to on a snapshot of the server. -/
def relay_outcome : Except SignalingError Unit × List (SessionId × FramedMessage) :=
  match server.inner.proxies.head? with
  | none => (.error .MasqueNoProxy, [])
  | some proxy =>
    let caller_token := sign_proxy_token state caller_id callee_id server.now_secs
    let callee_token := sign_proxy_token state callee_id caller_id server.now_secs
    let first := server.send_outcome caller_id (relay_needed call_id proxy caller_token)
    let second := server.send_outcome callee_id (relay_needed call_id proxy callee_token)
    match first.1 with
    | .error e => (.error e, first.2)
    | .ok () => (second.1, first.2 ++ second.2)

/-- There is a proxy, and of the two peers of a call only the caller can be told so. -/
def OnlyCallerReachable : Prop :=
  server.inner.proxies ≠ [] ∧ server.Reachable caller_id ∧ ¬ server.Reachable callee_id

variable {server caller_id callee_id}

theorem relay_outcome_of_only_caller (honly : OnlyCallerReachable server caller_id callee_id) :
    ∃ e proxy token, (relay_outcome state server call_id caller_id callee_id).1 = .error e ∧
      server.SentTo (relay_outcome state server call_id caller_id callee_id).2 caller_id
        (relay_needed call_id proxy token) := by
  obtain ⟨hproxies, hcaller, hcallee⟩ := honly
  obtain ⟨proxy, proxies, hproxies⟩ := List.exists_cons_of_ne_nil hproxies
  obtain ⟨s, hfirst, hsent⟩ := send_outcome_of_reachable hcaller
    (relay_needed call_id proxy (sign_proxy_token state caller_id callee_id server.now_secs))
  obtain ⟨e, hsecond⟩ := send_outcome_of_unreachable hcallee
    (relay_needed call_id proxy (sign_proxy_token state callee_id caller_id server.now_secs))
  refine ⟨e, proxy, sign_proxy_token state caller_id callee_id server.now_secs, ?_⟩
  simp only [relay_outcome, hproxies, List.head?_cons, hfirst, hsecond, List.append_nil]
  exact ⟨trivial, hsent⟩

/-- Otherwise a failure comes before the first message, and a success after the second. -/
theorem relay_outcome_of_not_only_caller (honly : ¬ OnlyCallerReachable server caller_id callee_id) :
    (∃ e, relay_outcome state server call_id caller_id callee_id = (.error e, [])) ∨
      ∃ proxy caller_token callee_token s s',
        relay_outcome state server call_id caller_id callee_id =
          (.ok (), [(s, relay_needed call_id proxy caller_token),
            (s', relay_needed call_id proxy callee_token)]) ∧
        server.SentTo [(s, relay_needed call_id proxy caller_token)] caller_id
          (relay_needed call_id proxy caller_token) ∧
        server.SentTo [(s', relay_needed call_id proxy callee_token)] callee_id
          (relay_needed call_id proxy callee_token) := by
  cases hproxies : server.inner.proxies with
  | nil => exact .inl ⟨.MasqueNoProxy, by simp [relay_outcome, hproxies]⟩
  | cons proxy proxies =>
    by_cases hcaller : server.Reachable caller_id
    · have hcallee : server.Reachable callee_id := by
        by_contra hcallee
        exact honly ⟨by simp [hproxies], hcaller, hcallee⟩
      obtain ⟨s, hfirst, hsent⟩ := send_outcome_of_reachable hcaller
        (relay_needed call_id proxy (sign_proxy_token state caller_id callee_id server.now_secs))
      obtain ⟨s', hsecond, hsent'⟩ := send_outcome_of_reachable hcallee
        (relay_needed call_id proxy (sign_proxy_token state callee_id caller_id server.now_secs))
      refine .inr ⟨proxy, _, _, s, s', ?_, hsent, hsent'⟩
      simp [relay_outcome, hproxies, hfirst, hsecond]
    · obtain ⟨e, hfirst⟩ := send_outcome_of_unreachable hcaller
        (relay_needed call_id proxy (sign_proxy_token state caller_id callee_id server.now_secs))
      exact .inl ⟨e, by simp [relay_outcome, hproxies, hfirst]⟩

variable {state call_id}

theorem ensures_send_relay_needed {α : Type} {actor : Actor} {post : α → Logged → Prop}
    {sent : List (SessionId × FramedMessage)} {f : Except SignalingError Unit → Async α}
    (hleaves : server.LeavesPeers actor) :
    Ensures actor (send_relay_needed state call_id caller_id callee_id >>= f) post ⟨server, sent⟩ ↔
      Ensures actor (f (relay_outcome state server call_id caller_id callee_id).1) post
        ⟨server, sent ++ (relay_outcome state server call_id caller_id callee_id).2⟩ := by
  simp only [send_relay_needed, select_proxy, bind_assoc, ensures_get_proxies hleaves, pure_bind]
  rw [relay_outcome]
  cases server.inner.proxies.head? with
  | none => simp
  | some proxy =>
    simp only [issue_proxy_token, bind_assoc, pure_bind]
    rw [ensures_now_secs, ensures_now_secs, ensures_send_to_peer hleaves]
    cases (server.send_outcome caller_id (relay_needed call_id proxy
        (sign_proxy_token state caller_id callee_id server.now_secs))).1 with
    | error e => rfl
    | ok _ =>
      dsimp only
      rw [ensures_send_to_peer hleaves, List.append_assoc]

end outcome

end voip_signaling.masque

namespace voip_signaling.session

open state error async voip_core.proto.signaling

variable {state : AppState} {server : Server}

/-- No session is sent a relay message and a retry message. -/
def Unmixed (log : List (SessionId × FramedMessage)) : Prop :=
  ∀ s relay retry, (s, relay) ∈ log → relay.type_id = type_id.MASQUE_RELAY_NEEDED →
    (s, retry) ∈ log → retry.type_id ≠ type_id.PUSH_RETRY

theorem unmixed_of_no_relay {log : List (SessionId × FramedMessage)}
    (hlog : ∀ entry ∈ log, entry.2.type_id ≠ type_id.MASQUE_RELAY_NEEDED) : Unmixed log :=
  fun s relay _ hrelay htype => absurd htype (hlog (s, relay) hrelay)

theorem unmixed_of_no_retry {log : List (SessionId × FramedMessage)}
    (hlog : ∀ entry ∈ log, entry.2.type_id ≠ type_id.PUSH_RETRY) : Unmixed log :=
  fun s _ retry _ _ hretry => hlog (s, retry) hretry

theorem mem_log_send {s : SessionId} {message : FramedMessage} {entry : SessionId × FramedMessage}
    (hentry : entry ∈ server.log_send s message) : entry.2 = message := by
  unfold Server.log_send at hentry
  split at hentry
  · rw [List.mem_singleton.mp hentry]
  · contradiction

theorem mem_send_outcome {peer_id : String} {message : FramedMessage} {entry : SessionId × FramedMessage}
    (hentry : entry ∈ (server.send_outcome peer_id message).2) : entry.2 = message := by
  by_cases hreach : server.Reachable peer_id
  · obtain ⟨s, hsent, -⟩ := send_outcome_of_reachable hreach message
    simp only [hsent, List.mem_singleton] at hentry
    rw [hentry]
  · obtain ⟨e, hsent⟩ := send_outcome_of_unreachable hreach message
    simp [hsent] at hentry

/-- The messages that ask a peer to retry a call. -/
def retry_log (state : AppState) (server : Server) (call_id : String) (call : CallEntry) (reason : Int)
    (other : String) : List (SessionId × FramedMessage) :=
  if state.config.push_retry_max_attempts ≤ call.retry_count then []
  else
    (server.send_outcome other (push.build_push_retry_message call_id call.caller_id call.callee_id reason
      (call.retry_count + 1) (state.config.retry_delay_secs (call.retry_count + 1) * 1000 % 2 ^ 64))).2

/-- The messages of the follow-up of a failed call. -/
def recover_log (state : AppState) (server : Server) (call_id : String) (call : CallEntry) (reason : Int)
    (other : String) : List (SessionId × FramedMessage) :=
  let relay := masque.relay_outcome state server call_id call.caller_id call.callee_id
  let retry := if push.is_retryable_reason reason then retry_log state server call_id call reason other else []
  if reason = 3 ∨ reason = 4 then
    match relay.1 with
    | .ok () => relay.2
    | .error _ => relay.2 ++ retry
  else retry

theorem mem_retry_log {call_id : String} {call : CallEntry} {reason : Int} {other : String}
    {entry : SessionId × FramedMessage} (hentry : entry ∈ retry_log state server call_id call reason other) :
    entry.2.type_id = type_id.PUSH_RETRY := by
  unfold retry_log at hentry
  split at hentry
  · contradiction
  · rw [mem_send_outcome hentry]
    rfl

section ensures

variable {α : Type} {actor : Actor} {post : α → Logged → Prop} {sent : List (SessionId × FramedMessage)}
  {f : Unit → Async α} {call_id : String} {call : CallEntry} {reason : Int} {other : String}

theorem ensures_handle_retryable_failure (hleaves : server.LeavesPeers actor) :
    Ensures actor (push.handle_retryable_failure state call_id call.caller_id call.callee_id reason other
        call.retry_count >>= f) post ⟨server, sent⟩ ↔
      Ensures actor (f ()) post ⟨server, sent ++ retry_log state server call_id call reason other⟩ := by
  rw [push.handle_retryable_failure, retry_log]
  split
  · simp
  · simp only [bind_assoc, pure_bind]
    rw [ensures_send_to_peer hleaves, ensures_get_peer hleaves]

theorem ensures_recover (hleaves : server.LeavesPeers actor) :
    Ensures actor (recover state call_id call reason other >>= f) post ⟨server, sent⟩ ↔
      Ensures actor (f ()) post ⟨server, sent ++ recover_log state server call_id call reason other⟩ := by
  simp only [recover, recover_log]
  by_cases hrelay : reason = 3 ∨ reason = 4
  · simp only [hrelay, if_true, bind_assoc]
    rw [masque.ensures_send_relay_needed hleaves]
    cases (masque.relay_outcome state server call_id call.caller_id call.callee_id).1 with
    | ok _ => simp
    | error e =>
      by_cases hretry : push.is_retryable_reason reason = true
      · simp only [hretry, if_true]
        rw [ensures_handle_retryable_failure hleaves, List.append_assoc]
      · simp [hretry]
  · simp only [hrelay, if_false]
    by_cases hretry : push.is_retryable_reason reason = true
    · simp only [hretry, if_true]
      exact ensures_handle_retryable_failure hleaves
    · simp [hretry]

end ensures

/-- Both participants of a call have been sent a relay message with the same call and proxy,
or neither has been sent one. -/
def AllOrNothing (server : Server) (call_id caller_id callee_id : String) :
    Except SignalingError Unit → Logged → Prop
  | .ok (), after => ∃ proxy caller_token callee_token,
      server.SentTo after.sent caller_id (masque.relay_needed call_id proxy caller_token) ∧
        server.SentTo after.sent callee_id (masque.relay_needed call_id proxy callee_token)
  | .error _, after => ∀ peer_id ∈ [caller_id, callee_id], ∀ message,
      server.SentTo after.sent peer_id message → message.type_id ≠ type_id.MASQUE_RELAY_NEEDED

/-- The coordination of a relay for a call, on its own and as part of the handling of a
failure of that call. -/
structure CoordinatesRelay (state : AppState) (server : Server) (call_id caller_id callee_id : String) :
    Prop where
  all_or_nothing : ∀ actor, server.LeavesPeers actor →
    Ensures actor (masque.send_relay_needed state call_id caller_id callee_id)
      (AllOrNothing server call_id caller_id callee_id) ⟨server, []⟩
  never_both : ∀ s payload msg call, state.prost.call_failed payload = some msg → msg.call_id = call_id →
    server.inner.calls.peek call_id = some call → call.caller_id = caller_id → call.callee_id = callee_id →
    server.LeavesPeers (.receive_loop s) →
    Ensures (.receive_loop s) (ws_handle_call_failed state s payload) (fun _ after => Unmixed after.sent)
      ⟨server, []⟩

section coordination

variable {call_id caller_id callee_id : String}

theorem ensures_send_relay_needed_iff {actor : Actor} {post : Except SignalingError Unit → Logged → Prop}
    (hleaves : server.LeavesPeers actor) :
    Ensures actor (masque.send_relay_needed state call_id caller_id callee_id) post ⟨server, []⟩ ↔
      ∀ after, Steady actor
          ⟨server, (masque.relay_outcome state server call_id caller_id callee_id).2⟩ after →
        post (masque.relay_outcome state server call_id caller_id callee_id).1 after := by
  rw [← bind_pure (masque.send_relay_needed state call_id caller_id callee_id),
    masque.ensures_send_relay_needed hleaves, List.nil_append]
  rfl

theorem not_coordinates_of_only_caller
    (honly : masque.OnlyCallerReachable server caller_id callee_id) :
    ¬ CoordinatesRelay state server call_id caller_id callee_id := by
  intro hcoordinates
  obtain ⟨r, hleaves⟩ := exists_leaves_peers server
  obtain ⟨e, proxy, token, hresult, hsent⟩ :=
    masque.relay_outcome_of_only_caller state call_id honly
  have hpost := (ensures_send_relay_needed_iff hleaves).mp (hcoordinates.all_or_nothing _ hleaves)
    _ (Steady.equivalence.refl _)
  rw [hresult] at hpost
  exact hpost caller_id (by simp) _ hsent rfl

theorem recover_log_unmixed (honly : ¬ masque.OnlyCallerReachable server caller_id callee_id)
    {call : CallEntry} (hcaller : call.caller_id = caller_id) (hcallee : call.callee_id = callee_id)
    (reason : Int) (other : String) :
    (∀ entry ∈ recover_log state server call_id call reason other,
        entry.2.type_id = type_id.MASQUE_RELAY_NEEDED) ∨
      ∀ entry ∈ recover_log state server call_id call reason other,
        entry.2.type_id = type_id.PUSH_RETRY := by
  subst hcaller hcallee
  have hretry : ∀ entry ∈ (if push.is_retryable_reason reason then
      retry_log state server call_id call reason other else []),
      entry.2.type_id = type_id.PUSH_RETRY := by
    intro entry hentry
    split at hentry
    · exact mem_retry_log hentry
    · contradiction
  by_cases hrelay : reason = 3 ∨ reason = 4
  · obtain ⟨e, houtcome⟩ | ⟨proxy, caller_token, callee_token, s, s', houtcome, -⟩ :=
      masque.relay_outcome_of_not_only_caller state call_id honly
    · right
      simpa only [recover_log, hrelay, if_true, houtcome, List.nil_append] using hretry
    · left
      simp [recover_log, hrelay, houtcome, masque.relay_needed]
  · right
    simpa only [recover_log, hrelay, if_false] using hretry

/-- The handling of a failure sends the failure on, and then either relay messages or a retry. -/
theorem call_failed_unmixed (honly : ¬ masque.OnlyCallerReachable server caller_id callee_id) {s : SessionId}
    {payload : wire.Bytes} {msg : CallFailed} {call : CallEntry}
    (hdecoded : state.prost.call_failed payload = some msg)
    (hcall : server.inner.calls.peek msg.call_id = some call) (hcaller : call.caller_id = caller_id)
    (hcallee : call.callee_id = callee_id) (hleaves : server.LeavesPeers (.receive_loop s)) :
    Ensures (.receive_loop s) (ws_handle_call_failed state s payload) (fun _ after => Unmixed after.sent)
      ⟨server, []⟩ := by
  simp only [ws_handle_call_failed, hdecoded]
  rw [ensures_get_call hleaves, hcall]
  refine ensures_of_read_holder fun session _ => ?_
  -- The lookup of the call changes the order of use only.
  generalize hused : ({ server with inner := { server.inner with calls := _ } } : Server) = used
  have hleaves : used.LeavesPeers (.receive_loop s) := hused ▸ hleaves
  have honly : ¬ masque.OnlyCallerReachable used caller_id callee_id := hused ▸ honly
  split
  · rw [← bind_pure (send_error s _ _), ensures_send_error]
    refine ensures_of_silent trivial fun _ after hafter => unmixed_of_no_relay fun entry hentry => ?_
    rw [hafter, List.nil_append] at hentry
    rw [mem_log_send hentry]
    exact (by decide : type_id.ERROR ≠ type_id.MASQUE_RELAY_NEEDED)
  · rw [ensures_send_to_peer hleaves, ensures_recover hleaves]
    refine ensures_of_silent ⟨fun _ => rfl, fun _ => ⟨fun _ => rfl, fun _ => trivial⟩⟩ fun _ after hafter => ?_
    rw [hafter, List.nil_append]
    obtain hrelays | hretries := recover_log_unmixed honly hcaller hcallee msg.reason
      (other_peer call session.peer_id_holder)
    · refine unmixed_of_no_retry fun entry hentry => ?_
      obtain hforward | hrelay := List.mem_append.mp hentry
      · rw [mem_send_outcome hforward]
        exact (by decide : type_id.CALL_FAILED ≠ type_id.PUSH_RETRY)
      · rw [hrelays entry hrelay]
        decide
    · refine unmixed_of_no_relay fun entry hentry => ?_
      obtain hforward | hretry := List.mem_append.mp hentry
      · rw [mem_send_outcome hforward]
        exact (by decide : type_id.CALL_FAILED ≠ type_id.MASQUE_RELAY_NEEDED)
      · rw [hretries entry hretry]
        decide

/-- Relay coordination is all or nothing except when, with a proxy at hand, the caller can be
reached and the callee cannot. -/
theorem coordinates_relay_iff (state : AppState) (server : Server) (call_id caller_id callee_id : String) :
    CoordinatesRelay state server call_id caller_id callee_id ↔
      ¬ masque.OnlyCallerReachable server caller_id callee_id := by
  constructor
  · intro hcoordinates honly
    exact not_coordinates_of_only_caller honly hcoordinates
  · intro honly
    refine ⟨fun actor hleaves => ?_, ?_⟩
    · rw [ensures_send_relay_needed_iff hleaves]
      rintro ⟨after, log⟩ hsteady
      obtain rfl : log = _ := hsteady.sent
      obtain ⟨e, houtcome⟩ | ⟨proxy, caller_token, callee_token, s, s', houtcome, hcaller, hcallee⟩ :=
        masque.relay_outcome_of_not_only_caller state call_id honly
      · rw [houtcome]
        rintro peer_id - message ⟨entry, s, -, -, hmem⟩
        contradiction
      · rw [houtcome]
        exact ⟨proxy, caller_token, callee_token, hcaller.mono (by simp), hcallee.mono (by simp)⟩
    · rintro s payload msg call hdecoded rfl hcall hcaller hcallee hleaves
      exact call_failed_unmixed honly hdecoded hcall hcaller hcallee hleaves

end coordination

end voip_signaling.session

namespace voip_signaling.server

open state session

/-- A caller with an open session is told of the relay although the callee is offline. -/
theorem not_coordinates_relay_with_bob_offline :
    ¬ CoordinatesRelay .reference
      (Server.with_proxy (Server.with_peers [.named "alice" (some 1), .named "bob" none])
        { node_id := "proxy", proxy_url := "https://proxy", capacity := 1, region := "eu"
          latency_hint_ms := 1 })
      "call" "alice" "bob" := by
  apply not_coordinates_of_only_caller
  refine ⟨by simp [Server.with_proxy], ⟨.named "alice" (some 1), 1, by decide +kernel, rfl, rfl⟩, ?_⟩
  rintro ⟨entry, s, hentry, hsender, -⟩
  have hbob : some entry = some (.named "bob" none) := hentry.symm.trans (by decide +kernel)
  cases hbob
  contradiction

end voip_signaling.server
