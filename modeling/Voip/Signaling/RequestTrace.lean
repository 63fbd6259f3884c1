import Voip.Signaling.Delivery
import Voip.Signaling.Reference

namespace voip_signaling.session

open state error async lru voip_core.proto.signaling

/-- A session has been sent an error. -/
def AnswersError (s : SessionId) (log : List (SessionId × FramedMessage)) : Prop :=
  ∃ code text, (s, FramedMessage.error code text) ∈ log

/-- A session that has been sent an error finds the calls of the given state in the registry. -/
def SameCalls (server : Server) (s : SessionId) (_ : Unit) (after : Logged) : Prop :=
  AnswersError s after.sent →
    ∀ call_id, after.server.inner.calls.peek call_id = server.inner.calls.peek call_id

/-- If the handler answers a request for a call with an error, then the registry holds the
same calls afterwards. -/
def LeavesNoTrace (state : AppState) (server : Server) (s : SessionId) (payload : wire.Bytes) : Prop :=
  server.LeavesPeers (.receive_loop s) →
    Ensures (.receive_loop s) (ws_handle_call_request state s payload) (SameCalls server s) ⟨server, []⟩

/-- The request is accepted into a full registry of calls, and then fails because the callee
cannot be reached. -/
structure EvictsCall (state : AppState) (server : Server) (s : SessionId) (payload : wire.Bytes)
    (msg : CallRequest) (session : Session) : Prop where
  decoded : state.prost.call_request payload = some msg
  allowed : (server.inner.rate_limiter.check_call msg.caller_id server.instant server.instant).1 = true
  opened : server.sessions s = some session
  unlocked : session.holder_lock = none
  acts_as : mismatch session.peer_id_holder (· = msg.caller_id) = false
  caller : server.inner.peers.contains msg.caller_id = true
  callee : server.inner.peers.contains msg.callee_id = true
  fresh : server.inner.calls.contains msg.call_id = false
  full : server.inner.calls.Full
  unreachable : ¬ server.Reachable msg.callee_id
  answered : (server.channels s).receiver_open = true
  leaves : server.LeavesPeers (.receive_loop s)

section trace

variable {state : AppState} {server : Server} {s : SessionId} {payload : wire.Bytes}

theorem answers_error_log_send (code : Nat) (text : String) (hopen : (server.channels s).receiver_open = true) :
    AnswersError s (server.log_send s (.error code text)) := by
  refine ⟨code, text, ?_⟩
  simp [Server.log_send, hopen]

/-- The end of the handler: send the request on to the callee. -/
def forward_request (s : SessionId) (payload : wire.Bytes) (msg : CallRequest) : Async Unit := do
  match ← send_to_peer msg.callee_id ⟨type_id.CALL_REQUEST_SC, payload⟩ with
  | .ok () => pure ()
  | .error e =>
    send_error s e.code e.to_string
    remove_call msg.call_id

/-- The part of the handler that follows its checks. -/
def request_call (s : SessionId) (payload : wire.Bytes) (msg : CallRequest) (now : Nat) : Async Unit := do
  match ← create_call (new_call msg now) with
  | .error e => send_error s e.code e.to_string
  | .ok () => forward_request s payload msg

/-- Once a call is created, its request fails when the callee cannot be reached, and the call is
removed. -/
theorem ensures_forward_request {post : Unit → Logged → Prop} {sent : List (SessionId × FramedMessage)}
    {msg : CallRequest} (hleaves : server.LeavesPeers (.receive_loop s)) :
    Ensures (.receive_loop s) (forward_request s payload msg) post ⟨server, sent⟩ ↔
      match server.send_outcome msg.callee_id ⟨type_id.CALL_REQUEST_SC, payload⟩ with
      | (.ok (), log) => Ensures (.receive_loop s) (pure ()) post ⟨server, sent ++ log⟩
      | (.error e, log) => Ensures (.receive_loop s) (pure ()) post
          ⟨{ server with inner := server.inner.remove_call msg.call_id },
            sent ++ log ++ server.log_send s (.error e.code e.to_string)⟩ := by
  rw [forward_request, ensures_send_to_peer hleaves]
  obtain ⟨result, log⟩ := server.send_outcome msg.callee_id ⟨type_id.CALL_REQUEST_SC, payload⟩
  cases result with
  | ok _ => rfl
  | error e =>
    dsimp only
    rw [ensures_send_error, ← bind_pure (remove_call msg.call_id), ensures_remove_call hleaves]
    rfl

theorem ensures_same_calls {actor : Actor} {before : Logged} :
    Ensures actor (pure ()) (SameCalls server s) before ↔ SameCalls server s () before := by
  constructor
  · intro hensures
    exact hensures before (Steady.equivalence.refl before)
  · intro hsame after hsteady herror call_id
    rw [hsteady.calls]
    rw [hsteady.sent] at herror
    exact hsame herror call_id

/-- A request that is refused before it is created changes no call. -/
theorem ensures_refused {refused : Server} {actor : Actor} {code : Nat} {text : String}
    (hcalls : refused.inner.calls = server.inner.calls) {sent : List (SessionId × FramedMessage)} :
    Ensures actor (send_error s code text) (SameCalls server s) ⟨refused, sent⟩ := by
  rw [← bind_pure (send_error s code text), ensures_send_error, ensures_same_calls]
  intro _ call_id
  exact congrArg (LruCache.peek · call_id) hcalls

/-- The server after the check of a caller's rate. -/
def Server.rate_checked (server : Server) (peer_id : String) : Server :=
  { server with inner := { server.inner with
      rate_limiter := (server.inner.rate_limiter.check_call peer_id server.instant server.instant).2 } }

theorem ensures_call_request {msg : CallRequest} {session : Session}
    (hdecoded : state.prost.call_request payload = some msg)
    (hallowed : (server.inner.rate_limiter.check_call msg.caller_id server.instant server.instant).1 = true)
    (hsession : server.sessions s = some session) (hfree : session.holder_lock = none)
    (hacts : mismatch session.peer_id_holder (· = msg.caller_id) = false)
    (hleaves : server.LeavesPeers (.receive_loop s)) {post : Unit → Logged → Prop} :
    Ensures (.receive_loop s) (ws_handle_call_request state s payload) post ⟨server, []⟩ ↔
      Ensures (.receive_loop s) (request_call s payload msg server.now_secs) post
        ⟨server.rate_checked msg.caller_id, []⟩ := by
  have hsession' : (server.rate_checked msg.caller_id).sessions s = some session := hsession
  simp only [ws_handle_call_request, hdecoded]
  rw [ensures_check_call hleaves, hallowed, if_pos rfl]
  rw [← Server.rate_checked, ensures_lock_holder hsession' hfree, hacts, if_neg Bool.false_ne_true]
  rw [ensures_unlock_holder hsession' hfree, ensures_now_secs]
  rfl

theorem create_call_eq_ok {inner : InnerState} {call : CallEntry} :
    (inner.create_call call).1 = .ok () ↔ inner.peers.contains call.caller_id = true ∧
      inner.peers.contains call.callee_id = true ∧ inner.calls.contains call.call_id = false := by
  simp only [InnerState.create_call]
  split
  · simp_all
  · split
    · simp_all
    · split <;> simp_all

theorem create_call_of_ok {inner : InnerState} {call : CallEntry} (hok : (inner.create_call call).1 = .ok ()) :
    (inner.create_call call).2 = { inner with calls := inner.calls.put call.call_id call } := by
  obtain ⟨hcaller, hcallee, hfresh⟩ := create_call_eq_ok.mp hok
  simp [InnerState.create_call, hcaller, hcallee, hfresh]

theorem create_call_of_error {inner : InnerState} {call : CallEntry} {e : SignalingError}
    (herror : (inner.create_call call).1 = .error e) : (inner.create_call call).2 = inner := by
  unfold InnerState.create_call at herror ⊢
  split
  · rfl
  · split
    · rfl
    · split
      · rfl
      · simp_all

/-- A call that was created and removed again leaves its traces in a full registry only. -/
theorem peek_put_pop {calls : LruCache String CallEntry} {call_id : String} (call : CallEntry)
    (hfresh : calls.contains call_id = false) :
    (∀ query, ((calls.put call_id call).pop call_id).2.peek query = calls.peek query) ↔ ¬ calls.Full := by
  constructor
  · intro hsame hfull
    obtain ⟨query, hquery, hne, hevicted⟩ := calls.exists_evicted call_id hfull hfresh call
    have hlost := hsame query
    rw [LruCache.peek_pop, if_neg hne, hevicted] at hlost
    simp [LruCache.contains, ← hlost] at hquery
  · intro hroom query
    rw [LruCache.peek_pop, calls.peek_put_of_not_full call_id hroom]
    split
    next hquery =>
      have hnone : calls.peek call_id = none := by simpa [LruCache.contains] using hfresh
      rw [hquery, hnone]
    next => rfl

/-- A request that is created leaves no trace unless the registry was full and the callee
cannot be reached. -/
theorem ensures_request_call (server : Server) {msg : CallRequest} {now : Nat}
    (hleaves : server.LeavesPeers (.receive_loop s))
    (hok : (server.inner.create_call (new_call msg now)).1 = .ok ()) :
    Ensures (.receive_loop s) (request_call s payload msg now) (SameCalls server s) ⟨server, []⟩ ↔
      ¬ (server.inner.calls.Full ∧ ¬ server.Reachable msg.callee_id ∧
        (server.channels s).receiver_open = true) := by
  have hfresh : server.inner.calls.contains msg.call_id = false := (create_call_eq_ok.mp hok).2.2
  rw [request_call, ensures_create_call hleaves, hok]
  dsimp only
  rw [create_call_of_ok hok]
  generalize hcreated : ({ server with inner := { server.inner with calls := _ } } : Server) = created
  have hleaves : created.LeavesPeers (.receive_loop s) := hcreated ▸ hleaves
  -- The new call changes nothing about who can be reached.
  have hsend : created.send_outcome = server.send_outcome := send_outcome_congr (hcreated ▸ rfl) (hcreated ▸ rfl)
  have hlog : created.log_send = server.log_send := hcreated ▸ rfl
  rw [ensures_forward_request hleaves, hsend, hlog]
  by_cases hreach : server.Reachable msg.callee_id
  · obtain ⟨s', houtcome, -⟩ := send_outcome_of_reachable hreach ⟨type_id.CALL_REQUEST_SC, payload⟩
    rw [houtcome]
    simp only [hreach, not_true_eq_false, false_and, and_false, not_false_eq_true, iff_true]
    rw [ensures_same_calls]
    rintro ⟨code, text, hmem⟩
    cases List.mem_singleton.mp hmem
  · obtain ⟨e, houtcome⟩ := send_outcome_of_unreachable hreach ⟨type_id.CALL_REQUEST_SC, payload⟩
    rw [houtcome]
    simp only [hreach, not_false_eq_true, true_and, List.nil_append]
    rw [ensures_same_calls]
    cases hopen : (server.channels s).receiver_open with
    | false =>
      simp [SameCalls, AnswersError, Server.log_send, hopen]
    | true =>
      have herror : AnswersError s (server.log_send s (.error e.code e.to_string)) :=
        answers_error_log_send _ _ hopen
      simp only [and_true]
      rw [← peek_put_pop (new_call msg now) hfresh]
      subst hcreated
      exact ⟨fun hsame => hsame herror, fun hsame _ => hsame⟩

theorem EvictsCall.not_leaves_no_trace {msg : CallRequest} {session : Session}
    (hevicts : EvictsCall state server s payload msg session) : ¬ LeavesNoTrace state server s payload := by
  intro htrace
  have hensures := htrace hevicts.leaves
  rw [ensures_call_request hevicts.decoded hevicts.allowed hevicts.opened hevicts.unlocked hevicts.acts_as
    hevicts.leaves] at hensures
  have hok : ((server.rate_checked msg.caller_id).inner.create_call (new_call msg server.now_secs)).1 = .ok () :=
    create_call_eq_ok.mpr ⟨hevicts.caller, hevicts.callee, hevicts.fresh⟩
  exact (ensures_request_call (server.rate_checked msg.caller_id) hevicts.leaves hok).mp hensures
    ⟨hevicts.full, hevicts.unreachable, hevicts.answered⟩

/-- The cases in which a request passes the check of its rate. -/
theorem ensures_allowed_request {msg : CallRequest}
    (hdecoded : state.prost.call_request payload = some msg)
    (hallowed : (server.inner.rate_limiter.check_call msg.caller_id server.instant server.instant).1 = true)
    (hleaves : server.LeavesPeers (.receive_loop s))
    (hkeeps : ∀ msg session, ¬ EvictsCall state server s payload msg session) :
    Ensures (.receive_loop s) (ws_handle_call_request state s payload) (SameCalls server s) ⟨server, []⟩ := by
  by_cases hfree : ∃ session, server.sessions s = some session ∧ session.holder_lock = none
  · obtain ⟨session, hsession, hfree⟩ := hfree
    cases hacts : mismatch session.peer_id_holder (· = msg.caller_id) with
    | true =>
      have hsession' : (server.rate_checked msg.caller_id).sessions s = some session := hsession
      simp only [ws_handle_call_request, hdecoded]
      rw [ensures_check_call hleaves, hallowed, if_pos rfl]
      rw [← Server.rate_checked, ensures_lock_holder hsession' hfree, hacts, if_pos rfl]
      rw [ensures_send_error, ← bind_pure (unlock_holder s), ensures_unlock_holder hsession' hfree]
      exact ensures_same_calls.mpr fun _ _ => rfl
    | false =>
      rw [ensures_call_request hdecoded hallowed hsession hfree hacts hleaves]
      have hleaves : (server.rate_checked msg.caller_id).LeavesPeers (.receive_loop s) := hleaves
      cases hcreated : ((server.rate_checked msg.caller_id).inner.create_call
          (new_call msg server.now_secs)).1 with
      | error e =>
        rw [request_call, ensures_create_call hleaves, hcreated, create_call_of_error hcreated]
        exact ensures_refused rfl
      | ok _ =>
        refine (ensures_request_call (server.rate_checked msg.caller_id) hleaves hcreated).mpr ?_
        rintro ⟨hfull, hunreachable, hopen⟩
        obtain ⟨hcaller, hcallee, hfresh⟩ := create_call_eq_ok.mp hcreated
        exact hkeeps msg session ⟨hdecoded, hallowed, hsession, hfree, hacts, hcaller, hcallee, hfresh,
          hfull, hunreachable, hopen, hleaves⟩
  · simp only [ws_handle_call_request, hdecoded]
    rw [ensures_check_call hleaves, hallowed, if_pos rfl]
    exact ensures_holder_blocked (.lock_holder s)
      (fun session => (session.peer_id_holder, { session with holder_lock := some (.receive_loop s) }))
      (fun _ => rfl) fun session hsession hlock => hfree ⟨session, hsession, hlock⟩

/-- A failed request leaves no trace, except when it pushed the least recently used call out of a
full registry before the callee turned out to be unreachable. -/
theorem leaves_no_trace_iff (state : AppState) (server : Server) (s : SessionId) (payload : wire.Bytes) :
    LeavesNoTrace state server s payload ↔ ∀ msg session, ¬ EvictsCall state server s payload msg session := by
  constructor
  · intro htrace msg session hevicts
    exact hevicts.not_leaves_no_trace htrace
  · intro hkeeps hleaves
    cases hdecoded : state.prost.call_request payload with
    | none =>
      simp only [ws_handle_call_request, hdecoded]
      exact ensures_refused rfl
    | some msg =>
      cases hallowed : (server.inner.rate_limiter.check_call msg.caller_id server.instant server.instant).1 with
      | false =>
        simp only [ws_handle_call_request, hdecoded]
        rw [ensures_check_call hleaves, hallowed]
        exact ensures_refused rfl
      | true => exact ensures_allowed_request hdecoded hallowed hleaves hkeeps

end trace

end voip_signaling.session

namespace voip_signaling.server

open state session lru wire

/-- A call between two peers that are of no further interest. -/
def other_call (call_id : String) : CallEntry :=
  new_call { call_id, caller_id := "carol", callee_id := "dave", discovery_method := 0 } 0

theorem nodup_call_ids (n : Nat) : ((List.range n).map fun k => String.ofList (List.replicate k 'x')).Nodup := by
  refine List.Nodup.map (fun j k hjk => ?_) List.nodup_range
  have hlength := congrArg (fun text => text.toList.length) hjk
  simpa using hlength

/-- A registry of calls at its capacity. -/
def full_calls (n : Nat) (positive : 0 < n) : LruCache String CallEntry where
  entries :=
    { entries := (List.range n).map fun k =>
        ⟨String.ofList (List.replicate k 'x'), other_call (String.ofList (List.replicate k 'x'))⟩
      nodupKeys := by
        rw [List.NodupKeys, List.keys, List.map_map]
        exact nodup_call_ids n }
  cap := n
  positive := positive
  bounded := by simp

theorem full_full_calls (n : Nat) (positive : 0 < n) : (full_calls n positive).Full := by
  simp [LruCache.Full, LruCache.len, full_calls]

theorem full_calls_fresh (n : Nat) (positive : 0 < n) : (full_calls n positive).contains "call" = false := by
  have hnone : (full_calls n positive).peek "call" = none := by
    refine AList.lookup_eq_none.mpr fun hmem => ?_
    obtain ⟨entry, hentry, hkey⟩ := List.mem_map.mp hmem
    obtain ⟨k, -, rfl⟩ := List.mem_map.mp hentry
    have hchars : List.replicate k 'x' = ['c', 'a', 'l', 'l'] := by
      simpa using congrArg String.toList hkey
    have hc : 'c' ∈ List.replicate k 'x' := by simp [hchars]
    exact absurd (List.eq_of_mem_replicate hc) (by decide)
  simp [LruCache.contains, hnone]

theorem one_call_fits : 0 < 1000 := by decide

/-- The server with alice connected as session 1, bob offline and no room for another call. -/
def Server.busy : Server :=
  let server := Server.with_peers [.named "alice" (some 1), .named "bob" none]
  { server.set_session 1 (Session.new "alice") with
    inner := { server.inner with calls := full_calls 1000 one_call_fits } }

/-- The request of alice for a call to bob is refused, and costs an earlier call its entry. -/
theorem not_leaves_no_trace_when_busy :
    ¬ LeavesNoTrace .reference Server.busy 1
      (proto.string 1 "call" ++ proto.string 2 "alice" ++ proto.string 3 "bob") := by
  have hevicts : EvictsCall .reference Server.busy 1
      (proto.string 1 "call" ++ proto.string 2 "alice" ++ proto.string 3 "bob")
      { call_id := "call", caller_id := "alice", callee_id := "bob", discovery_method := 0 }
      (Session.new "alice") :=
    { decoded := by decide +kernel
      allowed := by decide +kernel
      opened := rfl
      unlocked := rfl
      acts_as := by decide
      caller := by decide +kernel
      callee := by decide +kernel
      fresh := full_calls_fresh 1000 one_call_fits
      full := full_full_calls 1000 one_call_fits
      unreachable := by
        rintro ⟨entry, s, hentry, hsender, -⟩
        have hbob : some entry = some (.named "bob" none) := hentry.symm.trans (by decide +kernel)
        cases hbob
        contradiction
      answered := rfl
      leaves := fun s => by simp [Server.busy, Server.with_peers, Server.set_session, System.reference, System.init] }
  exact hevicts.not_leaves_no_trace

end voip_signaling.server
