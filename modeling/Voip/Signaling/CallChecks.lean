import Voip.Signaling.CallRoles

namespace voip_signaling.session

open async state voip_core.proto.signaling

variable {s : SessionId} {msg : ClientMessage} {c peer_id : String} {server : Server}

section Answers

variable {actor : Actor} {after : Server}

theorem exec_get_call {call_id : String} {found : Option CallEntry}
    (hexec : exec actor (.state (.get_call call_id)) server = some (found, after)) :
    found = server.inner.calls.peek call_id ∧
      ∀ c, after.inner.calls.peek c = server.inner.calls.peek c := by
  obtain ⟨-, hanswer, rfl⟩ := exec_state_eq_some.mp hexec
  exact ⟨hanswer, fun c => lru.LruCache.peek_get ..⟩

theorem exec_create_call {call : CallEntry}
    (hexec : exec actor (.state (.create_call call)) server = some (.ok (), after)) :
    after.inner.calls.peek call.call_id = some call := by
  obtain ⟨-, hanswer, rfl⟩ := exec_state_eq_some.mp hexec
  simp only [Op.run, InnerState.create_call] at hanswer ⊢
  split at hanswer
  next => contradiction
  next hcaller =>
  rw [if_neg hcaller]
  split at hanswer
  next => contradiction
  next hcallee =>
  rw [if_neg hcallee]
  split at hanswer
  next => contradiction
  next hcontains =>
  rw [if_neg hcontains]
  exact lru.LruCache.peek_put_self ..

/-- A session that acts as its peer finds that peer in its holder. -/
theorem Acting.holder_eq (hacting : Acting s peer_id server) {holder : Option String}
    {f : Session → Session} (hwith : server.with_holder s (fun session =>
      (session.peer_id_holder, f session)) = some (holder, after)) : holder = some peer_id := by
  obtain ⟨session, hsession, -, hholder⟩ := hacting
  obtain ⟨session', hsession', -, rfl, -⟩ := Server.with_holder_eq_some hwith
  obtain rfl : session = session' := by simpa [hsession] using hsession'
  exact hholder

end Answers

/-- The assertion between the lookup of a call and its use: the session still acts as
its peer, and the entry has the participants that were found. -/
private def Found (s : SessionId) (c peer_id : String) (call : CallEntry) (server : Server) : Prop :=
  Acting s peer_id server ∧ ∀ entry, server.inner.calls.peek c = some entry → call.SameParticipants entry

private theorem Found.rely {call : CallEntry} {after : Server} (hfound : Found s c peer_id call server)
    (hrely : CallRely s c server after) : Found s c peer_id call after := by
  refine ⟨hrely.1 peer_id hfound.1, fun entry hafter => ?_⟩
  obtain ⟨before, hbefore, hsame⟩ := hrely.2 entry hafter
  have hcall := hfound.2 before hbefore
  exact ⟨hcall.1.trans hsame.1, hcall.2.trans hsame.2⟩

private theorem Found.settled {call : CallEntry} (hfound : Found s c peer_id call server)
    (hrequests : ∀ request, msg ≠ .CallRequest request) (hallowed : msg.Authorizes call peer_id) :
    Settled s msg c peer_id server where
  acting := hfound.1
  requests request hrequest := absurd hrequest (hrequests request)
  entry entry hentry := hallowed.congr (hfound.2 entry hentry)

private theorem Found.observe {call : CallEntry} {action : Action} {answer : action.Answer} {actor : Actor}
    {after : Server} (hfound : Found s c peer_id call server) (hobserves : Observes s action)
    (hexec : exec actor action server = some (answer, after)) : Found s c peer_id call after := by
  refine ⟨hfound.1.exec hobserves.keeps_holder hexec, fun entry hentry => ?_⟩
  obtain hsame | ⟨op, rfl, hop⟩ := exec_calls hexec c
  · exact hfound.2 entry (by rwa [← hsame])
  · exact absurd hop (reads.not_changes_call hobserves)

/-- The two ways in which handlers read the holder: they keep it locked, or they do not. -/
private def Reads (s : SessionId) (reader : Async (Option String)) : Prop :=
  reader = lock_holder s ∨ reader = read_holder s

private theorem Reads.safe {reader : Async (Option String)} (hreader : Reads s reader) {call : CallEntry}
    {next : Option String → Async Unit} (hfound : Found s c peer_id call server)
    (hnext : ∀ after, Found s c peer_id call after → CallSafe s msg c (next (some peer_id)) after) :
    CallSafe s msg c (reader >>= next) server := by
  obtain rfl | rfl := hreader
  · refine Task.Safe.perform_bind (fun _ _ h hrely => h.rely hrely) hfound ?_
    intro before holder after hbefore hexec
    obtain rfl : holder = some peer_id := hbefore.1.holder_eq hexec
    have hobserves : Observes s (.lock_holder s) := rfl
    exact ⟨Allowed.of_observes hobserves, hnext after (hbefore.observe hobserves hexec)⟩
  · refine Task.Safe.perform_bind (fun _ _ h hrely => h.rely hrely) hfound ?_
    intro before holder after hbefore hexec
    obtain rfl : holder = some peer_id := hbefore.1.holder_eq hexec
    have hobserves : Observes s (.read_holder s) := rfl
    exact ⟨Allowed.of_observes hobserves, hnext after (hbefore.observe hobserves hexec)⟩

private theorem Reads.uses {reader : Async (Option String)} (hreader : Reads s reader)
    {P : Action → Prop} {next : Option String → Async Unit} (huses : (reader >>= next).Uses P)
    (holder : Option String) : (next holder).Uses P := by
  obtain rfl | rfl := hreader
  · exact (Task.uses_perform_bind.mp huses).2 holder
  · exact (Task.uses_perform_bind.mp huses).2 holder

/-- The shape of the handlers for a call that exists: look it up, read who the session
acts as, and go on only if that peer has the required role. -/
private theorem checked_call_safe {allowed : CallEntry → String → Bool} {reader : Async (Option String)}
    {missing rejected : Async Unit} {tail : CallEntry → Option String → Async Unit}
    (hreader : Reads s reader)
    (hmissing : missing.Uses (Handles s none)) (hrejected : rejected.Uses (Handles s none))
    (hallowed : ∀ call, allowed call peer_id = true → msg.Authorizes call peer_id)
    (hcall : msg.call_id = some c) (hrequests : ∀ request, msg ≠ .CallRequest request)
    (hacting : Acting s peer_id server)
    (huses : Task.Uses (Handles s (some msg)) (do
      match ← get_call c with
      | none => missing
      | some call =>
        let holder ← reader
        if mismatch holder (allowed call) then rejected else tail call holder)) :
    CallSafe s msg c (do
      match ← get_call c with
      | none => missing
      | some call =>
        let holder ← reader
        if mismatch holder (allowed call) then rejected else tail call holder) server := by
  refine Task.Safe.perform_bind (fun _ _ h hrely => hrely.1 peer_id h) hacting ?_
  intro before found after hbefore hexec
  refine ⟨Allowed.of_observes trivial, ?_⟩
  replace huses := (Task.uses_perform_bind.mp huses).2 found
  obtain ⟨hanswer, hpeek⟩ := exec_get_call hexec
  cases found with
  | none => exact CallSafe.of_observes hmissing
  | some call =>
    have hfound : Found s c peer_id call after := by
      refine ⟨hbefore.exec (by simp) hexec, fun entry hentry => ?_⟩
      rw [hpeek, ← hanswer] at hentry
      cases hentry
      exact ⟨rfl, rfl⟩
    refine hreader.safe hfound fun after hafter => ?_
    replace huses := hreader.uses huses (some peer_id)
    split
    next => exact CallSafe.of_observes hrejected
    next hmatch =>
      rw [if_neg hmatch] at huses
      have hpasses : allowed call peer_id = true := by simpa [mismatch] using hmatch
      exact CallSafe.of_settled hcall huses (hafter.settled hrequests (hallowed call hpasses))

section Handlers

variable {state : AppState} {payload : wire.Bytes}

private theorem send_error_unlock_uses (code : Nat) (text : String) :
    (do send_error s code text; unlock_holder s : Async Unit).Uses (Handles s none) :=
  (send_error_uses _ _).bind fun _ => Task.uses_perform.mpr (.inl rfl)

private theorem ws_handle_call_accept_safe {accept : CallAccept}
    (hdecoded : state.prost.call_accept payload = some accept) (hacting : Acting s peer_id server) :
    CallSafe s (.CallAccept accept) accept.call_id (ws_handle_call_accept state s payload) server := by
  have huses := (Dispatched.CallAccept (s := s) hdecoded).uses
  unfold ws_handle_call_accept at huses ⊢
  rw [hdecoded] at huses ⊢
  exact checked_call_safe (.inl rfl) (send_error_uses _ _) (send_error_unlock_uses _ _)
    (fun call hallowed => by simpa [ClientMessage.Authorizes] using hallowed) rfl (by simp) hacting huses

private theorem ws_handle_call_reject_safe {reject : CallReject}
    (hdecoded : state.prost.call_reject payload = some reject) (hacting : Acting s peer_id server) :
    CallSafe s (.CallReject reject) reject.call_id (ws_handle_call_reject state s payload) server := by
  have huses := (Dispatched.CallReject (s := s) hdecoded).uses
  unfold ws_handle_call_reject at huses ⊢
  rw [hdecoded] at huses ⊢
  exact checked_call_safe (.inl rfl) (send_error_uses _ _) (send_error_unlock_uses _ _)
    (fun call hallowed => by simpa [ClientMessage.Authorizes] using hallowed) rfl (by simp) hacting huses

private theorem participant_of_check {call : CallEntry} (hallowed : is_participant call peer_id = true) :
    peer_id = call.caller_id ∨ peer_id = call.callee_id := by
  simpa [is_participant] using hallowed

private theorem ws_handle_call_failed_safe {failed : CallFailed}
    (hdecoded : state.prost.call_failed payload = some failed) (hacting : Acting s peer_id server) :
    CallSafe s (.CallFailed failed) failed.call_id (ws_handle_call_failed state s payload) server := by
  have huses := (Dispatched.CallFailed (s := s) hdecoded).uses
  unfold ws_handle_call_failed at huses ⊢
  rw [hdecoded] at huses ⊢
  exact checked_call_safe (.inr rfl) (send_error_uses _ _) (send_error_uses _ _)
    (fun call hallowed => participant_of_check hallowed) rfl (by simp) hacting huses

private theorem ws_handle_call_ended_safe {ended : CallEnded}
    (hdecoded : state.prost.call_ended payload = some ended) (hacting : Acting s peer_id server) :
    CallSafe s (.CallEnded ended) ended.call_id (ws_handle_call_ended state s payload) server := by
  have huses := (Dispatched.CallEnded (s := s) hdecoded).uses
  unfold ws_handle_call_ended at huses ⊢
  rw [hdecoded] at huses ⊢
  exact checked_call_safe (.inr rfl) (send_error_uses _ _) (send_error_uses _ _)
    (fun call hallowed => participant_of_check hallowed) rfl (by simp) hacting huses

/-- The rest of a call request once the session is known to be the caller's. -/
private theorem requested_call_safe {request : CallRequest} {now : Nat} {tail : Async Unit}
    (hcaller : peer_id = request.caller_id) (hacting : Acting s peer_id server)
    (htail : tail.Uses (Handles s (some (.CallRequest request)))) :
    CallSafe s (.CallRequest request) request.call_id (do
      match ← create_call (new_call request now) with
      | .error e => send_error s e.code e.to_string
      | .ok () => tail) server := by
  refine Task.Safe.perform_bind (fun _ _ h hrely => hrely.1 peer_id h) hacting ?_
  intro before created after hbefore hexec
  refine ⟨?_, ?_⟩
  · rintro op session call ⟨⟩ hsession rfl
    obtain ⟨session', hsession', hpeer, -⟩ := hbefore
    obtain rfl : session' = session := by simpa [hsession'] using hsession
    exact hpeer.trans hcaller
  · cases created with
    | error e => exact CallSafe.of_observes (send_error_uses _ _)
    | ok _ =>
      have hpeek : after.inner.calls.peek request.call_id = some (new_call request now) :=
        exec_create_call hexec
      refine CallSafe.of_settled rfl htail ⟨hbefore.exec (by simp) hexec, ?_, ?_⟩
      · rintro request' ⟨⟩
        exact hcaller
      · intro call hcall
        obtain rfl : new_call request now = call := by simpa [hpeek] using hcall
        exact hcaller

/-- A call is created only in the name of its caller, and what may be undone later is
the call that was created. -/
private theorem ws_handle_call_request_safe {request : CallRequest}
    (hdecoded : state.prost.call_request payload = some request) (hacting : Acting s peer_id server) :
    CallSafe s (.CallRequest request) request.call_id (ws_handle_call_request state s payload) server := by
  have huses := (Dispatched.CallRequest (s := s) hdecoded).uses
  unfold ws_handle_call_request at huses ⊢
  rw [hdecoded] at huses ⊢
  have hstable : ∀ a b, Acting s peer_id a → CallRely s request.call_id a b → Acting s peer_id b :=
    fun _ _ h hrely => hrely.1 peer_id h
  refine Task.Safe.perform_bind hstable hacting fun before allowed after hbefore hexec => ?_
  refine ⟨Allowed.of_observes trivial, ?_⟩
  replace hacting : Acting s peer_id after := hbefore.exec (by simp) hexec
  replace huses := (Task.uses_perform_bind.mp huses).2 allowed
  cases allowed with
  | false => exact CallSafe.of_observes (send_error_uses _ _)
  | true =>
    refine Task.Safe.perform_bind hstable hacting fun before holder after hbefore hexec => ?_
    refine ⟨Allowed.of_observes rfl, ?_⟩
    obtain rfl : holder = some peer_id := hbefore.holder_eq hexec
    replace hacting : Acting s peer_id after := hbefore.exec (by simp) hexec
    replace huses := (Task.uses_perform_bind.mp huses).2 (some peer_id)
    split
    next => exact CallSafe.of_observes (send_error_unlock_uses _ _)
    next hmatch =>
      rw [if_neg hmatch] at huses
      have hcaller : peer_id = request.caller_id := by simpa [mismatch] using hmatch
      refine Task.Safe.perform_bind hstable hacting fun before _ after hbefore hexec => ?_
      refine ⟨Allowed.of_observes rfl, ?_⟩
      replace hacting : Acting s peer_id after := hbefore.exec (by simp) hexec
      replace huses := (Task.uses_perform_bind.mp huses).2 ()
      refine Task.Safe.perform_bind hstable hacting fun before now after hbefore hexec => ?_
      refine ⟨Allowed.of_observes trivial, ?_⟩
      replace hacting : Acting s peer_id after := hbefore.exec (by simp) hexec
      replace huses := (Task.uses_perform_bind.mp huses).2 now
      exact requested_call_safe hcaller hacting ((Task.uses_perform_bind.mp huses).2 (.ok ()))

end Handlers

/-- A session that acts as its own peer changes only calls in which that peer has the
role that the message requires. -/
theorem dispatch_ws_message_safe {state : AppState} {framed : FramedMessage}
    (hmsg : client_message state framed = some msg) (hcall : msg.call_id = some c)
    (hacting : Acting s peer_id server) :
    CallSafe s msg c (dispatch_ws_message state s framed) server := by
  have hdispatched := dispatch_ws_message_dispatched s hmsg
  generalize dispatch_ws_message state s framed = task at hdispatched ⊢
  cases hdispatched with
  | PeerRegister hdecoded => contradiction
  | PeerUnregister hdecoded => contradiction
  | CallRequest hdecoded =>
    cases hcall
    exact ws_handle_call_request_safe hdecoded hacting
  | CallAccept hdecoded =>
    cases hcall
    exact ws_handle_call_accept_safe hdecoded hacting
  | CallReject hdecoded =>
    cases hcall
    exact ws_handle_call_reject_safe hdecoded hacting
  | CallFailed hdecoded =>
    cases hcall
    exact ws_handle_call_failed_safe hdecoded hacting
  | CallEnded hdecoded =>
    cases hcall
    exact ws_handle_call_ended_safe hdecoded hacting

theorem receive_message_safe {state : AppState} {framed : FramedMessage}
    (hmsg : client_message state framed = some msg) (hcall : msg.call_id = some c)
    (hacting : Acting s peer_id server) :
    CallSafe s msg c (receive_message state s framed) server := by
  have hstable : ∀ a b, Acting s peer_id a → CallRely s c a b → Acting s peer_id b :=
    fun _ _ h hrely => hrely.1 peer_id h
  refine Task.Safe.perform_bind hstable hacting fun before holder after hbefore hexec => ?_
  refine ⟨Allowed.of_observes rfl, ?_⟩
  replace hacting : Acting s peer_id after := hbefore.exec (by simp) hexec
  cases holder with
  | none => exact dispatch_ws_message_safe hmsg hcall hacting
  | some holder =>
    refine Task.Safe.perform_bind hstable hacting fun before allowed after hbefore hexec => ?_
    refine ⟨Allowed.of_observes trivial, ?_⟩
    replace hacting : Acting s peer_id after := hbefore.exec (by simp) hexec
    cases allowed with
    | false => exact CallSafe.of_observes (send_error_uses _ _)
    | true => exact dispatch_ws_message_safe hmsg hcall hacting

end voip_signaling.session
