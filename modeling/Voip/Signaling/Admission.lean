import Voip.Async.Log
import Voip.Async.Outcome
import Voip.Signaling.JwtCorrectness

namespace voip_signaling.jwt

open wire result voip_core.crypto

/-- The subject of claims is read back from their JSON form. -/
def Serde.ReadsSubject (serde : Serde) : Prop :=
  ∀ claims json read, serde.to_string claims = .ok json → serde.from_slice (utf8 json) = .ok read →
    read.sub = claims.sub

/-- A token that was created for a peer is accepted, if at all, as a token of that peer. -/
theorem sub_of_verify_created {serde : Serde} (hserde : serde.ReadsSubject) {ed25519 : Ed25519}
    {signing_key verifying_key : Bytes} {peer_id token : String} {expiry_secs issued now : Nat}
    {claims : JwtClaims}
    (hcreated : create_jwt serde ed25519 signing_key peer_id expiry_secs issued = .ok token)
    (hverify : verify_jwt serde ed25519 verifying_key token now = .ok claims) : claims.sub = peer_id := by
  obtain ⟨payload, sig, sig_bytes, bytes, hsplit, -, -, -, hdecode, hread, -⟩ := verify_jwt_eq_ok.mp hverify
  simp only [create_jwt, bind_eq_ok, mapError_eq_ok] at hcreated
  obtain ⟨json, hjson, htoken⟩ := hcreated
  rw [← Except.ok.inj htoken, splitOn_token (fun c hc => (mem_base64url_encode hc).2)
    (fun c hc => (mem_base64url_encode hc).2)] at hsplit
  obtain ⟨-, rfl, -⟩ : JWT_HEADER.toList = JWT_HEADER.toList ∧ base64url_encode (utf8 json) = payload ∧ _ = sig := by
    simpa using hsplit
  rw [base64url_decode_encode, Except.ok.injEq] at hdecode
  rw [← hdecode] at hread
  exact hserde _ json claims hjson hread

end voip_signaling.jwt

namespace voip_signaling.server

open async lru state session auth handlers error jwt

variable {state : AppState} {sys next : System} {event : Event}

/-- The token of a registration that has just been answered. -/
def returned_token (_ : System) (event : Event) (next : System) : List String :=
  match event with
  | .handler r =>
    match next.requests r with
    | some { task := .done (.ok (.Registered body)), .. } => [body.jwt_token]
    | _ => []
  | _ => []

/-- A step of the server together with all tokens it has returned so far. -/
def issuing_step (state : AppState) : System × List String → Event → Option (System × List String) :=
  logged (step state) returned_token

/-- The token that an event presents. -/
def Event.token : Event → Option String
  | .upgrade _ token => some token
  | .request _ _ authorization => (authorization.bind to_str).bind strip_bearer
  | _ => none

/-- A token that verifies was returned by this server in this run. -/
def presents_returned (state : AppState) (before : System × List String) (event : Event) : Bool :=
  event.token.all fun token =>
    !(verify_jwt state.serde state.ed25519 state.verifying_key token before.1.server.now_secs).toBool ||
      before.2.contains token

/-- A step takes no peer out of the registry. -/
def keeps_peers (before after : System × List String) : Bool :=
  before.1.server.inner.peers.entries.keys.all fun peer_id => after.1.server.inner.peers.contains peer_id

/-- Peers are only added. -/
def Grows (before after : Server) : Prop :=
  ∀ peer_id, before.inner.peers.contains peer_id = true → after.inner.peers.contains peer_id = true

theorem grows_of_keeps_peers {before after : System × List String} (hkeeps : keeps_peers before after = true) :
    Grows before.1.server after.1.server := by
  intro peer_id hpeer
  exact List.all_eq_true.mp hkeeps peer_id (AList.mem_keys.mp (AList.lookup_isSome.mp hpeer))

/-- A token was created for a peer that is registered. -/
def IssuedTo (state : AppState) (server : Server) (token peer_id : String) : Prop :=
  server.inner.peers.contains peer_id = true ∧ ∃ expiry_secs issued,
    create_jwt state.serde state.ed25519 state.signing_key peer_id expiry_secs issued = .ok token

/-- A handler returns a token only for the peer that it has registered. -/
def AnswersIssued (state : AppState) (outcome : Outcome) (server : Server) : Prop :=
  match outcome with
  | .ok (.Registered body) => IssuedTo state server body.jwt_token body.peer_id
  | _ => True

/-- An answer without a token. -/
def Tokenless : Outcome → Prop
  | .ok (.Registered _) => False
  | _ => True

theorem Tokenless.answersIssued {outcome : Outcome} (htokenless : Tokenless outcome) (state : AppState)
    (server : Server) : AnswersIssued state outcome server := by
  unfold AnswersIssued
  split
  next => exact htokenless.elim
  next => trivial

section handlers

variable {actor : Actor} {server : Server}

/-- The end of a registration, once the peer is in the registry. -/
theorem safe_issue {body : RegisterPeerRequest} (hpeer : server.inner.peers.contains body.peer_id = true) :
    Task.Safe (session.exec actor) Grows (fun _ _ => True) (AnswersIssued state)
      (do
        let now ← now_secs
        let expiry_secs := state.config.jwt_expiry_secs
        match create_jwt state.serde state.ed25519 state.signing_key body.peer_id expiry_secs now with
        | .error e => return .error (.Internal e.to_string)
        | .ok jwt_token =>
          return .ok (.Registered { peer_id := body.peer_id, jwt_token, expires_in_secs := expiry_secs }))
      server := by
  refine Task.Safe.perform_bind (I := fun server => server.inner.peers.contains body.peer_id = true)
    (fun _ _ hpeer hgrows => hgrows _ hpeer) hpeer ?_
  rintro before now after hbefore hexec
  cases hexec
  refine ⟨trivial, ?_⟩
  dsimp only
  split
  next => exact fun _ _ => trivial
  next jwt_token hcreated =>
    intro after hgrows
    exact ⟨hgrows _ hbefore, _, _, hcreated⟩

theorem register_peer_safe (body : RegisterPeerRequest) :
    (handlers.register_peer state body).Safe (session.exec actor) Grows (fun _ _ => True) (AnswersIssued state)
      server := by
  unfold handlers.register_peer
  split
  next => exact fun _ _ => trivial
  next =>
    intro before _ allowed after _
    refine ⟨trivial, ?_⟩
    cases allowed with
    | false => exact fun _ _ => trivial
    | true =>
      intro before _ now after _
      refine ⟨trivial, ?_⟩
      intro before _ answer after hexec
      obtain ⟨-, rfl, rfl⟩ := exec_state_eq_some.mp hexec
      refine ⟨trivial, safe_issue ?_⟩
      exact (LruCache.contains_iff _ _).mpr ⟨_, InnerState.peek_register_peer_self _ _⟩

theorem update_peer_tokenless (auth : AuthenticatedPeer) (peer_id : String) (body : RegisterPeerRequest) :
    (update_peer auth peer_id body).Yields (fun _ _ => True) Tokenless := by
  unfold update_peer
  split
  · trivial
  · refine Task.Yields.perform_bind fun found _ => ?_
    cases found with
    | none => trivial
    | some existing =>
      refine Task.Yields.perform_bind fun now _ => Task.Yields.perform_bind fun written _ => ?_
      cases written <;> trivial

theorem unregister_peer_tokenless (auth : AuthenticatedPeer) (peer_id : String) :
    (handlers.unregister_peer auth peer_id).Yields (fun _ _ => True) Tokenless := by
  unfold handlers.unregister_peer
  split
  · trivial
  · refine Task.Yields.perform_bind fun removed _ => ?_
    cases removed <;> trivial

theorem issue_proxy_token_tokenless (peer_id target_peer_id : String) :
    (issue_proxy_token state peer_id target_peer_id).Yields (fun _ _ => True) Tokenless := by
  refine Task.Yields.perform_bind fun peer _ => ?_
  cases peer with
  | none => trivial
  | some _ =>
    refine Task.Yields.perform_bind fun target _ => ?_
    cases target with
    | none => trivial
    | some _ => exact Task.Yields.perform_bind fun issued_at _ => trivial

/-- Every handler returns a token only for the peer that it has registered. -/
theorem handle_safe (auth : AuthenticatedPeer) (endpoint : Endpoint) :
    (handle state auth endpoint).Safe (session.exec actor) Grows (fun _ _ => True) (AnswersIssued state) server := by
  have hsafe {task : Async Outcome} (htokenless : task.Yields (fun _ _ => True) Tokenless) :
      task.Safe (session.exec actor) Grows (fun _ _ => True) (AnswersIssued state) server :=
    (htokenless.safe server).weaken fun outcome after houtcome => houtcome.answersIssued state after
  cases endpoint with
  | register_peer body => exact register_peer_safe body
  | update_peer peer_id body => exact hsafe (update_peer_tokenless auth peer_id body)
  | unregister_peer peer_id => exact hsafe (unregister_peer_tokenless auth peer_id)
  | get_peer peer_id | get_peer_status peer_id | lookup_peer username =>
    refine hsafe (Task.Yields.perform_bind fun found _ => ?_)
    cases found <;> trivial
  | get_proxies | dht_bootstrap => exact hsafe (Task.Yields.perform_bind fun found _ => trivial)
  | issue_proxy_token peer_id target_peer_id => exact hsafe (issue_proxy_token_tokenless peer_id target_peer_id)

end handlers

theorem IssuedTo.grows {server after : Server} {token peer_id : String}
    (hissued : IssuedTo state server token peer_id) (hgrows : Grows server after) :
    IssuedTo state after token peer_id :=
  ⟨hgrows peer_id hissued.1, hissued.2⟩

/-- The invariant behind admission: returned tokens belong to registered peers, and so will those
of pending registrations. -/
structure Issuing (state : AppState) (before : System × List String) : Prop where
  returned : ∀ token ∈ before.2, ∃ peer_id, IssuedTo state before.1.server token peer_id
  pending : ∀ {r pending}, before.1.requests r = some pending →
    pending.task.Safe (exec (.request r)) Grows (fun _ _ => True) (AnswersIssued state) before.1.server

theorem Issuing.init (rate_limits : rate_limit.RateLimitConfig) :
    Issuing state (System.init rate_limits state, []) where
  returned := by simp
  pending := by simp [System.init]

theorem Issuing.pending_step {before : System × List String} (hbefore : Issuing state before)
    (hstep : step state before.1 event = some next) (hgrows : Grows before.1.server next.server) {r : Nat}
    {pending : Pending} (hpending : next.requests r = some pending) :
    pending.task.Safe (exec (.request r)) Grows (fun _ _ => True) (AnswersIssued state) next.server := by
  have hrefl : ∀ server, Grows server server := fun _ _ hpeer => hpeer
  have htrans : ∀ a b c, Grows a b → Grows b c → Grows a c :=
    fun _ _ _ hab hbc peer_id hpeer => hbc peer_id (hab peer_id hpeer)
  obtain hsame | ⟨-, -, -, htask⟩ | ⟨action, resume, answer, -, hrunning, hdone, htask⟩ :=
    requests_of_step hstep hpending
  · exact (hbefore.pending hsame).interfere htrans hgrows
  · rw [htask]
    exact handle_safe pending.auth pending.endpoint
  · rw [htask]
    exact ((hbefore.pending hrunning).step hrefl hdone).2

theorem Issuing.step {before after : System × List String} (hbefore : Issuing state before)
    (hstep : issuing_step state before event = some after) (hkeeps : keeps_peers before after = true) :
    Issuing state after := by
  obtain ⟨hstep, hlog⟩ := logged_eq_some.mp hstep
  have hgrows := grows_of_keeps_peers hkeeps
  refine ⟨fun token htoken => ?_, hbefore.pending_step hstep hgrows⟩
  rw [hlog] at htoken
  obtain hold | hnew := List.mem_append.mp htoken
  · obtain ⟨peer_id, hissued⟩ := hbefore.returned token hold
    exact ⟨peer_id, hissued.grows hgrows⟩
  · unfold returned_token at hnew
    split at hnew
    next r =>
      split at hnew
      next endpoint authorization auth body hdone =>
        rw [List.mem_singleton.mp hnew]
        have hsafe := hbefore.pending_step hstep hgrows hdone
        exact ⟨body.peer_id, hsafe _ fun _ hpeer => hpeer⟩
      next => contradiction
    next => contradiction

/-- The subject of a token that was returned earlier is registered. -/
theorem Issuing.subject {before : System × List String} (hbefore : Issuing state before)
    (hserde : state.serde.ReadsSubject) (hpresents : presents_returned state before event = true)
    {token : String} (htoken : event.token = some token) {claims : JwtClaims}
    (hverify : verify_jwt state.serde state.ed25519 state.verifying_key token before.1.server.now_secs =
      .ok claims) : before.1.server.inner.peers.contains claims.sub = true := by
  have hmem : token ∈ before.2 := by
    simpa [presents_returned, htoken, hverify, Except.toBool] using hpresents
  obtain ⟨peer_id, hpeer, expiry_secs, issued, hcreated⟩ := hbefore.returned token hmem
  rw [sub_of_verify_created hserde hcreated hverify]
  exact hpeer

end voip_signaling.server
