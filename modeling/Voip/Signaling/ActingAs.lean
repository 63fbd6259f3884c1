import Voip.Signaling.Reference
import Voip.Signaling.Snapshot

namespace voip_signaling.auth

open state wire

/-- A token has one subject. -/
theorem Authenticated.unique {state : AppState} {now : Nat} {authorization : Option Bytes}
    {first second : String} (hfirst : Authenticated state now authorization first)
    (hsecond : Authenticated state now authorization second) : first = second := by
  obtain ⟨value, header, token, claims, rfl, hheader, htoken, hverify, rfl⟩ := hfirst
  obtain ⟨value', header', token', claims', hvalue, hheader', htoken', hverify', rfl⟩ := hsecond
  simp_all

end voip_signaling.auth

namespace voip_signaling.handlers

open state session auth wire async lru

/-- The peer in whose name a request acts. -/
def Endpoint.acts_as : Endpoint → Option String
  | .update_peer peer_id _ | .unregister_peer peer_id | .issue_proxy_token peer_id _ => some peer_id
  | _ => none

/-- A request acts in the name of a peer only with a token whose subject is that peer: once past
the middleware its handler, however long it waits for the locks, has no success otherwise. -/
def ActsWithAuthority (state : AppState) (server : Server) (endpoint : Endpoint)
    (authorization : Option Bytes) : Prop :=
  ∀ r peer_id auth, endpoint.acts_as = some peer_id → server.LeavesPeers (.request r) →
    auth_middleware state server.now_secs endpoint.path endpoint.method authorization = .ok auth →
    Ensures (.request r) (handle state auth endpoint)
      (fun outcome _ => outcome.isOk = true → Authenticated state server.now_secs authorization peer_id)
      ⟨server, []⟩

theorem is_public_path_of_acts_as {endpoint : Endpoint} {peer_id : String}
    (hacts : endpoint.acts_as = some peer_id) : is_public_path endpoint.path endpoint.method = false := by
  cases endpoint with
  | update_peer | unregister_peer => simp [is_public_path, Endpoint.method]
  | issue_proxy_token => exact (by decide : is_public_path "/v1/proxy-token" .POST = false)
  | _ => contradiction

section outcomes

variable {state : AppState} {actor : Actor} {server : Server} {sent : List (SessionId × FramedMessage)}
  {needed : Prop}

/-- Updates and deletions of another peer are refused. -/
theorem ensures_update_peer {auth : AuthenticatedPeer} {peer_id : String} (hother : auth.peer_id ≠ peer_id)
    (body : RegisterPeerRequest) :
    Ensures actor (update_peer auth peer_id body) (fun outcome _ => outcome.isOk = true → needed)
      ⟨server, sent⟩ := by
  rw [update_peer, if_pos hother, ensures_pure]
  exact fun hok => absurd hok Bool.false_ne_true

theorem ensures_unregister_peer {auth : AuthenticatedPeer} {peer_id : String} (hother : auth.peer_id ≠ peer_id) :
    Ensures actor (unregister_peer auth peer_id) (fun outcome _ => outcome.isOk = true → needed)
      ⟨server, sent⟩ := by
  rw [unregister_peer, if_pos hother, ensures_pure]
  exact fun hok => absurd hok Bool.false_ne_true

/-- The handler of proxy tokens succeeds exactly when both peers are registered. -/
theorem ensures_issue_proxy_token (hleaves : server.LeavesPeers actor) {peer_id target_peer_id : String} :
    Ensures actor (issue_proxy_token state peer_id target_peer_id)
        (fun outcome _ => outcome.isOk = true → needed) ⟨server, sent⟩ ↔
      (server.inner.peers.contains peer_id = true → server.inner.peers.contains target_peer_id = true →
        needed) := by
  rw [issue_proxy_token, ensures_get_peer hleaves]
  cases hpeer : server.inner.peers.peek peer_id with
  | none =>
    simp only [Option.map_none]
    rw [ensures_pure]
    simp [LruCache.contains, hpeer, Except.isOk, Except.toBool]
  | some entry =>
    simp only [Option.map_some]
    rw [ensures_get_peer hleaves]
    cases htarget : server.inner.peers.peek target_peer_id with
    | none =>
      simp only [Option.map_none]
      rw [ensures_pure]
      simp [LruCache.contains, htarget, Except.isOk, Except.toBool]
    | some target =>
      simp only [Option.map_some]
      rw [ensures_now_secs, ensures_pure]
      simp [LruCache.contains, hpeer, htarget, Except.isOk, Except.toBool]

end outcomes

/-- A request for a proxy token names the subject of its token as the peer, or fails: its
token does not verify, or one of the two peers is not registered. -/
def TokenForSubject (state : AppState) (server : Server) (endpoint : Endpoint)
    (authorization : Option Bytes) : Prop :=
  ∀ peer_id target_peer_id, endpoint = .issue_proxy_token peer_id target_peer_id →
    server.inner.peers.contains peer_id = true → server.inner.peers.contains target_peer_id = true →
    ∀ subject, Authenticated state server.now_secs authorization subject → subject = peer_id

/-- Updates and deletions always act with authority. A proxy token is issued for whatever
peer the request names. -/
theorem acts_with_authority_iff (state : AppState) (server : Server) (endpoint : Endpoint)
    (authorization : Option Bytes) :
    ActsWithAuthority state server endpoint authorization ↔
      TokenForSubject state server endpoint authorization := by
  constructor
  · rintro hacts peer_id target_peer_id rfl hpeer htarget subject hsubject
    obtain ⟨r, hleaves⟩ := exists_leaves_peers server
    have hpublic : is_public_path (Endpoint.issue_proxy_token peer_id target_peer_id).path
        (Endpoint.issue_proxy_token peer_id target_peer_id).method = false := is_public_path_of_acts_as rfl
    have hgranted : auth_middleware state server.now_secs _ _ authorization = .ok ⟨subject⟩ :=
      (auth_middleware_eq_ok hpublic).mpr hsubject
    have hensures := hacts r peer_id ⟨subject⟩ rfl hleaves hgranted
    exact hsubject.unique ((ensures_issue_proxy_token hleaves).mp hensures hpeer htarget)
  · intro htoken r peer_id auth hacts hleaves hgranted
    have hauth := (auth_middleware_eq_ok (is_public_path_of_acts_as hacts)).mp hgranted
    by_cases hsame : auth.peer_id = peer_id
    · exact ensures_of_forall fun _ _ _ => hsame ▸ hauth
    · cases endpoint with
      | update_peer named body =>
        cases hacts
        exact ensures_update_peer hsame body
      | unregister_peer named =>
        cases hacts
        exact ensures_unregister_peer hsame
      | issue_proxy_token named target_peer_id =>
        cases hacts
        refine (ensures_issue_proxy_token hleaves).mpr fun hpeer htarget => ?_
        exact absurd (htoken _ _ rfl hpeer htarget _ hauth) hsame
      | _ => contradiction

/-- The token of alice is enough for a proxy token in the name of bob. -/
theorem not_acts_with_authority_of_alice :
    ¬ActsWithAuthority .reference (server.Server.with_peers [.named "alice" none, .named "bob" none])
      (.issue_proxy_token "bob" "alice") (some (utf8 ("Bearer " ++ AppState.reference_token "alice"))) := by
  intro hacts
  have hgranted : auth_middleware .reference 0 "/v1/proxy-token" .POST
      (some (utf8 ("Bearer " ++ AppState.reference_token "alice"))) = .ok ⟨"alice"⟩ :=
    (auth_middleware_eq_ok (by decide)).mpr server.authenticated_alice
  have hleaves : (server.Server.with_peers [.named "alice" none, .named "bob" none]).LeavesPeers (.request 0) :=
    fun _ => nofun
  have hensures := hacts 0 "bob" ⟨"alice"⟩ rfl hleaves hgranted
  have hbob := (ensures_issue_proxy_token hleaves).mp hensures rfl rfl
  exact absurd (server.authenticated_alice.unique hbob) (by decide)

end voip_signaling.handlers
