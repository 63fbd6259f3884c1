import Voip.Signaling.JwtCorrectness

namespace voip_signaling.server

open auth jwt wire voip_core.crypto voip_core.proto state error

/-- The handler of a request, with the parameter it takes from the path. -/
inductive Route where
  | swagger_ui
  | openapi
  | register_peer
  | lookup_peer
  | get_peer (peer_id : String)
  | update_peer (peer_id : String)
  | unregister_peer (peer_id : String)
  | get_peer_status (peer_id : String)
  | get_my_ip
  | ws_upgrade
  | get_proxies
  | dht_bootstrap
  | issue_proxy_token
  deriving DecidableEq, Repr

/-- The handlers of one path. -/
structure MethodRouter where
  get : Option Route := none
  post : Option Route := none
  put : Option Route := none
  delete : Option Route := none

/-- A handler for `GET` serves `HEAD` as well. -/
def MethodRouter.dispatch (routes : MethodRouter) : Method → Option Route
  | .GET | .HEAD => routes.get
  | .POST => routes.post
  | .PUT => routes.put
  | .DELETE => routes.delete
  | _ => none

def segments (path : String) : List String := (path.toList.splitOn '/').map String.ofList

/-- The routes of the server. A literal segment goes before a parameter, and a parameter
is not empty. -/
def routes (path : String) : Option MethodRouter :=
  match segments path with
  | "" :: "swagger-ui" :: _ => some { get := some .swagger_ui }
  | ["", "v1", "openapi.json"] => some { get := some .openapi }
  | ["", "v1", "peers"] => some { post := some .register_peer }
  | ["", "v1", "peers", "lookup"] => some { get := some .lookup_peer }
  | ["", "v1", "peers", peer_id] =>
    if peer_id = "" then none
    else some { get := some (.get_peer peer_id), put := some (.update_peer peer_id)
                delete := some (.unregister_peer peer_id) }
  | ["", "v1", "peers", peer_id, "status"] =>
    if peer_id = "" then none else some { get := some (.get_peer_status peer_id) }
  | ["", "v1", "myip"] => some { get := some .get_my_ip }
  | ["", "v1", "ws"] => some { get := some .ws_upgrade }
  | ["", "v1", "proxies"] => some { get := some .get_proxies }
  | ["", "v1", "dht", "bootstrap"] => some { get := some .dht_bootstrap }
  | ["", "v1", "proxy-token"] => some { post := some .issue_proxy_token }
  | _ => none

def router (method : Method) (path : String) : Option Route :=
  (routes path).bind fun routes => routes.dispatch method

/-- The handlers that anyone may call: registration, the observed address, the WebSocket
upgrade and the documentation. -/
def Route.exempt : Route → Bool
  | .register_peer | .get_my_ip | .ws_upgrade | .swagger_ui | .openapi => true
  | _ => false

/-- The middleware decides about a request before its handler runs, and hands the handler
an identity. -/
def serve (state : AppState) (now : Nat) (method : Method) (path : String)
    (authorization : Option Bytes) : Except SignalingError (Option (Route × AuthenticatedPeer)) :=
  (auth_middleware state now path method authorization).map fun auth =>
    (router method path).map fun route => (route, auth)

/-- The first two segments of a path that goes on with a given letter. -/
theorem segments_of_cons {path : String} {c : Char} {rest : List Char} (hc : c ≠ '/')
    (hpath : path.toList = '/' :: c :: rest) :
    ∃ name tail, segments path = "" :: String.ofList (c :: name) :: tail := by
  obtain ⟨name, tail, hsplit⟩ := List.exists_cons_of_ne_nil (List.splitOnP_ne_nil (· == '/') rest)
  refine ⟨name, tail.map String.ofList, ?_⟩
  have hletter : (c == '/') = false := by simpa using hc
  simp [segments, hpath, List.splitOn, List.splitOnP_cons_eq_if_modifyHead, hletter, hsplit]

/-- What a public path looks like to the router. -/
theorem segments_of_is_public_path {path : String} {method : Method}
    (hpublic : is_public_path path method = true) :
    segments path = ["", "v1", "peers"] ∧ method = .POST ∨
    (segments path = ["", "v1", "myip"] ∨ segments path = ["", "v1", "ws"] ∨
      segments path = ["", "v1", "openapi.json"]) ∧ method = .GET ∨
    ∃ name rest, segments path = "" :: name :: rest ∧ name ≠ "v1" := by
  simp only [is_public_path, Bool.or_eq_true, Bool.and_eq_true, decide_eq_true_eq] at hpublic
  obtain (((⟨rfl, rfl⟩ | ⟨rfl, rfl⟩) | ⟨rfl, rfl⟩) | ⟨rfl, rfl⟩) | ⟨hswagger, rfl⟩ := hpublic
  · exact .inl ⟨by decide, rfl⟩
  · exact .inr (.inl ⟨.inl (by decide), rfl⟩)
  · exact .inr (.inl ⟨.inr (.inl (by decide)), rfl⟩)
  · exact .inr (.inl ⟨.inr (.inr (by decide)), rfl⟩)
  · obtain ⟨rest, hrest⟩ := List.isPrefixOf_iff_prefix.mp hswagger
    have hpath : path.toList = '/' :: 's' :: ("wagger-ui".toList ++ rest) := by
      rw [← hrest]
      rfl
    obtain ⟨name, tail, hsegments⟩ := segments_of_cons (by decide) hpath
    refine .inr (.inr ⟨_, tail, hsegments, fun hname => ?_⟩)
    have hletters := congrArg String.toList hname
    simp at hletters

/-- Outside `v1` there is only the documentation. -/
theorem routes_outside_v1 {path name : String} {rest : List String} {routes : MethodRouter}
    (hsegments : segments path = "" :: name :: rest) (hname : name ≠ "v1")
    (hroutes : server.routes path = some routes) : routes = { get := some .swagger_ui } := by
  unfold server.routes at hroutes
  split at hroutes
  next => exact (Option.some.inj hroutes).symm
  case h_12 => cases hroutes
  all_goals
    rename_i hmatch
    rw [hsegments] at hmatch
    exact absurd (List.cons.inj (List.cons.inj hmatch).2).1 hname

/-- No path that leads to another handler than the exempt ones is public. -/
theorem is_public_path_eq_false {path : String} {method : Method} {route : Route}
    (hroute : router method path = some route) (hprotected : route.exempt = false) :
    is_public_path path method = false := by
  by_contra hpublic
  obtain ⟨routes, hroutes, hdispatch⟩ := Option.bind_eq_some_iff.mp hroute
  obtain ⟨hsegments, rfl⟩ | ⟨hsegments, rfl⟩ | ⟨name, rest, hsegments, hname⟩ :=
    segments_of_is_public_path (by simpa using hpublic)
  · rw [server.routes, hsegments] at hroutes
    cases hroutes
    cases hdispatch
    contradiction
  · obtain hsegments | hsegments | hsegments := hsegments <;>
    · rw [server.routes, hsegments] at hroutes
      cases hroutes
      cases hdispatch
      contradiction
  · obtain rfl := routes_outside_v1 hsegments hname hroutes
    cases method <;> cases hdispatch <;> contradiction

/-- The handlers behind the middleware. -/
theorem serve_eq_ok {state : AppState} {now : Nat} {method : Method} {path : String}
    {authorization : Option Bytes} {route : Route} {auth : AuthenticatedPeer} :
    serve state now method path authorization = .ok (some (route, auth)) ↔
      auth_middleware state now path method authorization = .ok auth ∧ router method path = some route := by
  unfold serve
  cases auth_middleware state now path method authorization with
  | error e => simp [Except.map]
  | ok granted =>
    simp [Except.map]
    tauto

theorem peer_id_ne_empty {ed25519 : Ed25519} {peer_id : String} {key : Bytes}
    (hparse : parse_peer_id ed25519 peer_id = .ok key) : peer_id ≠ "" := by
  rintro rfl
  contradiction

/-- Behind the router, every handler but the exempt ones runs only for a token that
verifies, as the subject of that token. The placeholder identity is not used, and no
token of the server has it as its subject. -/
theorem protected_handlers_run_authenticated (state : AppState) (now : Nat) (method : Method)
    (path : String) (authorization : Option Bytes) (route : Route) (auth : AuthenticatedPeer)
    (hserved : serve state now method path authorization = .ok (some (route, auth)))
    (hprotected : route.exempt = false) :
    is_public_path path method = false ∧ Authenticated state now authorization auth.peer_id ∧
      ∀ (issues : List Issue) (proxy_tokens : List signaling.ProxyToken),
        (∀ issue ∈ issues, ∃ key, parse_peer_id state.ed25519 issue.peer_id = .ok key) →
        (∀ issue ∈ issues, state.serde.RoundTrips issue.claims) →
        state.ed25519.Ideal state.signing_key (issues.map (Issue.message state.serde) ++
          proxy_tokens.map signaling.ProxyToken.encode_to_vec) →
        auth.peer_id ≠ "" := by
  obtain ⟨hgranted, hroute⟩ := serve_eq_ok.mp hserved
  have hpublic := is_public_path_eq_false hroute hprotected
  have hauth := (auth_middleware_eq_ok hpublic).mp hgranted
  refine ⟨hpublic, hauth, ?_⟩
  intro issues proxy_tokens hparse hserde hideal
  obtain ⟨value, header, token, claims, -, -, -, hverify, hsub⟩ := hauth
  obtain ⟨issue, hissue, hclaims⟩ := exists_issue_of_verify hserde hideal hverify
  obtain ⟨key, hkey⟩ := hparse issue hissue
  rw [← hsub, hclaims]
  exact peer_id_ne_empty hkey

theorem get_proxies_runs_authenticated_as_alice :
    is_public_path "/v1/proxies" .GET = false ∧
      Authenticated .reference 0 (some (utf8 ("Bearer " ++ AppState.reference_token "alice"))) "alice" := by
  have hserved := protected_handlers_run_authenticated .reference 0 .GET "/v1/proxies"
    (some (utf8 ("Bearer " ++ AppState.reference_token "alice"))) .get_proxies ⟨"alice"⟩
    (serve_eq_ok.mpr ⟨(auth_middleware_eq_ok (by decide)).mpr authenticated_alice, by decide +kernel⟩) rfl
  exact ⟨hserved.1, hserved.2.1⟩

end voip_signaling.server
