import Voip.Signaling.Router
import Voip.Signaling.Sequential
import Voip.Wire.Json

/-- The reason phrase of a status code. -/
def http.canonical_reason (status : Nat) : Option String :=
  match status with
  | 200 => some "OK"
  | 201 => some "Created"
  | 204 => some "No Content"
  | 400 => some "Bad Request"
  | 401 => some "Unauthorized"
  | 403 => some "Forbidden"
  | 404 => some "Not Found"
  | 405 => some "Method Not Allowed"
  | 409 => some "Conflict"
  | 429 => some "Too Many Requests"
  | 500 => some "Internal Server Error"
  | 503 => some "Service Unavailable"
  | _ => none

/-- A response as a client sees it. -/
structure http.Response where
  status : Nat
  body : wire.Json

namespace http

/-- How a status code is displayed. -/
def status_text (status : Nat) : String :=
  toString status ++ " " ++ (canonical_reason status).getD "<unknown status code>"

def is_success (status : Nat) : Bool := 200 ≤ status && status < 300

end http

namespace voip_signaling.error

open wire

/-- The HTTP status code for REST responses. -/
def SignalingError.http_status : SignalingError → Nat
  | UnknownPeer _ | PeerOffline _ => 404
  | InvalidCallId _ | InvalidMessage _ => 400
  | CallAlreadyExists _ | PeerAlreadyRegistered _ => 409
  | NotCallParticipant _ => 403
  | RateLimited => 429
  | InvalidJwt _ | Unauthorized _ => 401
  | MasqueNoProxy | MasqueProxyTimeout | MasqueCoordinationFailed => 503
  | ProxyTokenInvalid _ => 400
  | ProxyTokenExpired _ => 401
  | Internal _ => 500

def SignalingError.into_response (error : SignalingError) : http.Response where
  status := error.http_status
  body := .object [("code", .number error.code), ("message", .string error.to_string)]

end voip_signaling.error

namespace voip_signaling.handlers

open state session auth error wire

/-- The body of one proxy, as its structure is serialized. -/
def ProxyEntryResponse.serialize (proxy : ProxyInfo) : Json :=
  .object [("node_id", .string proxy.node_id), ("proxy_url", .string proxy.proxy_url),
    ("capacity", .number proxy.capacity), ("region", .string proxy.region),
    ("latency_hint_ms", .number proxy.latency_hint_ms)]

def PeerResponse.serialize (body : PeerResponse) : Json :=
  .object [("peer_id", .string body.peer_id), ("display_name", .string body.display_name),
    ("ipv6_addresses", .strings body.ipv6_addresses), ("ipv4_reflexive", .strings body.ipv4_reflexive),
    ("nat_type", .string body.nat_type), ("status", .string body.status),
    ("last_seen", .number body.last_seen)]

def Response.into_response : Response → http.Response
  | .Registered body =>
    ⟨201, .object [("peer_id", .string body.peer_id), ("jwt_token", .string body.jwt_token),
      ("expires_in_secs", .number body.expires_in_secs)]⟩
  | .Peer body => ⟨200, body.serialize⟩
  | .NoContent => ⟨204, .null⟩
  | .PeerStatus peer_id status => ⟨200, .object [("peer_id", .string peer_id), ("status", .string status)]⟩
  | .Lookup peer_id display_name status =>
    ⟨200, .object [("peer_id", .string peer_id), ("display_name", .string display_name),
      ("status", .string status)]⟩
  | .Proxies proxies =>
    ⟨200, .object [("proxies", .array (proxies.map ProxyEntryResponse.serialize))]⟩
  | .DhtBootstrap nodes => ⟨200, .object [("nodes", .strings nodes)]⟩
  | .ProxyToken token ttl_seconds =>
    ⟨200, .object [("token", .string (String.ofList token)), ("ttl_seconds", .number ttl_seconds)]⟩

def Outcome.into_response : Outcome → http.Response
  | .ok response => response.into_response
  | .error error => error.into_response

end voip_signaling.handlers

namespace voip_signaling.server

open state session auth error handlers wire async

/-- The handler of a `GET` request and what it takes from the path and the query. The other
routes answer without the shared state. -/
def Route.get_endpoint (username : Option String) : Route → Option Endpoint
  | .lookup_peer => username.map .lookup_peer
  | .get_peer peer_id => some (.get_peer peer_id)
  | .get_peer_status peer_id => some (.get_peer_status peer_id)
  | .get_proxies => some .get_proxies
  | .dht_bootstrap => some .dht_bootstrap
  | _ => none

/-- What the handler of an endpoint answers, when the server does nothing else meanwhile. -/
def respond (state : AppState) (auth : AuthenticatedPeer) (server : Server) (endpoint : Endpoint) :
    Option http.Response :=
  ((handle state auth endpoint).run (exec (.request 0)) server).map fun (outcome, _) => outcome.into_response

/-- What a `GET` request gets from a server that does nothing else meanwhile; nothing when its
handler waits for a lock, and `other` on the routes without shared state. -/
def get (state : AppState) (server : Server) (other : Route → http.Response) (path : String)
    (username : Option String) (authorization : Option Bytes) : Option http.Response :=
  match serve state server.now_secs .GET path authorization with
  | .error error => some error.into_response
  | .ok none => some ⟨404, .null⟩
  | .ok (some (route, auth)) =>
    match route.get_endpoint username with
    | none => some (other route)
    | some endpoint => respond state auth server endpoint

/-- Without an `Authorization` header a protected path is refused, whatever the server holds. -/
theorem get_unauthorized {state : AppState} {server : Server} {other : Route → http.Response} {path : String}
    {username : Option String} (hprotected : is_public_path path .GET = false) :
    get state server other path username none =
      some (SignalingError.Unauthorized "missing Authorization header").into_response := by
  have hserve : serve state server.now_secs .GET path none =
      .error (.Unauthorized "missing Authorization header") := by
    simp [serve, auth_middleware, hprotected, Except.map]
  rw [get, hserve]

theorem respond_get_proxies (state : AppState) (auth : AuthenticatedPeer) (server : Server) :
    respond state auth server .get_proxies =
      some ⟨200, .object [("proxies", .array (server.inner.proxies.map ProxyEntryResponse.serialize))]⟩ :=
  rfl

theorem respond_dht_bootstrap (state : AppState) (auth : AuthenticatedPeer) (server : Server) :
    respond state auth server .dht_bootstrap =
      some ⟨200, .object [("nodes", .strings server.inner.dht_bootstrap)]⟩ :=
  rfl

end voip_signaling.server
