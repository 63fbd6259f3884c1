import Voip.Signaling.Http
import Voip.Core.RecordProto

namespace voip_core.proto.signaling

open wire

/-- The derived reader of a proxy record: every field is required. -/
def ProxyRecord.deserialize (document : Json) : Option ProxyRecord := do
  guard (document.fits 9)
  return {
    node_id := ← document.field? "node_id" 0 Json.toString? none
    proxy_url := ← document.field? "proxy_url" 1 Json.toString? none
    capacity := .ofNat (← document.field? "capacity" 2 (Json.toUnsigned? 32) none)
    region := ← document.field? "region" 3 Json.toString? none
    latency_hint_ms := .ofNat (← document.field? "latency_hint_ms" 4 (Json.toUnsigned? 32) none)
    timestamp := .ofNat (← document.field? "timestamp" 5 (Json.toUnsigned? 64) none)
    ttl_seconds := .ofNat (← document.field? "ttl_seconds" 6 (Json.toUnsigned? 32) none)
    cert_fingerprint := ← document.field? "cert_fingerprint" 7 Json.toString? none
    signature := (← document.field? "signature" 8 (Json.toList? (Json.toUnsigned? 8)) none).map UInt8.ofNat }

end voip_core.proto.signaling

namespace voip_client.signaling_client

open wire voip_core.proto.signaling

inductive ClientError where
  | SignalingError (text : String)
  deriving DecidableEq, Repr

/-- A client with its token. `send` is the connection: it answers a request for a path under
the base URL with the given `Authorization` header, or fails. `serde_error` is what the JSON
reader says about a body that does not fit. -/
structure SignalingHttpClient where
  jwt_token : String
  send : (path authorization : String) → Except String http.Response
  serde_error : Json → String

namespace SignalingHttpClient

/-- The steps that both requests share. The texts name the request in the three errors. -/
def fetch {α : Type} (self : SignalingHttpClient) (path fetching returned decoding : String)
    (decode : Json → Option α) : Except ClientError α :=
  match self.send path ("Bearer " ++ self.jwt_token) with
  | .error e => .error (.SignalingError (fetching ++ ": " ++ e))
  | .ok response =>
    if http.is_success response.status then
      match decode response.body with
      | some value => .ok value
      | none => .error (.SignalingError (decoding ++ ": " ++ self.serde_error response.body))
    else
      .error (.SignalingError (returned ++ " returned " ++ http.status_text response.status ++ ": " ++
        (http.canonical_reason response.status).getD "unknown"))

def get_proxies (self : SignalingHttpClient) : Except ClientError (List ProxyRecord) :=
  self.fetch "/v1/proxies" "proxy fetch" "proxy fetch" "proxy decode" (Json.toList? ProxyRecord.deserialize)

def get_dht_bootstrap (self : SignalingHttpClient) : Except ClientError (List String) :=
  self.fetch "/v1/dht/bootstrap" "DHT bootstrap fetch" "DHT bootstrap" "DHT bootstrap decode"
    (Json.toList? Json.toString?)

/-- A successful response whose body is an object does not decode as a list. -/
theorem fetch_object {α : Type} {self : SignalingHttpClient} {path fetching returned decoding : String}
    (element : Json → Option α) {fields : List (String × Json)}
    (hsend : self.send path ("Bearer " ++ self.jwt_token) = .ok ⟨200, .object fields⟩) :
    self.fetch path fetching returned decoding (Json.toList? element) =
      .error (.SignalingError (decoding ++ ": " ++ self.serde_error (.object fields))) := by
  rw [fetch, hsend]
  rfl

end SignalingHttpClient

open voip_signaling.state voip_signaling.session voip_signaling.auth voip_signaling.handlers voip_signaling.server

/-- A client whose requests pass the middleware of a server, as `auth`, and are routed to its
handlers. -/
def connected (state : AppState) (auth : AuthenticatedPeer) (server : Server) (jwt_token : String)
    (serde_error : Json → String) : SignalingHttpClient where
  jwt_token := jwt_token
  send path _ :=
    match (router .GET path).bind (Route.get_endpoint none) with
    | some endpoint => (respond state auth server endpoint).elim (.error "operation timed out") .ok
    | none => .ok ⟨404, .null⟩
  serde_error := serde_error

/-- The proxies that the client reads are those that the server holds, in their order. -/
def ProxiesAgree (server : Server) (client : SignalingHttpClient) : Prop :=
  ∃ records, client.get_proxies = .ok records ∧
    records.map (fun record => (record.node_id, record.proxy_url, record.capacity.toNat, record.region,
      record.latency_hint_ms.toNat)) =
    server.inner.proxies.map fun proxy => (proxy.node_id, proxy.proxy_url, proxy.capacity, proxy.region,
      proxy.latency_hint_ms)

/-- The bootstrap nodes that the client reads are those that the server holds, in their order. -/
def BootstrapAgrees (server : Server) (client : SignalingHttpClient) : Prop :=
  client.get_dht_bootstrap = .ok server.inner.dht_bootstrap

section

variable (state : AppState) (auth : AuthenticatedPeer) (server : Server) (jwt_token : String)
  (serde_error : Json → String)

/-- The server wraps the list in an object, and the client asks for the bare list. -/
theorem get_proxies_error : ∃ e,
    (connected state auth server jwt_token serde_error).get_proxies = .error e := by
  have hroute : router .GET "/v1/proxies" = some .get_proxies := by decide
  have hsend : (connected state auth server jwt_token serde_error).send "/v1/proxies" ("Bearer " ++ jwt_token) =
      .ok ⟨200, .object [("proxies", .array (server.inner.proxies.map ProxyEntryResponse.serialize))]⟩ := by
    simp only [connected, hroute, Option.bind_some, Route.get_endpoint, respond_get_proxies, Option.elim_some]
  exact ⟨_, SignalingHttpClient.fetch_object ProxyRecord.deserialize hsend⟩

theorem get_dht_bootstrap_error : ∃ e,
    (connected state auth server jwt_token serde_error).get_dht_bootstrap = .error e := by
  have hroute : router .GET "/v1/dht/bootstrap" = some .dht_bootstrap := by decide
  have hsend : (connected state auth server jwt_token serde_error).send "/v1/dht/bootstrap"
      ("Bearer " ++ jwt_token) = .ok ⟨200, .object [("nodes", .strings server.inner.dht_bootstrap)]⟩ := by
    simp only [connected, hroute, Option.bind_some, Route.get_endpoint, respond_dht_bootstrap, Option.elim_some]
  exact ⟨_, SignalingHttpClient.fetch_object Json.toString? hsend⟩

/-- Neither request of the client ever reads what the server holds, not even an empty list. -/
theorem rest_responses_never_agree :
    ¬ProxiesAgree server (connected state auth server jwt_token serde_error) ∧
      ¬BootstrapAgrees server (connected state auth server jwt_token serde_error) := by
  constructor
  · rintro ⟨records, hok, -⟩
    obtain ⟨e, herror⟩ := get_proxies_error state auth server jwt_token serde_error
    rw [herror] at hok
    contradiction
  · intro hok
    obtain ⟨e, herror⟩ := get_dht_bootstrap_error state auth server jwt_token serde_error
    rw [BootstrapAgrees, herror] at hok
    contradiction

end

/-- A server that knows one proxy and one bootstrap node. -/
def relay_server : Server :=
  { System.reference.server with
    inner := { System.reference.server.inner with
      proxies := [{ node_id := "relay", proxy_url := "https://relay.example.com", capacity := 100
                    region := "eu", latency_hint_ms := 20 }]
      dht_bootstrap := ["/ip4/203.0.113.10/udp/4001/quic"] } }

theorem relay_lists_not_decoded :
    let client := connected .reference ⟨"alice"⟩ relay_server (AppState.reference_token "alice") fun _ =>
      "invalid type: map, expected a sequence"
    ¬ProxiesAgree relay_server client ∧ ¬BootstrapAgrees relay_server client := by
  constructor
  · rintro ⟨records, hok, -⟩
    obtain ⟨e, herror⟩ := get_proxies_error .reference ⟨"alice"⟩ relay_server
      (AppState.reference_token "alice") fun _ => "invalid type: map, expected a sequence"
    simp [herror] at hok
  · intro hok
    obtain ⟨e, herror⟩ := get_dht_bootstrap_error .reference ⟨"alice"⟩ relay_server
      (AppState.reference_token "alice") fun _ => "invalid type: map, expected a sequence"
    simp [BootstrapAgrees, herror] at hok

end voip_client.signaling_client
