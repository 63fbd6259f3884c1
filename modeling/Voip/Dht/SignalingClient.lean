import Voip.Dht.Discovery
import Voip.Signaling.Http

namespace voip_dht.discovery.rest

open wire error record

/-- Response from `GET /v1/peers/{peer_id}`. -/
structure PeerResponse where
  peer_id : String
  display_name : String
  ipv6_addresses : List String
  ipv4_reflexive : List String
  nat_type : String
  status : String
  last_seen : Nat

/-- Response from `GET /v1/peers/lookup?username={name}`. -/
structure LookupResponse where
  peer_id : String
  display_name : String
  status : String

/-- A single proxy entry in the proxies response. -/
structure ProxyEntry where
  node_id : String
  proxy_url : String
  capacity : UInt32
  region : String
  latency_hint_ms : UInt32

def PeerResponse.deserialize (document : Json) : Option PeerResponse := do
  guard (document.fits 7)
  return {
    peer_id := ← document.field? "peer_id" 0 Json.toString? none
    display_name := ← document.field? "display_name" 1 Json.toString? none
    ipv6_addresses := ← document.field? "ipv6_addresses" 2 (Json.toList? Json.toString?) (some [])
    ipv4_reflexive := ← document.field? "ipv4_reflexive" 3 (Json.toList? Json.toString?) (some [])
    nat_type := ← document.field? "nat_type" 4 Json.toString? (some "")
    status := ← document.field? "status" 5 Json.toString? (some "")
    last_seen := ← document.field? "last_seen" 6 (Json.toUnsigned? 64) (some 0) }

def LookupResponse.deserialize (document : Json) : Option LookupResponse := do
  guard (document.fits 3)
  return {
    peer_id := ← document.field? "peer_id" 0 Json.toString? none
    display_name := ← document.field? "display_name" 1 Json.toString? none
    status := ← document.field? "status" 2 Json.toString? none }

def ProxyEntry.deserialize (document : Json) : Option ProxyEntry := do
  guard (document.fits 5)
  return {
    node_id := ← document.field? "node_id" 0 Json.toString? none
    proxy_url := ← document.field? "proxy_url" 1 Json.toString? none
    capacity := .ofNat (← document.field? "capacity" 2 (Json.toUnsigned? 32) (some 0))
    region := ← document.field? "region" 3 Json.toString? none
    latency_hint_ms := .ofNat (← document.field? "latency_hint_ms" 4 (Json.toUnsigned? 32) (some 0)) }

def ProxiesResponse.deserialize (document : Json) : Option (List ProxyEntry) := do
  guard (document.fits 1)
  document.field? "proxies" 0 (Json.toList? ProxyEntry.deserialize) none

def DhtBootstrapResponse.deserialize (document : Json) : Option (List String) := do
  guard (document.fits 1)
  document.field? "nodes" 0 (Json.toList? Json.toString?) none

/-- The client that asks the signaling server. `send` is its connection to the origin: a `GET`
request for a path, with the user name of the query if there is one, and no other header.
`to_lowercase` and the text of a decoding error come from the libraries, `now_secs` is the clock. -/
structure SignalingClient where
  send : (path : String) → (username : Option String) → Except String http.Response
  to_lowercase : String → String
  serde_error : Json → String
  now_secs : UInt64

namespace SignalingClient

/-- The steps that the four lookups share. `missing` is the error for a response `404` where
there is one of its own; the two texts name the lookup in the errors. -/
def fetch {α : Type} (self : SignalingClient) (path : String) (username : Option String)
    (missing : Option DhtError) (lookup response : String) (decode : Json → Option α) :
    Except DhtError α :=
  match self.send path username with
  | .error e => .error (.Http ("Failed to connect to signaling server: " ++ e))
  | .ok answer =>
    match if answer.status = 404 then missing else none with
    | some error => .error error
    | none =>
      if http.is_success answer.status then
        match decode answer.body with
        | some value => .ok value
        | none =>
          .error (.Serialization ("Failed to parse signaling server " ++ response ++ " response: " ++
            self.serde_error answer.body))
      else
        .error (.Http ("Signaling server returned " ++ http.status_text answer.status ++ " for " ++ lookup))

/-- The status that a text of the server stands for. -/
def peer_status (text : String) : PeerStatus :=
  if text = "online" then .Online else if text = "in_call" then .InCall else .Offline

/-- The NAT type that a text of the server stands for. -/
def nat_type (text : String) : Option NatType :=
  if text = "cone" then some .Cone
  else if text = "symmetric_sequential" ∨ text = "symmetricsequential" then some .SymmetricSequential
  else if text = "symmetric_pseudo" ∨ text = "symmetricpseudo" then some .SymmetricPseudo
  else if text = "symmetric_random" ∨ text = "symmetricrandom" then some .SymmetricRandom
  else none

def lookup_peer (self : SignalingClient) (peer_id : String) : Except DhtError PeerRecord := do
  let peer_resp ← self.fetch ("/v1/peers/" ++ peer_id) none (some (.NotFound ("signaling:peer:" ++ peer_id)))
    "peer lookup" "peer" PeerResponse.deserialize
  return {
    peer_id := peer_resp.peer_id
    display_name := peer_resp.display_name
    ipv6_addresses := peer_resp.ipv6_addresses
    ipv4_reflexive := peer_resp.ipv4_reflexive
    nat_info := (nat_type (self.to_lowercase peer_resp.nat_type)).map fun nat_type =>
      { nat_type, prediction := none }
    tracks := []
    status := peer_status (self.to_lowercase peer_resp.status)
    timestamp := self.now_secs
    ttl_seconds := 3600
    signature := [] }

def lookup_username (self : SignalingClient) (username : String) : Except DhtError String := do
  let lookup_resp ← self.fetch "/v1/peers/lookup" (some username) (some (.UsernameNotFound username))
    "username lookup" "lookup" LookupResponse.deserialize
  return lookup_resp.peer_id

def get_proxies (self : SignalingClient) : Except DhtError (List ProxyRecord) := do
  let proxies ← self.fetch "/v1/proxies" none none "proxy lookup" "proxies" ProxiesResponse.deserialize
  return proxies.map fun entry => {
    node_id := entry.node_id
    proxy_url := entry.proxy_url
    capacity := entry.capacity
    region := entry.region
    latency_hint_ms := entry.latency_hint_ms
    timestamp := self.now_secs
    ttl_seconds := 3600
    cert_fingerprint := ""
    signature := [] }

def get_bootstrap_nodes (self : SignalingClient) : Except DhtError (List String) :=
  self.fetch "/v1/dht/bootstrap" none none "bootstrap node lookup" "bootstrap" DhtBootstrapResponse.deserialize

/-- A response that is neither a success nor `404` is reported with its status. -/
theorem fetch_refused {α : Type} {self : SignalingClient} {path : String} {username : Option String}
    {missing : Option DhtError} {lookup response : String} {decode : Json → Option α}
    {answer : http.Response} (hsend : self.send path username = .ok answer)
    (hfound : answer.status ≠ 404) (hrefused : http.is_success answer.status = false) :
    self.fetch path username missing lookup response decode =
      .error (.Http ("Signaling server returned " ++ http.status_text answer.status ++ " for " ++ lookup)) := by
  simp [fetch, hsend, hfound, hrefused]

end SignalingClient

open voip_signaling.state voip_signaling.session voip_signaling.error voip_signaling.auth voip_signaling.handlers
  voip_signaling.server

section

variable (state : AppState) (server : Server) (other : Route → http.Response) (to_lowercase : String → String)
  (serde_error : Json → String) (now_secs : UInt64)

/-- A client whose requests go through the middleware and the router of a server. -/
def connected : SignalingClient where
  send path username := (get state server other path username none).elim (.error "operation timed out") .ok
  to_lowercase := to_lowercase
  serde_error := serde_error
  now_secs := now_secs

/-- The peer of that id is found with the data of its entry; no NAT is the default. -/
def FindsPeer (client : SignalingClient) (peer_id : String) : Prop :=
  ∃ entry record, server.inner.peers.peek peer_id = some entry ∧ client.lookup_peer peer_id = .ok record ∧
    record.peer_id = entry.info.peer_id ∧ record.display_name = entry.info.display_name ∧
    record.ipv6_addresses = entry.info.ipv6_addresses ∧ record.ipv4_reflexive = entry.info.ipv4_reflexive ∧
    ((record.nat_info.map NatInfo.nat_type).getD .None).to_proto.as_i32.toInt = entry.info.nat_type ∧
    record.status.to_proto.as_i32.toInt = entry.info.status

/-- The id of a peer of that name is found. -/
def FindsUsername (client : SignalingClient) (username : String) : Prop :=
  ∃ peer_id entry, client.lookup_username username = .ok peer_id ∧
    server.inner.peers.peek peer_id = some entry ∧
    state.to_lowercase entry.info.display_name = state.to_lowercase username

/-- The stored proxies are found, in their order. -/
def FindsProxies (client : SignalingClient) : Prop :=
  ∃ records, client.get_proxies = .ok records ∧
    records.map (fun record => (record.node_id, record.proxy_url, record.capacity.toNat, record.region,
      record.latency_hint_ms.toNat)) =
    server.inner.proxies.map fun proxy => (proxy.node_id, proxy.proxy_url, proxy.capacity, proxy.region,
      proxy.latency_hint_ms)

/-- The stored bootstrap nodes are found, in their order. -/
def FindsBootstrapNodes (client : SignalingClient) : Prop :=
  client.get_bootstrap_nodes = .ok server.inner.dht_bootstrap

/-- The client sends no token, so that a protected path answers `401`. -/
theorem fetch_unauthorized {α : Type} {path : String} (hprotected : is_public_path path .GET = false)
    (username : Option String) (missing : Option DhtError) (lookup response : String) (decode : Json → Option α) :
    (connected state server other to_lowercase serde_error now_secs).fetch path username missing lookup response
      decode = .error (.Http ("Signaling server returned 401 Unauthorized for " ++ lookup)) := by
  have hsend : (connected state server other to_lowercase serde_error now_secs).send path username =
      .ok (SignalingError.Unauthorized "missing Authorization header").into_response := by
    simp only [connected, get_unauthorized hprotected, Option.elim_some]
  have hstatus : "Signaling server returned " ++ http.status_text 401 ++ " for " =
      "Signaling server returned 401 Unauthorized for " := by decide
  rw [SignalingClient.fetch_refused hsend (by decide) (by decide), ← hstatus]
  rfl

theorem is_public_path_peer (peer_id : String) : is_public_path ("/v1/peers/" ++ peer_id) .GET = false := by
  have hne (path : String) (hpath : path.toList.take 10 ≠ "/v1/peers/".toList) : "/v1/peers/" ++ peer_id ≠ path := by
    rintro rfl
    simp at hpath
  have hmyip := hne "/v1/myip" (by decide)
  have hws := hne "/v1/ws" (by decide)
  have hopenapi := hne "/v1/openapi.json" (by decide)
  simp [is_public_path, hmyip, hws, hopenapi, List.isPrefixOf]

theorem lookup_peer_unauthorized (peer_id : String) :
    (connected state server other to_lowercase serde_error now_secs).lookup_peer peer_id =
      .error (.Http "Signaling server returned 401 Unauthorized for peer lookup") := by
  simp only [SignalingClient.lookup_peer, fetch_unauthorized _ _ _ _ _ _ (is_public_path_peer peer_id)]
  rfl

theorem lookup_username_unauthorized (username : String) :
    (connected state server other to_lowercase serde_error now_secs).lookup_username username =
      .error (.Http "Signaling server returned 401 Unauthorized for username lookup") := by
  have hprotected : is_public_path "/v1/peers/lookup" .GET = false := by decide
  simp only [SignalingClient.lookup_username, fetch_unauthorized _ _ _ _ _ _ hprotected]
  rfl

theorem get_proxies_unauthorized :
    (connected state server other to_lowercase serde_error now_secs).get_proxies =
      .error (.Http "Signaling server returned 401 Unauthorized for proxy lookup") := by
  have hprotected : is_public_path "/v1/proxies" .GET = false := by decide
  simp only [SignalingClient.get_proxies, fetch_unauthorized _ _ _ _ _ _ hprotected]
  rfl

theorem get_bootstrap_nodes_unauthorized :
    (connected state server other to_lowercase serde_error now_secs).get_bootstrap_nodes =
      .error (.Http "Signaling server returned 401 Unauthorized for bootstrap node lookup") := by
  have hprotected : is_public_path "/v1/dht/bootstrap" .GET = false := by decide
  simp only [SignalingClient.get_bootstrap_nodes, fetch_unauthorized _ _ _ _ _ _ hprotected]
  rfl

/-- No lookup of the fallback ever finds anything, whatever the server holds. -/
theorem fallback_never_works (peer_id username : String) :
    ¬FindsPeer server (connected state server other to_lowercase serde_error now_secs) peer_id ∧
    ¬FindsUsername state server (connected state server other to_lowercase serde_error now_secs) username ∧
    ¬FindsProxies server (connected state server other to_lowercase serde_error now_secs) ∧
    ¬FindsBootstrapNodes server (connected state server other to_lowercase serde_error now_secs) := by
  refine ⟨?_, ?_, ?_, ?_⟩
  · rintro ⟨entry, record, -, hok, -⟩
    rw [lookup_peer_unauthorized] at hok
    contradiction
  · rintro ⟨found, entry, hok, -⟩
    rw [lookup_username_unauthorized] at hok
    contradiction
  · rintro ⟨records, hok, -⟩
    rw [get_proxies_unauthorized] at hok
    contradiction
  · intro hok
    rw [FindsBootstrapNodes, get_bootstrap_nodes_unauthorized] at hok
    contradiction

end

/-- A server at which `alice` is registered, with one proxy and one bootstrap node. -/
def alice_server : Server :=
  let alice := PeerEntry.named "alice" none
  let server := Server.with_peers [{ alice with info := { alice.info with display_name := "Alice" } }]
  { server with
    inner := { server.inner with
      proxies := [{ node_id := "relay", proxy_url := "https://relay.example.com", capacity := 100
                    region := "eu", latency_hint_ms := 20 }]
      dht_bootstrap := ["/ip4/203.0.113.10/udp/4001/quic"] } }

/-- The registered peer, its name, the proxy and the node all stay unknown to the client. -/
theorem alice_lookups_refused :
    let client := connected .reference alice_server (fun _ => ⟨200, .null⟩) id (fun _ => "") 0
    (alice_server.inner.peers.peek "alice").isSome ∧ ¬FindsPeer alice_server client "alice" ∧
      ¬FindsUsername .reference alice_server client "Alice" ∧ ¬FindsProxies alice_server client ∧
      ¬FindsBootstrapNodes alice_server client := by
  refine ⟨by decide, ?_, ?_, ?_, ?_⟩
  · rintro ⟨entry, record, -, hok, -⟩
    simp [lookup_peer_unauthorized] at hok
  · rintro ⟨found, entry, hok, -⟩
    simp [lookup_username_unauthorized] at hok
  · rintro ⟨records, hok, -⟩
    simp [get_proxies_unauthorized] at hok
  · intro hok
    simp [FindsBootstrapNodes, get_bootstrap_nodes_unauthorized] at hok

end voip_dht.discovery.rest
