import Voip.Signaling.Auth
import Voip.Signaling.Relay

namespace voip_signaling.handlers

open state session auth error voip_core.crypto wire

structure RegisterPeerRequest where
  peer_id : String
  display_name : String
  ipv6_addresses : List String
  ipv4_reflexive : List String
  nat_type : Option String
  status : Option String
  fcm_token : Option String

structure RegisterPeerResponse where
  peer_id : String
  jwt_token : String
  expires_in_secs : Nat

structure PeerResponse where
  peer_id : String
  display_name : String
  ipv6_addresses : List String
  ipv4_reflexive : List String
  nat_type : String
  status : String
  last_seen : Nat

/-- A request body or path parameter for each handler that touches the shared state. -/
inductive Endpoint where
  | register_peer (body : RegisterPeerRequest)
  | update_peer (peer_id : String) (body : RegisterPeerRequest)
  | unregister_peer (peer_id : String)
  | get_peer (peer_id : String)
  | get_peer_status (peer_id : String)
  | lookup_peer (username : String)
  | get_proxies
  | dht_bootstrap
  | issue_proxy_token (peer_id target_peer_id : String)

namespace Endpoint

def method : Endpoint → Method
  | register_peer _ | issue_proxy_token .. => .POST
  | update_peer .. => .PUT
  | unregister_peer _ => .DELETE
  | _ => .GET

def path : Endpoint → String
  | register_peer _ => "/v1/peers"
  | update_peer peer_id _ | unregister_peer peer_id | get_peer peer_id => "/v1/peers/" ++ peer_id
  | get_peer_status peer_id => "/v1/peers/" ++ peer_id ++ "/status"
  | lookup_peer _ => "/v1/peers/lookup"
  | get_proxies => "/v1/proxies"
  | dht_bootstrap => "/v1/dht/bootstrap"
  | issue_proxy_token .. => "/v1/proxy-token"

end Endpoint

inductive Response where
  | Registered (body : RegisterPeerResponse)
  | Peer (body : PeerResponse)
  | NoContent
  | PeerStatus (peer_id status : String)
  | Lookup (peer_id display_name status : String)
  | Proxies (proxies : List ProxyInfo)
  | DhtBootstrap (nodes : List String)
  | ProxyToken (token : List Char) (ttl_seconds : Nat)

def nat_type_str (val : Int) : String :=
  if val = 0 then "NONE" else if val = 1 then "CONE" else if val = 2 then "SYMMETRIC_SEQUENTIAL"
  else if val = 3 then "SYMMETRIC_PSEUDO" else if val = 4 then "SYMMETRIC_RANDOM"
  else "UNKNOWN(" ++ toString val ++ ")"

def peer_status_str (val : Int) : String :=
  if val = 0 then "ONLINE" else if val = 1 then "OFFLINE" else if val = 2 then "IN_CALL"
  else "UNKNOWN(" ++ toString val ++ ")"

/-- The NAT type a request names; any other text stands for the default. -/
def parse_nat_type (text : Option String) (default : Int) : Int :=
  if text = some "NONE" then 0 else if text = some "CONE" then 1
  else if text = some "SYMMETRIC_SEQUENTIAL" then 2 else if text = some "SYMMETRIC_PSEUDO" then 3
  else if text = some "SYMMETRIC_RANDOM" then 4 else default

/-- The peer status a request names; any other text stands for the default. -/
def parse_status (text : Option String) (default : Int) : Int :=
  if text = some "ONLINE" then 0 else if text = some "OFFLINE" then 1
  else if text = some "IN_CALL" then 2 else default

def peer_response (info : PeerInfo) : PeerResponse where
  peer_id := info.peer_id
  display_name := info.display_name
  ipv6_addresses := info.ipv6_addresses
  ipv4_reflexive := info.ipv4_reflexive
  nat_type := nat_type_str info.nat_type
  status := peer_status_str info.status
  last_seen := info.last_seen

def base64_digit (value : UInt32) : Char :=
  "ABCDEFGHIJKLMNOPQRSTUVWXYZabcdefghijklmnopqrstuvwxyz0123456789+/".toList.getD value.toNat 'A'

/-- The four digits of three bytes. -/
def base64_chunk (b0 b1 b2 : UInt8) : Char × Char × Char × Char :=
  let (b0, b1, b2) := (b0.toUInt32, b1.toUInt32, b2.toUInt32)
  (base64_digit (b0 >>> 2 &&& 0x3F), base64_digit ((b0 &&& 0x03) <<< 4 ||| (b1 >>> 4 &&& 0x0F)),
    base64_digit ((b1 &&& 0x0F) <<< 2 ||| (b2 >>> 6 &&& 0x03)), base64_digit (b2 &&& 0x3F))

/-- The encoder reads missing bytes of the last group as zero and pads in their place. -/
def base64_encode : Bytes → List Char
  | [] => []
  | [b0] =>
    let (d0, d1, _, _) := base64_chunk b0 0 0
    [d0, d1, '=', '=']
  | [b0, b1] =>
    let (d0, d1, d2, _) := base64_chunk b0 b1 0
    [d0, d1, d2, '=']
  | b0 :: b1 :: b2 :: rest =>
    let (d0, d1, d2, d3) := base64_chunk b0 b1 b2
    d0 :: d1 :: d2 :: d3 :: base64_encode rest

abbrev Outcome := Except SignalingError Response

def register_peer (state : AppState) (body : RegisterPeerRequest) : Async Outcome :=
  match parse_peer_id state.ed25519 body.peer_id with
  | .error _ =>
    return .error (.InvalidMessage "peer_id must be a valid 64-char hex Ed25519 public key")
  | .ok _ => do
    if ← check_registration body.peer_id then
      let now ← now_secs
      let info : PeerInfo :=
        { peer_id := body.peer_id, display_name := body.display_name
          ipv6_addresses := body.ipv6_addresses, ipv4_reflexive := body.ipv4_reflexive
          nat_type := parse_nat_type body.nat_type 0, status := parse_status body.status 0
          fcm_token := body.fcm_token, last_seen := now }
      match ← session.register_peer info none with
      | .error e => return .error e
      | .ok () =>
        let now ← now_secs
        let expiry_secs := state.config.jwt_expiry_secs
        match jwt.create_jwt state.serde state.ed25519 state.signing_key body.peer_id expiry_secs now with
        | .error e => return .error (.Internal e.to_string)
        | .ok jwt_token =>
          return .ok (.Registered { peer_id := body.peer_id, jwt_token, expires_in_secs := expiry_secs })
    else return .error .RateLimited

/-- The entry that a `PUT` writes: empty and absent fields keep their old values. -/
def updated_info (peer_id : String) (body : RegisterPeerRequest) (existing : PeerInfo) (now : Nat) :
    PeerInfo where
  peer_id := peer_id
  display_name := if body.display_name = "" then existing.display_name else body.display_name
  ipv6_addresses := if body.ipv6_addresses = [] then existing.ipv6_addresses else body.ipv6_addresses
  ipv4_reflexive := if body.ipv4_reflexive = [] then existing.ipv4_reflexive else body.ipv4_reflexive
  nat_type := parse_nat_type body.nat_type existing.nat_type
  status := parse_status body.status existing.status
  fcm_token := body.fcm_token.or existing.fcm_token
  last_seen := now

def update_peer (auth : AuthenticatedPeer) (peer_id : String) (body : RegisterPeerRequest) :
    Async Outcome := do
  if auth.peer_id ≠ peer_id then
    return .error (.Unauthorized "authenticated peer_id does not match target")
  else
    match ← session.get_peer peer_id with
    | none => return .error (.UnknownPeer peer_id)
    | some existing =>
      let now ← now_secs
      let info := updated_info peer_id body existing now
      match ← session.register_peer info none with
      | .error e => return .error e
      | .ok () => return .ok (.Peer (peer_response info))

def unregister_peer (auth : AuthenticatedPeer) (peer_id : String) : Async Outcome := do
  if auth.peer_id ≠ peer_id then
    return .error (.Unauthorized "authenticated peer_id does not match target")
  else
    match ← session.unregister_peer peer_id with
    | .error e => return .error e
    | .ok () => return .ok .NoContent

def get_peer (peer_id : String) : Async Outcome := do
  match ← session.get_peer peer_id with
  | none => return .error (.UnknownPeer peer_id)
  | some info => return .ok (.Peer (peer_response info))

def get_peer_status (peer_id : String) : Async Outcome := do
  match ← session.get_peer peer_id with
  | none => return .error (.UnknownPeer peer_id)
  | some info => return .ok (.PeerStatus info.peer_id (peer_status_str info.status))

def lookup_peer (state : AppState) (username : String) : Async Outcome := do
  let query_lower := state.to_lowercase username
  match ← find_peer fun entry => state.to_lowercase entry.info.display_name = query_lower with
  | some entry =>
    return .ok (.Lookup entry.info.peer_id entry.info.display_name (peer_status_str entry.info.status))
  | none => return .error (.UnknownPeer username)

def get_proxies : Async Outcome := do
  let proxies ← session.get_proxies
  return .ok (.Proxies proxies)

def dht_bootstrap : Async Outcome := do
  let nodes ← get_dht_bootstrap
  return .ok (.DhtBootstrap nodes)

def issue_proxy_token (state : AppState) (peer_id target_peer_id : String) : Async Outcome := do
  match ← session.get_peer peer_id with
  | none => return .error (.UnknownPeer peer_id)
  | some _ =>
    match ← session.get_peer target_peer_id with
    | none => return .error (.UnknownPeer target_peer_id)
    | some _ =>
      let issued_at ← now_secs
      let final_token := masque.sign_proxy_token state peer_id target_peer_id issued_at
      return .ok (.ProxyToken (base64_encode final_token.encode_to_vec) final_token.ttl_seconds)

def handle (state : AppState) (auth : AuthenticatedPeer) : Endpoint → Async Outcome
  | .register_peer body => register_peer state body
  | .update_peer peer_id body => update_peer auth peer_id body
  | .unregister_peer peer_id => unregister_peer auth peer_id
  | .get_peer peer_id => get_peer peer_id
  | .get_peer_status peer_id => get_peer_status peer_id
  | .lookup_peer username => lookup_peer state username
  | .get_proxies => get_proxies
  | .dht_bootstrap => dht_bootstrap
  | .issue_proxy_token peer_id target_peer_id => issue_proxy_token state peer_id target_peer_id

end voip_signaling.handlers
