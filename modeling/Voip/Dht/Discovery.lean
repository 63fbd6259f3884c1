import Voip.Dht.Record
import Voip.Order.FirstLeast

namespace voip_dht.discovery

open wire error record

/-- The outcome of a query, how long it took and the clock when it came back. -/
structure Answer (α : Type) where
  result : Except DhtError α
  elapsed_ms : Nat
  now_secs : UInt64

/-- The outcome if it came back within the limit. -/
def timeout {α : Type} (limit_ms : Nat) (answer : Answer α) : Option (Except DhtError α) :=
  if answer.elapsed_ms ≤ limit_ms then some answer.result else none

/-- The first item whose key is the smallest, as `Iterator::min_by_key` has it. -/
def min_by_key {α : Type} (key : α → UInt32) : List α → Option α
  | [] => none
  | item :: items => some (items.foldl (fun best next => if key next < key best then next else best) item)

theorem firstLeast_of_min_by_key {α : Type} {key : α → UInt32} {items : List α} {item : α}
    (hmin : min_by_key key items = some item) : order.FirstLeast key items item := by
  cases items with
  | nil => cases hmin
  | cons first rest =>
    cases hmin
    exact order.firstLeast_foldl

theorem min_by_key_eq_none {α : Type} {key : α → UInt32} {items : List α} :
    min_by_key key items = none ↔ items = [] := by
  cases items <;> simp [min_by_key]

/-- The DHT as its queries see it: any answer under any key. -/
structure DhtNode where
  sha256 : Bytes → Bytes
  get_record : Bytes → Answer Bytes

namespace DhtNode

def get_peer_record (self : DhtNode) (peer_id : String) : Answer Bytes :=
  self.get_record (peer_record_key self.sha256 peer_id)

def get_username_record (self : DhtNode) (username : String) : Answer Bytes :=
  self.get_record (username_record_key self.sha256 username)

def get_proxy_record (self : DhtNode) (node_id : String) : Answer Bytes :=
  self.get_record (proxy_record_key self.sha256 node_id)

end DhtNode

/-- The answers of the signaling server. -/
structure SignalingClient where
  lookup_peer : String → Answer PeerRecord
  lookup_username : String → Answer String
  get_proxies : Except DhtError (List ProxyRecord)

structure DiscoveryService where
  codec : Codec
  dht_node : DhtNode
  signaling : SignalingClient
  privacy_first : Bool
  dht_timeout_ms : Nat

namespace DiscoveryService

def discover_peer_dht (self : DiscoveryService) (peer_id : String) : Except DhtError PeerRecord :=
  let answer := self.dht_node.get_peer_record peer_id
  match timeout self.dht_timeout_ms answer with
  | some (.ok data) => do
    let record ← PeerRecord.decode self.codec data
    if record.is_expired answer.now_secs then throw (.RecordExpired peer_id record.expires_at)
    return record
  | some (.error e) => .error e
  | none => .error (.LookupTimeout peer_id self.dht_timeout_ms)

def discover_peer_signaling (self : DiscoveryService) (peer_id : String) :
    Except DhtError PeerRecord :=
  (timeout 50 (self.signaling.lookup_peer peer_id)).getD (.error (.LookupTimeout peer_id 50))

def discover_peer (self : DiscoveryService) (peer_id : String) : Except DhtError PeerRecord :=
  if self.privacy_first then
    match self.discover_peer_dht peer_id with
    | .ok record => .ok record
    | .error _ => self.discover_peer_signaling peer_id
  else
    match self.discover_peer_signaling peer_id with
    | .ok record => .ok record
    | .error _ => self.discover_peer_dht peer_id

def resolve_username_dht (self : DiscoveryService) (username : String) :
    Except DhtError PeerRecord := do
  let username_data ← (timeout self.dht_timeout_ms (self.dht_node.get_username_record username)).getD
    (.error (.LookupTimeout ("voip-name:" ++ username) self.dht_timeout_ms))
  let username_record ← UsernameRecord.decode self.codec username_data
  self.discover_peer_dht username_record.peer_id

def resolve_username_signaling (self : DiscoveryService) (username : String) :
    Except DhtError PeerRecord := do
  let peer_id ← (timeout 50 (self.signaling.lookup_username username)).getD
    (.error (.LookupTimeout ("signaling:username:" ++ username) 50))
  self.discover_peer_signaling peer_id

def discover_peer_by_username (self : DiscoveryService) (username : String) :
    Except DhtError PeerRecord :=
  if self.privacy_first then
    match self.resolve_username_dht username with
    | .ok record => .ok record
    | .error _ => self.resolve_username_signaling username
  else
    match self.resolve_username_signaling username with
    | .ok record => .ok record
    | .error _ => self.resolve_username_dht username

/-- What the loop of `discover_proxy_dht` pushes for one node. -/
def find_proxy_dht (self : DiscoveryService) (node_id : String) : Option ProxyRecord :=
  let answer := self.dht_node.get_proxy_record node_id
  match answer.result with
  | .ok data =>
    match ProxyRecord.decode self.codec data with
    | .ok record => if record.is_expired answer.now_secs then none else some record
    | .error _ => none
  | .error _ => none

def discover_proxy_dht (self : DiscoveryService) (node_ids : List String) :
    Except DhtError (List ProxyRecord) :=
  let proxies := node_ids.filterMap self.find_proxy_dht
  .ok (proxies.mergeSort fun first second => first.latency_hint_ms ≤ second.latency_hint_ms)

def discover_proxy_signaling (self : DiscoveryService) : Except DhtError (List ProxyRecord) :=
  self.signaling.get_proxies

def discover_proxy (self : DiscoveryService) (node_ids : List String) :
    Except DhtError (List ProxyRecord) :=
  if self.privacy_first then
    match self.discover_proxy_dht node_ids with
    | .ok (proxy :: proxies) => .ok (proxy :: proxies)
    | _ => self.discover_proxy_signaling
  else
    match self.discover_proxy_signaling with
    | .ok (proxy :: proxies) => .ok (proxy :: proxies)
    | _ => self.discover_proxy_dht node_ids

def select_proxy (now : UInt64) (candidates : List ProxyRecord) (max_region_distance : Option String) :
    Option ProxyRecord :=
  min_by_key ProxyRecord.latency_hint_ms (((candidates.filter fun p => !p.is_expired now).filter
    fun p => p.capacity > 0).filter fun p => max_region_distance.isNone || p.region.isEmpty)

end DiscoveryService

end voip_dht.discovery
