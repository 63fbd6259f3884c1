import Voip.Core.Config
import Voip.Lru.Cache
import Voip.Signaling.Jwt
import Voip.Signaling.Message
import Voip.Signaling.RateLimit

namespace voip_signaling.state

open lru error rate_limit jwt voip_core.config voip_core.crypto voip_core.proto.signaling wire

/-- A session's channel, named by the session that owns its receiving end. -/
abbrev SessionSender := Nat

structure PeerInfo where
  peer_id : String
  display_name : String
  ipv6_addresses : List String
  ipv4_reflexive : List String
  nat_type : Int
  status : Int
  fcm_token : Option String
  last_seen : Nat
  deriving DecidableEq, Repr

structure PeerEntry where
  info : PeerInfo
  sender : Option SessionSender
  deriving DecidableEq, Repr

set_option linter.dupNamespace false in
structure CallEntry where
  call_id : String
  caller_id : String
  callee_id : String
  state : Int
  connection_method : Int
  discovery_method : Int
  created_at : Nat
  connected_at : Option Nat
  ended_at : Option Nat
  failure_reason : Option String
  retry_count : Nat
  deriving DecidableEq, Repr

structure ProxyInfo where
  node_id : String
  proxy_url : String
  capacity : Nat
  region : String
  latency_hint_ms : Nat
  deriving DecidableEq, Repr

/-- The part of the shared state that never changes, together with the functions of
external crates that the server calls. The key that a hash map yields first
(`next_key`) and the lower-case mapping are arbitrary. -/
structure AppState where
  prost : Prost
  serde : Serde
  ed25519 : Ed25519
  next_key : Buckets → Option String
  to_lowercase : String → String
  signing_key : Bytes
  config : VoIPConfig

def AppState.verifying_key (state : AppState) : Bytes := state.ed25519.verifying_key state.signing_key

/-- The part of the shared state that changes. -/
structure InnerState where
  peers : LruCache String PeerEntry
  calls : LruCache String CallEntry
  rate_limiter : RateLimiter
  proxies : List ProxyInfo
  dht_bootstrap : List String

namespace InnerState

def new (rate_limit_config : RateLimitConfig) (config : VoIPConfig) : InnerState where
  peers := LruCache.new 10000 (by decide)
  calls := LruCache.new 1000 (by decide)
  rate_limiter := RateLimiter.new rate_limit_config
  proxies := []
  dht_bootstrap := config.dht_bootstrap_nodes

variable (inner : InnerState)

def register_peer (info : PeerInfo) (sender : Option SessionSender) : InnerState :=
  if inner.peers.contains info.peer_id then
    { inner with
      peers := inner.peers.modify info.peer_id fun existing =>
        { info, sender := if sender.isSome then sender else existing.sender } }
  else { inner with peers := inner.peers.put info.peer_id { info, sender } }

def unregister_peer (peer_id : String) : InnerState :=
  let (removed, peers) := inner.peers.pop peer_id
  if removed.isSome then { inner with peers, rate_limiter := inner.rate_limiter.remove_peer peer_id }
  else { inner with peers }

def disconnect_peer (peer_id : String) : InnerState :=
  match inner.peers.peek peer_id with
  | some entry =>
    if entry.sender = none ∧ entry.info.status = 1 then
      { inner with peers := inner.peers.modify peer_id id }
    else
      { inner with
        peers := inner.peers.modify peer_id fun entry =>
          { info := { entry.info with status := 1 }, sender := none }
        rate_limiter := inner.rate_limiter.remove_peer peer_id }
  | none => { inner with rate_limiter := inner.rate_limiter.remove_peer peer_id }

def get_peer (peer_id : String) : Option PeerInfo × InnerState :=
  let (entry, peers) := inner.peers.get peer_id
  (entry.map PeerEntry.info, { inner with peers })

/-- The part of `send_to_peer` that precedes the send: find the peer's channel. -/
def find_sender (peer_id : String) : Except SignalingError SessionSender × InnerState :=
  let (entry, peers) := inner.peers.get peer_id
  let inner := { inner with peers }
  match entry with
  | none => (.error (.UnknownPeer peer_id), inner)
  | some entry =>
    match entry.sender with
    | none => (.error (.PeerOffline peer_id), inner)
    | some sender => (.ok sender, inner)

def create_call (call : CallEntry) : Except SignalingError Unit × InnerState :=
  if !inner.peers.contains call.caller_id then (.error (.UnknownPeer call.caller_id), inner)
  else if !inner.peers.contains call.callee_id then (.error (.UnknownPeer call.callee_id), inner)
  else if inner.calls.contains call.call_id then (.error (.CallAlreadyExists call.call_id), inner)
  else (.ok (), { inner with calls := inner.calls.put call.call_id call })

/-- The writes of `update_call_state` and `end_call` through `get_mut`. -/
def modify_call (call_id : String) (write : CallEntry → CallEntry) :
    Except SignalingError Unit × InnerState :=
  if inner.calls.contains call_id then
    (.ok (), { inner with calls := inner.calls.modify call_id write })
  else (.error (.InvalidCallId call_id), inner)

def update_call_state (call_id : String) (new_state : Int) : Except SignalingError Unit × InnerState :=
  inner.modify_call call_id fun call => { call with state := new_state }

def end_call (call_id : String) (now : Nat) (reason : Option String) :
    Except SignalingError Unit × InnerState :=
  inner.modify_call call_id fun call =>
    { call with state := 4, ended_at := some now, failure_reason := reason }

def remove_call (call_id : String) : InnerState :=
  { inner with calls := (inner.calls.pop call_id).2 }

def get_call (call_id : String) : Option CallEntry × InnerState :=
  let (call, calls) := inner.calls.get call_id
  (call, { inner with calls })

end InnerState

end voip_signaling.state
