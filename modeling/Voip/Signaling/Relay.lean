import Voip.Signaling.AppState

namespace voip_signaling.masque

open state session error voip_core.proto.signaling

def select_proxy : Async (Option ProxyInfo) := do
  let proxies ← get_proxies
  return proxies.head?

/-- The token the server signs at a given time: the signature covers the encoding of
the token without one. -/
def sign_proxy_token (state : AppState) (peer_id target_peer_id : String) (issued_at : Nat) :
    ProxyToken :=
  let proxy_token : ProxyToken :=
    { peer_id, target_peer_id, issued_at, ttl_seconds := 60, signature := [] }
  let data_to_sign := proxy_token.encode_to_vec
  { proxy_token with signature := state.ed25519.sign state.signing_key data_to_sign }

def issue_proxy_token (state : AppState) (peer_id target_peer_id : String) : Async ProxyToken := do
  let issued_at ← now_secs
  return sign_proxy_token state peer_id target_peer_id issued_at

def relay_needed (call_id : String) (proxy : ProxyInfo) (token : ProxyToken) : FramedMessage where
  type_id := type_id.MASQUE_RELAY_NEEDED
  payload := MasqueRelayNeeded.encode_to_vec
    { call_id, proxy_url := proxy.proxy_url, wait_timeout_ms := 10000, proxy_token := some token }

def send_relay_needed (state : AppState) (call_id caller_id callee_id : String) :
    Async (Except SignalingError Unit) := do
  match ← select_proxy with
  | none => return .error .MasqueNoProxy
  | some proxy =>
    let caller_token ← issue_proxy_token state caller_id callee_id
    let callee_token ← issue_proxy_token state callee_id caller_id
    match ← send_to_peer caller_id (relay_needed call_id proxy caller_token) with
    | .error e => return .error e
    | .ok () => send_to_peer callee_id (relay_needed call_id proxy callee_token)

end voip_signaling.masque

namespace voip_signaling.push

open state session voip_core.proto.signaling

def RETRYABLE_REASONS : List Int := [3, 4, 7]

def is_retryable_reason (reason : Int) : Bool := RETRYABLE_REASONS.contains reason

def build_push_retry_message (call_id caller_id callee_id : String) (reason : Int)
    (retry_attempt retry_after_ms : Nat) : FramedMessage where
  type_id := type_id.PUSH_RETRY
  payload := PushRetry.encode_to_vec
    { call_id, caller_id, callee_id, reason, retry_attempt, retry_after_ms }

/-- The push notification itself is a stub that only logs; looking up the peer's
token still counts as a use of the peer's registry entry. -/
def handle_retryable_failure (state : AppState) (call_id caller_id callee_id : String) (reason : Int)
    (other_peer_id : String) (retry_count : Nat) : Async Unit :=
  if state.config.push_retry_max_attempts ≤ retry_count then pure ()
  else do
    let next_attempt := retry_count + 1
    let retry_after_ms := state.config.retry_delay_secs next_attempt * 1000 % 2 ^ 64
    let _ ← send_to_peer other_peer_id
      (build_push_retry_message call_id caller_id callee_id reason next_attempt retry_after_ms)
    let _ ← get_peer other_peer_id

end voip_signaling.push
