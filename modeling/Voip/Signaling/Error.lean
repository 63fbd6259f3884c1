import Mathlib.Logic.Basic

namespace voip_signaling.error

namespace codes

def UNKNOWN_PEER : Nat := 1001
def PEER_OFFLINE : Nat := 1002
def INVALID_CALL_ID : Nat := 1003
def CALL_ALREADY_EXISTS : Nat := 1004
def NOT_CALL_PARTICIPANT : Nat := 1005
def PEER_ALREADY_REGISTERED : Nat := 1006
def RATE_LIMITED : Nat := 2001
def INVALID_JWT : Nat := 2002
def INVALID_MESSAGE : Nat := 2003
def UNAUTHORIZED : Nat := 2004
def MASQUE_NO_PROXY : Nat := 3001
def MASQUE_PROXY_TIMEOUT : Nat := 3002
def MASQUE_COORDINATION_FAILED : Nat := 3003
def PROXY_TOKEN_INVALID : Nat := 3004
def PROXY_TOKEN_EXPIRED : Nat := 3005
def INTERNAL_ERROR : Nat := 9999

end codes

inductive SignalingError where
  | UnknownPeer (peer_id : String)
  | PeerOffline (peer_id : String)
  | InvalidCallId (call_id : String)
  | CallAlreadyExists (call_id : String)
  | NotCallParticipant (peer_id : String)
  | PeerAlreadyRegistered (peer_id : String)
  | RateLimited
  | InvalidJwt (reason : String)
  | InvalidMessage (reason : String)
  | Unauthorized (reason : String)
  | MasqueNoProxy
  | MasqueProxyTimeout
  | MasqueCoordinationFailed
  | ProxyTokenInvalid (reason : String)
  | ProxyTokenExpired (reason : String)
  | Internal (reason : String)
  deriving DecidableEq, Repr

namespace SignalingError

/-- The wire-level error code. -/
def code : SignalingError → Nat
  | UnknownPeer _ => codes.UNKNOWN_PEER
  | PeerOffline _ => codes.PEER_OFFLINE
  | InvalidCallId _ => codes.INVALID_CALL_ID
  | CallAlreadyExists _ => codes.CALL_ALREADY_EXISTS
  | NotCallParticipant _ => codes.NOT_CALL_PARTICIPANT
  | PeerAlreadyRegistered _ => codes.PEER_ALREADY_REGISTERED
  | RateLimited => codes.RATE_LIMITED
  | InvalidJwt _ => codes.INVALID_JWT
  | InvalidMessage _ => codes.INVALID_MESSAGE
  | Unauthorized _ => codes.UNAUTHORIZED
  | MasqueNoProxy => codes.MASQUE_NO_PROXY
  | MasqueProxyTimeout => codes.MASQUE_PROXY_TIMEOUT
  | MasqueCoordinationFailed => codes.MASQUE_COORDINATION_FAILED
  | ProxyTokenInvalid _ => codes.PROXY_TOKEN_INVALID
  | ProxyTokenExpired _ => codes.PROXY_TOKEN_EXPIRED
  | Internal _ => codes.INTERNAL_ERROR

/-- The displayed text, which WebSocket clients receive next to the code. -/
def to_string : SignalingError → String
  | UnknownPeer peer_id => "unknown peer: " ++ peer_id
  | PeerOffline peer_id => "peer offline: " ++ peer_id
  | InvalidCallId call_id => "invalid call ID: " ++ call_id
  | CallAlreadyExists call_id => "call already exists: " ++ call_id
  | NotCallParticipant peer_id => "not a call participant: " ++ peer_id
  | PeerAlreadyRegistered peer_id => "peer already registered: " ++ peer_id
  | RateLimited => "rate limited"
  | InvalidJwt reason => "invalid JWT: " ++ reason
  | InvalidMessage reason => "invalid message: " ++ reason
  | Unauthorized reason => "unauthorized: " ++ reason
  | MasqueNoProxy => "MASQUE no proxy available"
  | MasqueProxyTimeout => "MASQUE proxy timeout"
  | MasqueCoordinationFailed => "MASQUE coordination failed"
  | ProxyTokenInvalid reason => "proxy token invalid: " ++ reason
  | ProxyTokenExpired reason => "proxy token expired: " ++ reason
  | Internal reason => "internal error: " ++ reason

end SignalingError

end voip_signaling.error
