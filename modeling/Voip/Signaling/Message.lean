import Voip.Signaling.Error
import Voip.Wire.Proto

namespace voip_core.proto.signaling

open wire

structure NATInfo where
  nat_type : Int
  deriving DecidableEq, Repr

structure PeerRegister where
  peer_id : String
  display_name : String
  ipv6_addresses : List String
  ipv4_reflexive : List String
  nat_info : Option NATInfo
  status : Int
  fcm_token : String
  deriving DecidableEq, Repr

structure PeerUnregister where
  peer_id : String
  deriving DecidableEq, Repr

structure CallRequest where
  call_id : String
  caller_id : String
  callee_id : String
  discovery_method : Int
  deriving DecidableEq, Repr

structure CallAccept where
  call_id : String
  deriving DecidableEq, Repr

structure CallReject where
  call_id : String
  deriving DecidableEq, Repr

structure CallFailed where
  call_id : String
  reason : Int
  description : String
  deriving DecidableEq, Repr

structure CallEnded where
  call_id : String
  deriving DecidableEq, Repr

structure ProxyToken where
  peer_id : String
  target_peer_id : String
  issued_at : Nat
  ttl_seconds : Nat
  signature : Bytes
  deriving DecidableEq, Repr

def ProxyToken.encode_to_vec (token : ProxyToken) : Bytes :=
  proto.string 1 token.peer_id ++ proto.string 2 token.target_peer_id ++ proto.uint 3 token.issued_at ++
    proto.uint 4 token.ttl_seconds ++ proto.bytes 5 token.signature

structure MasqueRelayNeeded where
  call_id : String
  proxy_url : String
  wait_timeout_ms : Nat
  proxy_token : Option ProxyToken
  deriving DecidableEq, Repr

def MasqueRelayNeeded.encode_to_vec (message : MasqueRelayNeeded) : Bytes :=
  proto.string 1 message.call_id ++ proto.string 2 message.proxy_url ++
    proto.uint 3 message.wait_timeout_ms ++
    proto.message 4 (message.proxy_token.map ProxyToken.encode_to_vec)

structure PushRetry where
  call_id : String
  caller_id : String
  callee_id : String
  reason : Int
  retry_attempt : Nat
  retry_after_ms : Nat
  deriving DecidableEq, Repr

def PushRetry.encode_to_vec (message : PushRetry) : Bytes :=
  proto.string 1 message.call_id ++ proto.string 2 message.caller_id ++
    proto.string 3 message.callee_id ++ proto.int 4 message.reason ++
    proto.uint 5 message.retry_attempt ++ proto.uint 6 message.retry_after_ms

structure Error where
  code : Nat
  message : String
  deriving DecidableEq, Repr

def Error.encode_to_vec (error : Error) : Bytes :=
  proto.uint 1 error.code ++ proto.string 2 error.message

/-- The `prost` decoders of the messages a client can send, left arbitrary: nothing
is assumed about which payloads decode, or to what. -/
structure Prost where
  peer_register : Bytes → Option PeerRegister
  peer_unregister : Bytes → Option PeerUnregister
  call_request : Bytes → Option CallRequest
  call_accept : Bytes → Option CallAccept
  call_reject : Bytes → Option CallReject
  call_failed : Bytes → Option CallFailed
  call_ended : Bytes → Option CallEnded

end voip_core.proto.signaling

namespace voip_signaling.state

open wire error voip_core.proto.signaling

namespace type_id

def CALL_REQUEST_CS : UInt16 := 0x0001
def CALL_REQUEST_SC : UInt16 := 0x0002
def CALL_ACCEPT_CS : UInt16 := 0x0003
def CALL_ACCEPT_SC : UInt16 := 0x0004
def CALL_REJECT_CS : UInt16 := 0x0005
def CALL_REJECT_SC : UInt16 := 0x0006
def CALL_FAILED : UInt16 := 0x0007
def CALL_ENDED : UInt16 := 0x0008
def PUSH_RETRY : UInt16 := 0x0009
def PEER_REGISTER : UInt16 := 0x0100
def PEER_UNREGISTER : UInt16 := 0x0101
def MASQUE_RELAY_NEEDED : UInt16 := 0x0300
def ERROR : UInt16 := 0x8001

end type_id

structure FramedMessage where
  type_id : UInt16
  payload : Bytes
  deriving DecidableEq, Repr

def encode_message (type_id : UInt16) (payload : Bytes) : Bytes := be 2 type_id.toNat ++ payload

def decode_message : Bytes → Except SignalingError (UInt16 × Bytes)
  | high :: low :: payload => .ok (UInt16.ofNat (ofBe [high, low]), payload)
  | _ => .error (.InvalidMessage "message too short: need at least 2 bytes for type ID")

namespace FramedMessage

def to_bytes (message : FramedMessage) : Bytes := encode_message message.type_id message.payload

def from_bytes (data : Bytes) : Option FramedMessage :=
  match decode_message data with
  | .ok (type_id, payload) => some ⟨type_id, payload⟩
  | .error _ => none

/-- The `Error` message sent to a client. -/
def error (code : Nat) (message : String) : FramedMessage :=
  ⟨type_id.ERROR, (Error.mk code message).encode_to_vec⟩

end FramedMessage

end voip_signaling.state
