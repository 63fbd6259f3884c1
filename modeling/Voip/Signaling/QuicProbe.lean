import Voip.Signaling.Message

namespace voip_core.proto.signaling

open wire

structure PathProbeResponse where
  server_ip : String
  observed_ip : String
  observed_port : UInt32
  timestamp_ms : UInt64
  deriving DecidableEq

def PathProbeResponse.encode_to_vec (response : PathProbeResponse) : Bytes :=
  proto.string 1 response.server_ip ++ proto.string 2 response.observed_ip ++
    proto.uint 3 response.observed_port.toNat ++ proto.uint 4 response.timestamp_ms.toNat

end voip_core.proto.signaling

namespace voip_signaling.quic_probe

open wire state voip_core.proto.signaling

def PATH_PROBE_RESPONSE : UInt16 := 0x0200

def build_path_probe_response (server_ip observed_ip : String) (observed_port : UInt32)
    (timestamp_ms : UInt64) : FramedMessage where
  type_id := PATH_PROBE_RESPONSE
  payload := (PathProbeResponse.mk server_ip observed_ip observed_port timestamp_ms).encode_to_vec

end voip_signaling.quic_probe
