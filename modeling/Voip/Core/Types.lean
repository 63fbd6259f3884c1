import Voip.Core.RecordProto

namespace voip_core.types

open voip_core.proto

inductive NATType where
  | None
  | Cone
  | SymmetricSequential
  | SymmetricPseudo
  | SymmetricRandom
  deriving DecidableEq, Repr

def NATType.of_proto : signaling.NatType → NATType
  | .NatNone => .None
  | .NatCone => .Cone
  | .NatSymmetricSequential => .SymmetricSequential
  | .NatSymmetricPseudo => .SymmetricPseudo
  | .NatSymmetricRandom => .SymmetricRandom

def NATType.to_proto : NATType → signaling.NatType
  | .None => .NatNone
  | .Cone => .NatCone
  | .SymmetricSequential => .NatSymmetricSequential
  | .SymmetricPseudo => .NatSymmetricPseudo
  | .SymmetricRandom => .NatSymmetricRandom

/-- Whether the ports of the NAT can be predicted. -/
def NATType.is_predictable (self : NATType) : Bool :=
  self = .SymmetricSequential || self = .SymmetricPseudo

inductive PredictionConfidence where
  | Sequential
  | PseudoSequential
  | Random
  deriving DecidableEq, Repr

def PredictionConfidence.of_proto : signaling.PredictionConfidence → PredictionConfidence
  | .Sequential => .Sequential
  | .PseudoSequential => .PseudoSequential
  | .Random => .Random

def PredictionConfidence.to_proto : PredictionConfidence → signaling.PredictionConfidence
  | .Sequential => .Sequential
  | .PseudoSequential => .PseudoSequential
  | .Random => .Random

/-- Whether a prediction is worth attempting. -/
def PredictionConfidence.is_predictable (self : PredictionConfidence) : Bool := self ≠ .Random

inductive ConnectionMethod where
  | None
  | Ipv6Direct
  | Ipv4Cone
  | Ipv4Prediction
  | Masque
  | MasqueHttp2
  deriving DecidableEq, Repr

/-- Whether the connection uses a relay. -/
def ConnectionMethod.is_relayed (self : ConnectionMethod) : Bool :=
  self = .Masque || self = .MasqueHttp2

inductive CallEndReason where
  | Normal
  | Rejected
  | Timeout
  | FailedIpv4Random
  | FailedUdpBlocked
  | FailedNetwork
  | MigrationFailed
  | FailedMasqueUnreachable
  | FailedTcpBlocked
  deriving DecidableEq, Repr

inductive ProbeMethod where
  | QuicPathProbing
  deriving DecidableEq, Repr

def ProbeMethod.of_proto : signaling.ProbeMethod → ProbeMethod
  | .QuicPathProbing => .QuicPathProbing

inductive MediaType where
  | Audio
  | Video
  | Screen
  deriving DecidableEq, Repr

def MediaType.of_proto : signaling.MediaType → MediaType
  | .MediaAudio => .Audio
  | .MediaVideo => .Video
  | .MediaScreen => .Screen

def MediaType.to_proto : MediaType → signaling.MediaType
  | .Audio => .MediaAudio
  | .Video => .MediaVideo
  | .Screen => .MediaScreen

/-- Reads an enumeration field. An unknown number stands for the value 0, which has to exist:
the source unwraps it. -/
def i32_to_native_enum {E N : Type} (try_from : Int32 → Option E) (into : E → N)
    (hzero : (try_from 0).isSome) (value : Int32) : N :=
  ((try_from value).map into).getD (into ((try_from 0).get hzero))

structure PortPredictionData where
  external_ip : String
  predicted_port_start : UInt32
  predicted_port_end : UInt32
  confidence : PredictionConfidence
  base_port : UInt32
  delta_pattern : Int32
  probed_at : UInt64
  probe_method : ProbeMethod
  deriving DecidableEq

def PortPredictionData.of_proto (proto : signaling.PortPrediction) : PortPredictionData where
  external_ip := proto.external_ip
  predicted_port_start := proto.predicted_port_start
  predicted_port_end := proto.predicted_port_end
  confidence := i32_to_native_enum signaling.PredictionConfidence.try_from
    PredictionConfidence.of_proto rfl proto.confidence
  base_port := proto.base_port
  delta_pattern := proto.delta_pattern
  probed_at := proto.probed_at
  probe_method := i32_to_native_enum signaling.ProbeMethod.try_from ProbeMethod.of_proto rfl
    proto.probe_method

/-- Whether the predicted range is to be tried. -/
def PortPredictionData.is_usable (self : PortPredictionData) : Bool :=
  self.confidence.is_predictable && self.predicted_port_start > 0 &&
    self.predicted_port_end ≥ self.predicted_port_start

structure TrackInfo where
  track_namespace : String
  codec : String
  priority : UInt32
  media_type : MediaType
  bitrate_max : UInt32
  bitrate_min : UInt32
  frame_duration_ms : UInt32
  deriving DecidableEq

def TrackInfo.of_proto (proto : signaling.TrackAnnouncement) : TrackInfo where
  track_namespace := proto.track_namespace
  codec := proto.codec
  priority := proto.priority
  media_type := i32_to_native_enum signaling.MediaType.try_from MediaType.of_proto rfl proto.media_type
  bitrate_max := proto.bitrate_max
  bitrate_min := proto.bitrate_min
  frame_duration_ms := proto.frame_duration_ms

structure NATInfo where
  nat_type : NATType
  prediction : Option PortPredictionData
  deriving DecidableEq

def NATInfo.no_nat : NATInfo where
  nat_type := .None
  prediction := none

def NATInfo.of_proto (proto : signaling.NatInfo) : NATInfo where
  nat_type := i32_to_native_enum signaling.NatType.try_from NATType.of_proto rfl proto.nat_type
  prediction := proto.prediction.map PortPredictionData.of_proto

end voip_core.types
