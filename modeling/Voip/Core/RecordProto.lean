import Voip.Wire.Proto
import Voip.Wire.Decode

namespace voip_core.proto.signaling

open wire

inductive NatType where
  | NatNone
  | NatCone
  | NatSymmetricSequential
  | NatSymmetricPseudo
  | NatSymmetricRandom
  deriving DecidableEq, Repr

inductive PredictionConfidence where
  | Sequential
  | PseudoSequential
  | Random
  deriving DecidableEq, Repr

inductive ProbeMethod where
  | QuicPathProbing
  deriving DecidableEq, Repr

inductive MediaType where
  | MediaAudio
  | MediaVideo
  | MediaScreen
  deriving DecidableEq, Repr

inductive PeerStatus where
  | PeerOnline
  | PeerOffline
  | PeerInCall
  deriving DecidableEq, Repr

def NatType.as_i32 : NatType → Int32
  | .NatNone => 0
  | .NatCone => 1
  | .NatSymmetricSequential => 2
  | .NatSymmetricPseudo => 3
  | .NatSymmetricRandom => 4

def PredictionConfidence.as_i32 : PredictionConfidence → Int32
  | .Sequential => 0
  | .PseudoSequential => 1
  | .Random => 2

def ProbeMethod.as_i32 : ProbeMethod → Int32
  | .QuicPathProbing => 0

def MediaType.as_i32 : MediaType → Int32
  | .MediaAudio => 0
  | .MediaVideo => 1
  | .MediaScreen => 2

def PeerStatus.as_i32 : PeerStatus → Int32
  | .PeerOnline => 0
  | .PeerOffline => 1
  | .PeerInCall => 2

/-- The value of an enumeration among `values` with a given number. -/
def enum_try_from {α : Type} (as_i32 : α → Int32) (values : List α) (value : Int32) : Option α :=
  values.find? fun candidate => as_i32 candidate = value

def NatType.try_from : Int32 → Option NatType :=
  enum_try_from as_i32
    [.NatNone, .NatCone, .NatSymmetricSequential, .NatSymmetricPseudo, .NatSymmetricRandom]

def PredictionConfidence.try_from : Int32 → Option PredictionConfidence :=
  enum_try_from as_i32 [.Sequential, .PseudoSequential, .Random]

def ProbeMethod.try_from : Int32 → Option ProbeMethod :=
  enum_try_from as_i32 [.QuicPathProbing]

def MediaType.try_from : Int32 → Option MediaType :=
  enum_try_from as_i32 [.MediaAudio, .MediaVideo, .MediaScreen]

def PeerStatus.try_from : Int32 → Option PeerStatus :=
  enum_try_from as_i32 [.PeerOnline, .PeerOffline, .PeerInCall]

structure PortPrediction where
  external_ip : String
  predicted_port_start : UInt32
  predicted_port_end : UInt32
  confidence : Int32
  base_port : UInt32
  delta_pattern : Int32
  probed_at : UInt64
  probe_method : Int32
  deriving DecidableEq

def PortPrediction.encode_to_vec (prediction : PortPrediction) : Bytes :=
  proto.string 1 prediction.external_ip ++ proto.uint 2 prediction.predicted_port_start.toNat ++
    proto.uint 3 prediction.predicted_port_end.toNat ++ proto.int 4 prediction.confidence.toInt ++
    proto.uint 5 prediction.base_port.toNat ++ proto.int 6 prediction.delta_pattern.toInt ++
    proto.uint 7 prediction.probed_at.toNat ++ proto.int 8 prediction.probe_method.toInt

def PortPrediction.decode (data : Bytes) : Option PortPrediction := do
  let fields ← proto.fields data
  return {
    external_ip := ← proto.getLast proto.Value.string "" 1 fields
    predicted_port_start := .ofNat (← proto.getLast proto.Value.uint 0 2 fields)
    predicted_port_end := .ofNat (← proto.getLast proto.Value.uint 0 3 fields)
    confidence := .ofInt (← proto.getLast proto.Value.int 0 4 fields)
    base_port := .ofNat (← proto.getLast proto.Value.uint 0 5 fields)
    delta_pattern := .ofInt (← proto.getLast proto.Value.int 0 6 fields)
    probed_at := .ofNat (← proto.getLast proto.Value.uint 0 7 fields)
    probe_method := .ofInt (← proto.getLast proto.Value.int 0 8 fields) }

structure NatInfo where
  nat_type : Int32
  prediction : Option PortPrediction
  deriving DecidableEq

def NatInfo.encode_to_vec (info : NatInfo) : Bytes :=
  proto.int 1 info.nat_type.toInt ++ proto.message 2 (info.prediction.map PortPrediction.encode_to_vec)

def NatInfo.decode (data : Bytes) : Option NatInfo := do
  let fields ← proto.fields data
  return {
    nat_type := .ofInt (← proto.getLast proto.Value.int 0 1 fields)
    prediction := ← proto.embedded PortPrediction.decode 2 fields }

structure TrackAnnouncement where
  track_namespace : String
  codec : String
  priority : UInt32
  media_type : Int32
  bitrate_max : UInt32
  bitrate_min : UInt32
  frame_duration_ms : UInt32
  deriving DecidableEq

def TrackAnnouncement.encode_to_vec (track : TrackAnnouncement) : Bytes :=
  proto.string 1 track.track_namespace ++ proto.string 2 track.codec ++
    proto.uint 3 track.priority.toNat ++ proto.int 4 track.media_type.toInt ++
    proto.uint 5 track.bitrate_max.toNat ++ proto.uint 6 track.bitrate_min.toNat ++
    proto.uint 7 track.frame_duration_ms.toNat

def TrackAnnouncement.decode (data : Bytes) : Option TrackAnnouncement := do
  let fields ← proto.fields data
  return {
    track_namespace := ← proto.getLast proto.Value.string "" 1 fields
    codec := ← proto.getLast proto.Value.string "" 2 fields
    priority := .ofNat (← proto.getLast proto.Value.uint 0 3 fields)
    media_type := .ofInt (← proto.getLast proto.Value.int 0 4 fields)
    bitrate_max := .ofNat (← proto.getLast proto.Value.uint 0 5 fields)
    bitrate_min := .ofNat (← proto.getLast proto.Value.uint 0 6 fields)
    frame_duration_ms := .ofNat (← proto.getLast proto.Value.uint 0 7 fields) }

structure PeerRecord where
  peer_id : String
  display_name : String
  ipv6_addresses : List String
  ipv4_reflexive : List String
  nat_info : Option NatInfo
  tracks : List TrackAnnouncement
  status : Int32
  timestamp : UInt64
  ttl_seconds : UInt32
  signature : Bytes
  deriving DecidableEq

def PeerRecord.encode_to_vec (record : PeerRecord) : Bytes :=
  proto.string 1 record.peer_id ++ proto.string 2 record.display_name ++
    proto.repeated 3 (record.ipv6_addresses.map utf8) ++
    proto.repeated 4 (record.ipv4_reflexive.map utf8) ++
    proto.message 5 (record.nat_info.map NatInfo.encode_to_vec) ++
    proto.repeated 6 (record.tracks.map TrackAnnouncement.encode_to_vec) ++
    proto.int 7 record.status.toInt ++ proto.uint 8 record.timestamp.toNat ++
    proto.uint 9 record.ttl_seconds.toNat ++ proto.bytes 10 record.signature

def PeerRecord.decode (data : Bytes) : Option PeerRecord := do
  let fields ← proto.fields data
  let tracks ← proto.occurrences proto.Value.bytes 6 fields
  return {
    peer_id := ← proto.getLast proto.Value.string "" 1 fields
    display_name := ← proto.getLast proto.Value.string "" 2 fields
    ipv6_addresses := ← proto.occurrences proto.Value.string 3 fields
    ipv4_reflexive := ← proto.occurrences proto.Value.string 4 fields
    nat_info := ← proto.embedded NatInfo.decode 5 fields
    tracks := ← tracks.mapM TrackAnnouncement.decode
    status := .ofInt (← proto.getLast proto.Value.int 0 7 fields)
    timestamp := .ofNat (← proto.getLast proto.Value.uint 0 8 fields)
    ttl_seconds := .ofNat (← proto.getLast proto.Value.uint 0 9 fields)
    signature := ← proto.getLast proto.Value.bytes [] 10 fields }

structure ProxyRecord where
  node_id : String
  proxy_url : String
  capacity : UInt32
  region : String
  latency_hint_ms : UInt32
  timestamp : UInt64
  ttl_seconds : UInt32
  cert_fingerprint : String
  signature : Bytes
  deriving DecidableEq

def ProxyRecord.encode_to_vec (record : ProxyRecord) : Bytes :=
  proto.string 1 record.node_id ++ proto.string 2 record.proxy_url ++
    proto.uint 3 record.capacity.toNat ++ proto.string 4 record.region ++
    proto.uint 5 record.latency_hint_ms.toNat ++ proto.uint 6 record.timestamp.toNat ++
    proto.uint 7 record.ttl_seconds.toNat ++ proto.string 8 record.cert_fingerprint ++
    proto.bytes 9 record.signature

def ProxyRecord.decode (data : Bytes) : Option ProxyRecord := do
  let fields ← proto.fields data
  return {
    node_id := ← proto.getLast proto.Value.string "" 1 fields
    proxy_url := ← proto.getLast proto.Value.string "" 2 fields
    capacity := .ofNat (← proto.getLast proto.Value.uint 0 3 fields)
    region := ← proto.getLast proto.Value.string "" 4 fields
    latency_hint_ms := .ofNat (← proto.getLast proto.Value.uint 0 5 fields)
    timestamp := .ofNat (← proto.getLast proto.Value.uint 0 6 fields)
    ttl_seconds := .ofNat (← proto.getLast proto.Value.uint 0 7 fields)
    cert_fingerprint := ← proto.getLast proto.Value.string "" 8 fields
    signature := ← proto.getLast proto.Value.bytes [] 9 fields }

end voip_core.proto.signaling
