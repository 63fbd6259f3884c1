import Voip.Core.Crypto
import Voip.Core.RecordProto

namespace voip_dht

open wire voip_core.crypto
open voip_core.proto

namespace error

/-- The errors of the record, node and discovery functions. -/
inductive DhtError where
  | BootstrapFailed (reasons : List String)
  | LookupTimeout (key : String) (elapsed_ms : Nat)
  | LookupFailed (key reason : String)
  | NotFound (key : String)
  | StoreFailed (key reason : String)
  | RecordExpired (key : String) (expired_at : UInt64)
  | InvalidSignature (key : String)
  | UsernameNotFound (username : String)
  | Serialization (message : String)
  | NotConnected
  | InvalidSignatureLegacy (record_type : String)
  | Http (message : String)
  deriving DecidableEq

end error

namespace record

open error

/-- SHA-256 of the text that names a record. -/
def peer_record_key (sha256 : Bytes → Bytes) (peer_id : String) : Bytes :=
  sha256 (utf8 ("voip:" ++ peer_id))

def username_record_key (sha256 : Bytes → Bytes) (username : String) : Bytes :=
  sha256 (utf8 ("voip-name:" ++ username))

def proxy_record_key (sha256 : Bytes → Bytes) (node_id : String) : Bytes :=
  sha256 (utf8 ("masque-proxy:" ++ node_id))

inductive NatType where
  | None
  | Cone
  | SymmetricSequential
  | SymmetricPseudo
  | SymmetricRandom
  deriving DecidableEq, Repr

def NatType.of_proto : signaling.NatType → NatType
  | .NatNone => .None
  | .NatCone => .Cone
  | .NatSymmetricSequential => .SymmetricSequential
  | .NatSymmetricPseudo => .SymmetricPseudo
  | .NatSymmetricRandom => .SymmetricRandom

def NatType.to_proto : NatType → signaling.NatType
  | .None => .NatNone
  | .Cone => .NatCone
  | .SymmetricSequential => .NatSymmetricSequential
  | .SymmetricPseudo => .NatSymmetricPseudo
  | .SymmetricRandom => .NatSymmetricRandom

inductive PredictionConfidence where
  | Sequential
  | PseudoSequential
  | Random
  deriving DecidableEq, Repr

def PredictionConfidence.of_proto : signaling.PredictionConfidence → PredictionConfidence
  | .Sequential => .Sequential
  | .PseudoSequential => .PseudoSequential
  | .Random => .Random

def PredictionConfidence.to_proto : PredictionConfidence → signaling.PredictionConfidence
  | .Sequential => .Sequential
  | .PseudoSequential => .PseudoSequential
  | .Random => .Random

inductive MediaType where
  | Audio
  | Video
  | Screen
  deriving DecidableEq, Repr

def MediaType.of_proto : signaling.MediaType → MediaType
  | .MediaAudio => .Audio
  | .MediaVideo => .Video
  | .MediaScreen => .Screen

def MediaType.to_proto : MediaType → signaling.MediaType
  | .Audio => .MediaAudio
  | .Video => .MediaVideo
  | .Screen => .MediaScreen

inductive PeerStatus where
  | Online
  | Offline
  | InCall
  deriving DecidableEq, Repr

def PeerStatus.of_proto : signaling.PeerStatus → PeerStatus
  | .PeerOnline => .Online
  | .PeerOffline => .Offline
  | .PeerInCall => .InCall

def PeerStatus.to_proto : PeerStatus → signaling.PeerStatus
  | .Online => .PeerOnline
  | .Offline => .PeerOffline
  | .InCall => .PeerInCall

structure PortPrediction where
  external_ip : String
  predicted_port_start : UInt32
  predicted_port_end : UInt32
  confidence : PredictionConfidence
  base_port : UInt32
  delta_pattern : Int32
  probed_at : UInt64
  deriving DecidableEq

def PortPrediction.to_proto (self : PortPrediction) : signaling.PortPrediction where
  external_ip := self.external_ip
  predicted_port_start := self.predicted_port_start
  predicted_port_end := self.predicted_port_end
  confidence := self.confidence.to_proto.as_i32
  base_port := self.base_port
  delta_pattern := self.delta_pattern
  probed_at := self.probed_at
  probe_method := signaling.ProbeMethod.QuicPathProbing.as_i32

def PortPrediction.from_proto (proto : signaling.PortPrediction) : PortPrediction where
  external_ip := proto.external_ip
  predicted_port_start := proto.predicted_port_start
  predicted_port_end := proto.predicted_port_end
  confidence := ((signaling.PredictionConfidence.try_from proto.confidence).map
    PredictionConfidence.of_proto).getD .Random
  base_port := proto.base_port
  delta_pattern := proto.delta_pattern
  probed_at := proto.probed_at

structure NatInfo where
  nat_type : NatType
  prediction : Option PortPrediction
  deriving DecidableEq

def NatInfo.to_proto (self : NatInfo) : signaling.NatInfo where
  nat_type := self.nat_type.to_proto.as_i32
  prediction := self.prediction.map PortPrediction.to_proto

def NatInfo.from_proto (proto : signaling.NatInfo) : NatInfo where
  nat_type := ((signaling.NatType.try_from proto.nat_type).map NatType.of_proto).getD .None
  prediction := proto.prediction.map PortPrediction.from_proto

structure TrackAnnouncement where
  track_namespace : String
  codec : String
  priority : UInt32
  media_type : MediaType
  bitrate_max : UInt32
  bitrate_min : UInt32
  frame_duration_ms : UInt32
  deriving DecidableEq

def TrackAnnouncement.to_proto (self : TrackAnnouncement) : signaling.TrackAnnouncement where
  track_namespace := self.track_namespace
  codec := self.codec
  priority := self.priority
  media_type := self.media_type.to_proto.as_i32
  bitrate_max := self.bitrate_max
  bitrate_min := self.bitrate_min
  frame_duration_ms := self.frame_duration_ms

def TrackAnnouncement.from_proto (proto : signaling.TrackAnnouncement) : TrackAnnouncement where
  track_namespace := proto.track_namespace
  codec := proto.codec
  priority := proto.priority
  media_type := ((signaling.MediaType.try_from proto.media_type).map MediaType.of_proto).getD .Audio
  bitrate_max := proto.bitrate_max
  bitrate_min := proto.bitrate_min
  frame_duration_ms := proto.frame_duration_ms

structure PeerRecord where
  peer_id : String
  display_name : String
  ipv6_addresses : List String
  ipv4_reflexive : List String
  nat_info : Option NatInfo
  tracks : List TrackAnnouncement
  status : PeerStatus
  timestamp : UInt64
  ttl_seconds : UInt32
  signature : Bytes
  deriving DecidableEq

structure UsernameRecord where
  username : String
  peer_id : String
  signature : Bytes
  deriving DecidableEq, Repr

structure ProxyRecord where
  node_id : String
  proxy_url : String
  capacity : UInt32
  region : String
  latency_hint_ms : UInt32
  timestamp : UInt64
  ttl_seconds : UInt32
  cert_fingerprint : String
  signature : Bytes
  deriving DecidableEq

/-- The generated decoders of the two protobuf records and the JSON reader of username
records, left arbitrary. An error is its text. -/
structure Codec where
  peer_record : Bytes → Except String signaling.PeerRecord
  proxy_record : Bytes → Except String signaling.ProxyRecord
  username_record : Bytes → Except String UsernameRecord

/-- The signature check that the three kinds of records share. `key` and `kind` are what
its errors name. -/
def verify_signature (ed25519 : Ed25519) (verifying_key : Bytes) (key kind : String)
    (message signature : Bytes) : Except DhtError Unit :=
  if signature = [] then .error (.InvalidSignature key)
  else if signature.length ≠ 64 then .error (.InvalidSignatureLegacy (kind ++ ": signature error"))
  else if ed25519.verify verifying_key message signature then .ok ()
  else .error (.InvalidSignature key)

namespace PeerRecord

def to_proto_with_empty_sig (self : PeerRecord) : signaling.PeerRecord where
  peer_id := self.peer_id
  display_name := self.display_name
  ipv6_addresses := self.ipv6_addresses
  ipv4_reflexive := self.ipv4_reflexive
  nat_info := self.nat_info.map NatInfo.to_proto
  tracks := self.tracks.map TrackAnnouncement.to_proto
  status := self.status.to_proto.as_i32
  timestamp := self.timestamp
  ttl_seconds := self.ttl_seconds
  signature := []

def to_proto (self : PeerRecord) : signaling.PeerRecord :=
  { self.to_proto_with_empty_sig with signature := self.signature }

def from_proto (proto : signaling.PeerRecord) : PeerRecord where
  peer_id := proto.peer_id
  display_name := proto.display_name
  ipv6_addresses := proto.ipv6_addresses
  ipv4_reflexive := proto.ipv4_reflexive
  nat_info := proto.nat_info.map NatInfo.from_proto
  tracks := proto.tracks.map TrackAnnouncement.from_proto
  status := ((signaling.PeerStatus.try_from proto.status).map PeerStatus.of_proto).getD .Offline
  timestamp := proto.timestamp
  ttl_seconds := proto.ttl_seconds
  signature := proto.signature

def signing_input (self : PeerRecord) : Bytes := self.to_proto_with_empty_sig.encode_to_vec

def sign (ed25519 : Ed25519) (signing_key : Bytes) (self : PeerRecord) : PeerRecord :=
  { self with signature := ed25519.sign signing_key self.signing_input }

def verify (ed25519 : Ed25519) (verifying_key : Bytes) (self : PeerRecord) : Except DhtError Unit :=
  verify_signature ed25519 verifying_key self.peer_id "PeerRecord" self.signing_input self.signature

/-- The last second of the record's life; the addition wraps. -/
def expires_at (self : PeerRecord) : UInt64 := self.timestamp + self.ttl_seconds.toUInt64

def is_expired (now : UInt64) (self : PeerRecord) : Bool := self.expires_at < now

def encode (self : PeerRecord) : Bytes := self.to_proto.encode_to_vec

def decode (codec : Codec) (data : Bytes) : Except DhtError PeerRecord := do
  let proto ← (codec.peer_record data).mapError .Serialization
  return from_proto proto

end PeerRecord

namespace UsernameRecord

def signing_input (self : UsernameRecord) : Bytes := utf8 (self.username ++ ":" ++ self.peer_id)

def sign (ed25519 : Ed25519) (signing_key : Bytes) (self : UsernameRecord) : UsernameRecord :=
  { self with signature := ed25519.sign signing_key self.signing_input }

def verify (ed25519 : Ed25519) (verifying_key : Bytes) (self : UsernameRecord) :
    Except DhtError Unit :=
  verify_signature ed25519 verifying_key "UsernameRecord" "UsernameRecord" self.signing_input
    self.signature

def decode (codec : Codec) (data : Bytes) : Except DhtError UsernameRecord :=
  (codec.username_record data).mapError .Serialization

end UsernameRecord

namespace ProxyRecord

def to_proto_with_empty_sig (self : ProxyRecord) : signaling.ProxyRecord where
  node_id := self.node_id
  proxy_url := self.proxy_url
  capacity := self.capacity
  region := self.region
  latency_hint_ms := self.latency_hint_ms
  timestamp := self.timestamp
  ttl_seconds := self.ttl_seconds
  cert_fingerprint := self.cert_fingerprint
  signature := []

def to_proto (self : ProxyRecord) : signaling.ProxyRecord :=
  { self.to_proto_with_empty_sig with signature := self.signature }

def from_proto (proto : signaling.ProxyRecord) : ProxyRecord where
  node_id := proto.node_id
  proxy_url := proto.proxy_url
  capacity := proto.capacity
  region := proto.region
  latency_hint_ms := proto.latency_hint_ms
  timestamp := proto.timestamp
  ttl_seconds := proto.ttl_seconds
  cert_fingerprint := proto.cert_fingerprint
  signature := proto.signature

def signing_input (self : ProxyRecord) : Bytes := self.to_proto_with_empty_sig.encode_to_vec

def sign (ed25519 : Ed25519) (signing_key : Bytes) (self : ProxyRecord) : ProxyRecord :=
  { self with signature := ed25519.sign signing_key self.signing_input }

def verify (ed25519 : Ed25519) (verifying_key : Bytes) (self : ProxyRecord) : Except DhtError Unit :=
  verify_signature ed25519 verifying_key "ProxyRecord" "ProxyRecord" self.signing_input self.signature

/-- The last second of the record's life; the addition wraps. -/
def expires_at (self : ProxyRecord) : UInt64 := self.timestamp + self.ttl_seconds.toUInt64

def is_expired (now : UInt64) (self : ProxyRecord) : Bool := self.expires_at < now

def encode (self : ProxyRecord) : Bytes := self.to_proto.encode_to_vec

def decode (codec : Codec) (data : Bytes) : Except DhtError ProxyRecord := do
  let proto ← (codec.proxy_record data).mapError .Serialization
  return from_proto proto

end ProxyRecord

end record

end voip_dht
