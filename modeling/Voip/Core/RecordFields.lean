import Voip.Core.RecordProto
import Voip.Wire.Canonical

namespace voip_core.proto.signaling

open wire

/-- Equal lists of fields agree on the occurrences of each field. -/
private theorem filter_eq {fields fields' : List (Nat × proto.Value)} (heq : fields = fields') (field : Nat) :
    fields.filter (fun entry => entry.1 = field) = fields'.filter (fun entry => entry.1 = field) := by
  rw [heq]

namespace PortPrediction

def fields (prediction : PortPrediction) : List (Nat × proto.Value) :=
  proto.stringField 1 prediction.external_ip ++ proto.uintField 2 prediction.predicted_port_start.toNat ++
    proto.uintField 3 prediction.predicted_port_end.toNat ++
    proto.intField 4 prediction.confidence.toInt ++ proto.uintField 5 prediction.base_port.toNat ++
    proto.intField 6 prediction.delta_pattern.toInt ++ proto.uintField 7 prediction.probed_at.toNat ++
    proto.intField 8 prediction.probe_method.toInt

theorem encodeFields_fields (prediction : PortPrediction) :
    proto.encodeFields prediction.fields = prediction.encode_to_vec := by
  simp [fields, encode_to_vec]

theorem sized_fields (prediction : PortPrediction) : proto.Sized prediction.fields := by
  simp [fields]

theorem encode_to_vec_inj {first second : PortPrediction}
    (heq : first.encode_to_vec = second.encode_to_vec) : first = second := by
  rw [← encodeFields_fields, ← encodeFields_fields] at heq
  have hfields := filter_eq (proto.encodeFields_inj first.sized_fields second.sized_fields heq)
  have hip := hfields 1
  have hstart := hfields 2
  have hend := hfields 3
  have hconfidence := hfields 4
  have hbase := hfields 5
  have hdelta := hfields 6
  have hprobed := hfields 7
  have hmethod := hfields 8
  simp [fields, proto.stringField_inj, proto.uintField_inj, proto.intField_inj, UInt32.toNat_inj,
    UInt64.toNat_inj] at hip hstart hend hconfidence hbase hdelta hprobed hmethod
  cases first
  cases second
  simp_all

end PortPrediction

namespace NatInfo

def fields (info : NatInfo) : List (Nat × proto.Value) :=
  proto.intField 1 info.nat_type.toInt ++
    proto.messageField 2 (info.prediction.map PortPrediction.encode_to_vec)

theorem encodeFields_fields (info : NatInfo) : proto.encodeFields info.fields = info.encode_to_vec := by
  simp [fields, encode_to_vec]

theorem sized_fields (info : NatInfo) : proto.Sized info.fields := by
  simp [fields]

theorem encode_to_vec_inj {first second : NatInfo} (heq : first.encode_to_vec = second.encode_to_vec) :
    first = second := by
  rw [← encodeFields_fields, ← encodeFields_fields] at heq
  have hfields := filter_eq (proto.encodeFields_inj first.sized_fields second.sized_fields heq)
  have htype := hfields 1
  have hprediction := hfields 2
  simp only [fields, List.filter_append, proto.filter_intField, proto.filter_messageField] at htype hprediction
  simp [proto.intField_inj, proto.messageField_inj] at htype hprediction
  have hsame := Option.map_injective (fun _ _ => PortPrediction.encode_to_vec_inj) hprediction
  cases first
  cases second
  simp_all

end NatInfo

namespace TrackAnnouncement

def fields (track : TrackAnnouncement) : List (Nat × proto.Value) :=
  proto.stringField 1 track.track_namespace ++ proto.stringField 2 track.codec ++
    proto.uintField 3 track.priority.toNat ++ proto.intField 4 track.media_type.toInt ++
    proto.uintField 5 track.bitrate_max.toNat ++ proto.uintField 6 track.bitrate_min.toNat ++
    proto.uintField 7 track.frame_duration_ms.toNat

theorem encodeFields_fields (track : TrackAnnouncement) :
    proto.encodeFields track.fields = track.encode_to_vec := by
  simp [fields, encode_to_vec]

theorem sized_fields (track : TrackAnnouncement) : proto.Sized track.fields := by
  simp [fields]

theorem encode_to_vec_inj {first second : TrackAnnouncement}
    (heq : first.encode_to_vec = second.encode_to_vec) : first = second := by
  rw [← encodeFields_fields, ← encodeFields_fields] at heq
  have hfields := filter_eq (proto.encodeFields_inj first.sized_fields second.sized_fields heq)
  have hnamespace := hfields 1
  have hcodec := hfields 2
  have hpriority := hfields 3
  have hmedia := hfields 4
  have hmax := hfields 5
  have hmin := hfields 6
  have hduration := hfields 7
  simp [fields, proto.stringField_inj, proto.uintField_inj, proto.intField_inj, UInt32.toNat_inj]
    at hnamespace hcodec hpriority hmedia hmax hmin hduration
  cases first
  cases second
  simp_all

end TrackAnnouncement

namespace PeerRecord

def fields (record : PeerRecord) : List (Nat × proto.Value) :=
  proto.stringField 1 record.peer_id ++ proto.stringField 2 record.display_name ++
    proto.repeatedField 3 (record.ipv6_addresses.map utf8) ++
    proto.repeatedField 4 (record.ipv4_reflexive.map utf8) ++
    proto.messageField 5 (record.nat_info.map NatInfo.encode_to_vec) ++
    proto.repeatedField 6 (record.tracks.map TrackAnnouncement.encode_to_vec) ++
    proto.intField 7 record.status.toInt ++ proto.uintField 8 record.timestamp.toNat ++
    proto.uintField 9 record.ttl_seconds.toNat ++ proto.bytesField 10 record.signature

theorem encodeFields_fields (record : PeerRecord) :
    proto.encodeFields record.fields = record.encode_to_vec := by
  simp [fields, encode_to_vec]

theorem sized_fields (record : PeerRecord) : proto.Sized record.fields := by
  simp [fields]

/-- The encoding of a peer record determines all its fields. -/
theorem encode_to_vec_inj {first second : PeerRecord} (heq : first.encode_to_vec = second.encode_to_vec) :
    first = second := by
  rw [← encodeFields_fields, ← encodeFields_fields] at heq
  have hfields := filter_eq (proto.encodeFields_inj first.sized_fields second.sized_fields heq)
  have hpeer := hfields 1
  have hname := hfields 2
  have hipv6 := hfields 3
  have hipv4 := hfields 4
  have hnat := hfields 5
  have htracks := hfields 6
  have hstatus := hfields 7
  have htimestamp := hfields 8
  have httl := hfields 9
  have hsignature := hfields 10
  simp [fields, proto.stringField_inj, proto.uintField_inj, proto.intField_inj, proto.bytesField_inj,
    proto.messageField_inj, proto.repeatedField_inj, UInt32.toNat_inj, UInt64.toNat_inj]
    at hpeer hname hipv6 hipv4 hnat htracks hstatus htimestamp httl hsignature
  have hutf8 : Function.Injective utf8 := fun _ _ => utf8_inj.mp
  have hipv6 := List.map_injective_iff.mpr hutf8 hipv6
  have hipv4 := List.map_injective_iff.mpr hutf8 hipv4
  have hnat := Option.map_injective (fun _ _ => NatInfo.encode_to_vec_inj) hnat
  have htracks := List.map_injective_iff.mpr (fun _ _ => TrackAnnouncement.encode_to_vec_inj) htracks
  cases first
  cases second
  simp_all

end PeerRecord

namespace ProxyRecord

def fields (record : ProxyRecord) : List (Nat × proto.Value) :=
  proto.stringField 1 record.node_id ++ proto.stringField 2 record.proxy_url ++
    proto.uintField 3 record.capacity.toNat ++ proto.stringField 4 record.region ++
    proto.uintField 5 record.latency_hint_ms.toNat ++ proto.uintField 6 record.timestamp.toNat ++
    proto.uintField 7 record.ttl_seconds.toNat ++ proto.stringField 8 record.cert_fingerprint ++
    proto.bytesField 9 record.signature

theorem encodeFields_fields (record : ProxyRecord) :
    proto.encodeFields record.fields = record.encode_to_vec := by
  simp [fields, encode_to_vec]

theorem sized_fields (record : ProxyRecord) : proto.Sized record.fields := by
  simp [fields]

end ProxyRecord

end voip_core.proto.signaling
