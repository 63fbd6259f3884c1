import Voip.Core.RecordFields
import Voip.Wire.Spelling

namespace voip_core.proto.signaling

open wire

def colon : Separator := ⟨':', 58, by decide, by decide, by decide⟩

/-- How a signed number is written. -/
def unsigned (value : Int32) : Nat := (value.toInt % 2 ^ 64).toNat

/-- The keys of the record messages are plain: a colon would be a text under field 7. -/
private theorem plain_key {field wireType : Nat} (hascii : field * 8 + wireType < 128)
    (hkey : field * 8 + wireType ≠ 58) : proto.Plain colon field wireType where
  ascii := hascii
  notMem := by
    rw [proto.key, leb128_of_lt hascii, List.mem_singleton]
    intro heq
    have hnat := congrArg UInt8.toNat heq
    rw [UInt8.toNat_ofNat', Nat.mod_eq_of_lt (by omega)] at hnat
    exact hkey hnat.symm

private theorem number (field : Nat) (hfield : field < 16) : proto.Plain colon field 0 :=
  plain_key (by omega) (by omega)

private theorem text (field : Nat) (hfield : field < 15 ∧ field ≠ 7) :
    proto.Plain colon field 2 :=
  plain_key (by omega) (by omega)

namespace PortPrediction

/-- The numbers that the encoding holds, the lengths of its texts among them. -/
def numbers (prediction : PortPrediction) : List Nat :=
  [(utf8 prediction.external_ip).length, prediction.predicted_port_start.toNat,
    prediction.predicted_port_end.toNat, unsigned prediction.confidence, prediction.base_port.toNat,
    unsigned prediction.delta_pattern, prediction.probed_at.toNat, unsigned prediction.probe_method]

def texts (prediction : PortPrediction) : List String := [prediction.external_ip]

theorem spells_encode_to_vec (prediction : PortPrediction) :
    Spells colon prediction.encode_to_vec prediction.numbers prediction.texts := by
  rw [← encodeFields_fields]
  have hip := proto.Spelled.string (text 1 (by decide)) prediction.external_ip
  have hstart := proto.Spelled.uint (number 2 (by decide)) prediction.predicted_port_start.toNat
  have hend := proto.Spelled.uint (number 3 (by decide)) prediction.predicted_port_end.toNat
  have hconfidence := proto.Spelled.int (number 4 (by decide)) prediction.confidence.toInt
  have hbase := proto.Spelled.uint (number 5 (by decide)) prediction.base_port.toNat
  have hdelta := proto.Spelled.int (number 6 (by decide)) prediction.delta_pattern.toInt
  have hprobed := proto.Spelled.uint (number 7 (by decide)) prediction.probed_at.toNat
  have hmethod := proto.Spelled.int (number 8 (by decide)) prediction.probe_method.toInt
  exact (hip.append hstart |>.append hend |>.append hconfidence |>.append hbase |>.append hdelta
    |>.append hprobed |>.append hmethod).spells

end PortPrediction

namespace NatInfo

def numbers (info : NatInfo) : List Nat :=
  unsigned info.nat_type :: info.prediction.elim [] fun prediction =>
    prediction.encode_to_vec.length :: prediction.numbers

def texts (info : NatInfo) : List String := info.prediction.elim [] PortPrediction.texts

theorem spells_encode_to_vec (info : NatInfo) : Spells colon info.encode_to_vec info.numbers info.texts := by
  rw [← encodeFields_fields]
  have htype := proto.Spelled.int (number 1 (by decide)) info.nat_type.toInt
  have hprediction := proto.Spelled.message (text 2 (by decide)) PortPrediction.spells_encode_to_vec info.prediction
  exact (htype.append hprediction).spells

end NatInfo

namespace TrackAnnouncement

def numbers (track : TrackAnnouncement) : List Nat :=
  [(utf8 track.track_namespace).length, (utf8 track.codec).length, track.priority.toNat,
    unsigned track.media_type, track.bitrate_max.toNat, track.bitrate_min.toNat,
    track.frame_duration_ms.toNat]

def texts (track : TrackAnnouncement) : List String := [track.track_namespace, track.codec]

theorem spells_encode_to_vec (track : TrackAnnouncement) :
    Spells colon track.encode_to_vec track.numbers track.texts := by
  rw [← encodeFields_fields]
  have hnamespace := proto.Spelled.string (text 1 (by decide)) track.track_namespace
  have hcodec := proto.Spelled.string (text 2 (by decide)) track.codec
  have hpriority := proto.Spelled.uint (number 3 (by decide)) track.priority.toNat
  have hmedia := proto.Spelled.int (number 4 (by decide)) track.media_type.toInt
  have hmax := proto.Spelled.uint (number 5 (by decide)) track.bitrate_max.toNat
  have hmin := proto.Spelled.uint (number 6 (by decide)) track.bitrate_min.toNat
  have hduration := proto.Spelled.uint (number 7 (by decide)) track.frame_duration_ms.toNat
  exact (hnamespace.append hcodec |>.append hpriority |>.append hmedia |>.append hmax |>.append hmin
    |>.append hduration).spells

end TrackAnnouncement

namespace PeerRecord

/-- The numbers that the encoding holds at any depth, the lengths of texts and embedded
messages among them. -/
def numbers (record : PeerRecord) : List Nat :=
  [(utf8 record.peer_id).length] ++ [(utf8 record.display_name).length] ++
    record.ipv6_addresses.flatMap (fun text => [(utf8 text).length]) ++
    record.ipv4_reflexive.flatMap (fun text => [(utf8 text).length]) ++
    record.nat_info.elim [] (fun info => info.encode_to_vec.length :: info.numbers) ++
    record.tracks.flatMap (fun track => track.encode_to_vec.length :: track.numbers) ++
    [unsigned record.status] ++ [record.timestamp.toNat] ++ [record.ttl_seconds.toNat]

def texts (record : PeerRecord) : List String :=
  [record.peer_id] ++ [record.display_name] ++ record.ipv6_addresses.flatMap (fun text => [text]) ++
    record.ipv4_reflexive.flatMap (fun text => [text]) ++ record.nat_info.elim [] NatInfo.texts ++
    record.tracks.flatMap TrackAnnouncement.texts

theorem spells_encode_to_vec {record : PeerRecord} (hunsigned : record.signature = []) :
    Spells colon record.encode_to_vec record.numbers record.texts := by
  have hpeer := proto.Spelled.string (text 1 (by decide)) record.peer_id
  have hname := proto.Spelled.string (text 2 (by decide)) record.display_name
  have hipv6 := proto.Spelled.repeated (text 3 (by decide)) proto.Spelled.spells_utf8 record.ipv6_addresses
  have hipv4 := proto.Spelled.repeated (text 4 (by decide)) proto.Spelled.spells_utf8 record.ipv4_reflexive
  have hnat := proto.Spelled.message (text 5 (by decide)) NatInfo.spells_encode_to_vec record.nat_info
  have htracks := proto.Spelled.repeated (text 6 (by decide)) TrackAnnouncement.spells_encode_to_vec record.tracks
  have hstatus := proto.Spelled.int (number 7 (by decide)) record.status.toInt
  have htimestamp := proto.Spelled.uint (number 8 (by decide)) record.timestamp.toNat
  have httl := proto.Spelled.uint (number 9 (by decide)) record.ttl_seconds.toNat
  have hall := (hpeer.append hname |>.append hipv6 |>.append hipv4 |>.append hnat |>.append htracks
    |>.append hstatus |>.append htimestamp |>.append httl).spells
  rw [← encodeFields_fields, fields, hunsigned, proto.bytesField_nil, List.append_nil]
  simpa only [numbers, texts, unsigned, List.append_nil] using hall

end PeerRecord

namespace ProxyRecord

def numbers (record : ProxyRecord) : List Nat :=
  [(utf8 record.node_id).length, (utf8 record.proxy_url).length, record.capacity.toNat,
    (utf8 record.region).length, record.latency_hint_ms.toNat, record.timestamp.toNat,
    record.ttl_seconds.toNat, (utf8 record.cert_fingerprint).length]

def texts (record : ProxyRecord) : List String :=
  [record.node_id, record.proxy_url, record.region, record.cert_fingerprint]

theorem spells_encode_to_vec {record : ProxyRecord} (hunsigned : record.signature = []) :
    Spells colon record.encode_to_vec record.numbers record.texts := by
  have hnode := proto.Spelled.string (text 1 (by decide)) record.node_id
  have hurl := proto.Spelled.string (text 2 (by decide)) record.proxy_url
  have hcapacity := proto.Spelled.uint (number 3 (by decide)) record.capacity.toNat
  have hregion := proto.Spelled.string (text 4 (by decide)) record.region
  have hlatency := proto.Spelled.uint (number 5 (by decide)) record.latency_hint_ms.toNat
  have htimestamp := proto.Spelled.uint (number 6 (by decide)) record.timestamp.toNat
  have httl := proto.Spelled.uint (number 7 (by decide)) record.ttl_seconds.toNat
  have hcert := proto.Spelled.string (text 8 (by decide)) record.cert_fingerprint
  rw [← encodeFields_fields, fields, hunsigned, proto.bytesField_nil, List.append_nil]
  exact (hnode.append hurl |>.append hcapacity |>.append hregion |>.append hlatency |>.append htimestamp
    |>.append httl |>.append hcert).spells

end ProxyRecord

end voip_core.proto.signaling
