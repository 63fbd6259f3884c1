import Voip.Core.RecordFields
import Voip.Dht.Standalone

namespace voip_core.proto.signaling

/-- A value found for a number has that number. -/
theorem enum_try_from_eq_some {α : Type} {as_i32 : α → Int32} {values : List α} {number : Int32}
    {value : α} (hvalue : enum_try_from as_i32 values number = some value) :
    as_i32 value = number := by
  simpa using List.find?_some hvalue

theorem enum_try_from_isSome {α : Type} {as_i32 : α → Int32} {values : List α} {value : α}
    (hmem : value ∈ values) : (enum_try_from as_i32 values (as_i32 value)).isSome := by
  rw [enum_try_from, List.find?_isSome]
  exact ⟨value, hmem, by simp⟩

/-- Reading a number, with a default for unknown ones, and writing the value found gives the
number back exactly when it is known. -/
theorem enum_normalised_iff {α β : Type} {as_i32 : α → Int32} {values : List α}
    (hvalues : ∀ value, value ∈ values) {of_proto : α → β} {to_proto : β → α}
    (hinverse : ∀ value, to_proto (of_proto value) = value) (default : β) (number : Int32) :
    as_i32 (to_proto (((enum_try_from as_i32 values number).map of_proto).getD default)) = number ↔
      (enum_try_from as_i32 values number).isSome := by
  constructor
  · intro hnumber
    rw [← hnumber]
    exact enum_try_from_isSome (hvalues _)
  · intro hknown
    obtain ⟨value, hvalue⟩ := Option.isSome_iff_exists.mp hknown
    rw [hvalue, Option.map_some, Option.getD_some, hinverse]
    exact enum_try_from_eq_some hvalue

end voip_core.proto.signaling

namespace voip_dht.record

open wire error result voip_core.crypto
open voip_core.proto

/-- A number is what its value is written as exactly when this version knows it. -/
theorem NatType.normalised_iff (number : Int32) :
    (((signaling.NatType.try_from number).map of_proto).getD .None).to_proto.as_i32 = number ↔
      (signaling.NatType.try_from number).isSome :=
  signaling.enum_normalised_iff (fun value => by cases value <;> simp)
    (fun value => by cases value <;> rfl) _ _

theorem PredictionConfidence.normalised_iff (number : Int32) :
    (((signaling.PredictionConfidence.try_from number).map of_proto).getD .Random).to_proto.as_i32 =
        number ↔ (signaling.PredictionConfidence.try_from number).isSome :=
  signaling.enum_normalised_iff (fun value => by cases value <;> simp)
    (fun value => by cases value <;> rfl) _ _

theorem MediaType.normalised_iff (number : Int32) :
    (((signaling.MediaType.try_from number).map of_proto).getD .Audio).to_proto.as_i32 = number ↔
      (signaling.MediaType.try_from number).isSome :=
  signaling.enum_normalised_iff (fun value => by cases value <;> simp)
    (fun value => by cases value <;> rfl) _ _

theorem PeerStatus.normalised_iff (number : Int32) :
    (((signaling.PeerStatus.try_from number).map of_proto).getD .Offline).to_proto.as_i32 = number ↔
      (signaling.PeerStatus.try_from number).isSome :=
  signaling.enum_normalised_iff (fun value => by cases value <;> simp)
    (fun value => by cases value <;> rfl) _ _

/-- A prediction in which every enumeration holds one of its values. -/
def PortPrediction.Canonical (message : signaling.PortPrediction) : Prop :=
  (signaling.PredictionConfidence.try_from message.confidence).isSome ∧
    message.probe_method = signaling.ProbeMethod.QuicPathProbing.as_i32

def NatInfo.Canonical (message : signaling.NatInfo) : Prop :=
  (signaling.NatType.try_from message.nat_type).isSome ∧
    ∀ prediction ∈ message.prediction, PortPrediction.Canonical prediction

def TrackAnnouncement.Canonical (message : signaling.TrackAnnouncement) : Prop :=
  (signaling.MediaType.try_from message.media_type).isSome

/-- A record in which every enumeration holds one of its values, in its nested messages too. -/
structure PeerRecord.Canonical (message : signaling.PeerRecord) : Prop where
  status : (signaling.PeerStatus.try_from message.status).isSome
  nat_info : ∀ info ∈ message.nat_info, NatInfo.Canonical info
  tracks : ∀ track ∈ message.tracks, TrackAnnouncement.Canonical track

private theorem map_eq_self_iff {α : Type} {convert : α → α} {values : List α} :
    values.map convert = values ↔ ∀ value ∈ values, convert value = value := by
  simpa using (List.map_inj_left (l := values) (f := convert) (g := id))

private theorem option_map_eq_self_iff {α : Type} {convert : α → α} {value : Option α} :
    value.map convert = value ↔ ∀ inner ∈ value, convert inner = inner := by
  cases value with
  | none => simp
  | some inner => simp

/-- A confidence survives the conversion when this version knows it, and a probe method when
it is the only one there is. -/
theorem PortPrediction.to_proto_from_proto_iff (message : signaling.PortPrediction) :
    (from_proto message).to_proto = message ↔ Canonical message := by
  cases message with
  | mk external_ip start last confidence base delta probed method =>
    simp only [from_proto, to_proto, Canonical, signaling.PortPrediction.mk.injEq, true_and]
    rw [PredictionConfidence.normalised_iff]
    exact and_congr_right fun _ => eq_comm

theorem NatInfo.to_proto_from_proto_iff (message : signaling.NatInfo) :
    (from_proto message).to_proto = message ↔ Canonical message := by
  cases message with
  | mk nat_type prediction =>
    simp only [from_proto, to_proto, Canonical, signaling.NatInfo.mk.injEq, Option.map_map]
    rw [NatType.normalised_iff, option_map_eq_self_iff]
    simp only [Function.comp_apply, PortPrediction.to_proto_from_proto_iff]

theorem TrackAnnouncement.to_proto_from_proto_iff (message : signaling.TrackAnnouncement) :
    (from_proto message).to_proto = message ↔ Canonical message := by
  cases message with
  | mk track_namespace codec priority media_type bitrate_max bitrate_min frame_duration_ms =>
    simp only [from_proto, to_proto, Canonical, signaling.TrackAnnouncement.mk.injEq, true_and, and_true]
    rw [MediaType.normalised_iff]

/-- Re-encoding a received record reproduces its fields exactly when they are canonical. -/
theorem PeerRecord.to_proto_with_empty_sig_from_proto_iff (message : signaling.PeerRecord) :
    (from_proto message).to_proto_with_empty_sig = { message with signature := [] } ↔
      Canonical message := by
  cases message with
  | mk peer_id display_name ipv6 ipv4 nat_info tracks status timestamp ttl signature =>
    simp only [from_proto, to_proto_with_empty_sig, signaling.PeerRecord.mk.injEq, true_and, and_true,
      Option.map_map, List.map_map]
    rw [PeerStatus.normalised_iff, option_map_eq_self_iff, map_eq_self_iff]
    simp only [Function.comp_apply, NatInfo.to_proto_from_proto_iff,
      TrackAnnouncement.to_proto_from_proto_iff]
    constructor
    · rintro ⟨hnat, htracks, hknown⟩
      exact ⟨hknown, hnat, htracks⟩
    · rintro ⟨hknown, hnat, htracks⟩
      exact ⟨hnat, htracks, hknown⟩

theorem NatType.round_trip (value : NatType) :
    ((signaling.NatType.try_from value.to_proto.as_i32).map of_proto).getD .None = value := by
  cases value <;> rfl

theorem PredictionConfidence.round_trip (value : PredictionConfidence) :
    ((signaling.PredictionConfidence.try_from value.to_proto.as_i32).map of_proto).getD .Random = value := by
  cases value <;> rfl

theorem MediaType.round_trip (value : MediaType) :
    ((signaling.MediaType.try_from value.to_proto.as_i32).map of_proto).getD .Audio = value := by
  cases value <;> rfl

theorem PeerStatus.round_trip (value : PeerStatus) :
    ((signaling.PeerStatus.try_from value.to_proto.as_i32).map of_proto).getD .Offline = value := by
  cases value <;> rfl

theorem PortPrediction.from_proto_to_proto (prediction : PortPrediction) :
    from_proto prediction.to_proto = prediction := by
  simp only [from_proto, to_proto, PredictionConfidence.round_trip]

theorem NatInfo.from_proto_to_proto (info : NatInfo) : from_proto info.to_proto = info := by
  have hprediction : info.prediction.map (PortPrediction.from_proto ∘ PortPrediction.to_proto) =
      info.prediction :=
    option_map_eq_self_iff.mpr fun prediction _ => prediction.from_proto_to_proto
  simp only [from_proto, to_proto, NatType.round_trip, Option.map_map, hprediction]

theorem TrackAnnouncement.from_proto_to_proto (track : TrackAnnouncement) :
    from_proto track.to_proto = track := by
  simp only [from_proto, to_proto, MediaType.round_trip]

/-- The native record survives its protobuf form, nested optional data included. -/
theorem PeerRecord.from_proto_to_proto (record : PeerRecord) : from_proto record.to_proto = record := by
  have hnat : record.nat_info.map (NatInfo.from_proto ∘ NatInfo.to_proto) = record.nat_info :=
    option_map_eq_self_iff.mpr fun info _ => info.from_proto_to_proto
  have htracks : record.tracks.map (TrackAnnouncement.from_proto ∘ TrackAnnouncement.to_proto) =
      record.tracks :=
    map_eq_self_iff.mpr fun track _ => track.from_proto_to_proto
  simp only [from_proto, to_proto, to_proto_with_empty_sig, PeerStatus.round_trip, Option.map_map,
    List.map_map, hnat, htracks]

end voip_dht.record
