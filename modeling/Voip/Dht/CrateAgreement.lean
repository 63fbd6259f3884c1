import Voip.Core.Types
import Voip.Dht.Conversion

namespace voip_dht.record

open voip_core voip_core.proto

/-- What the two crates read from the number of an enumeration is the same value exactly when
the number is known or both fall back to the same value. -/
theorem native_enum_agrees_iff {E N M : Type} (try_from : Int32 → Option E) {into : E → N}
    {of_proto : E → M} (core_to_proto : N → E) (to_proto : M → E)
    (hinto : ∀ value, core_to_proto (into value) = value)
    (hof_proto : ∀ value, to_proto (of_proto value) = value) (hzero : (try_from 0).isSome)
    (default : M) (number : Int32) :
    core_to_proto (types.i32_to_native_enum try_from into hzero number) =
        to_proto (((try_from number).map of_proto).getD default) ↔
      (try_from number).isSome ∨ (try_from 0).get hzero = to_proto default := by
  rw [types.i32_to_native_enum]
  cases try_from number with
  | none => simp [hinto]
  | some value => simp [hinto, hof_proto]

/-- The two crates read the same NAT type, whatever number it was sent as. -/
theorem nat_type_agrees (message : signaling.NatInfo) :
    (types.NATInfo.of_proto message).nat_type.to_proto = (NatInfo.from_proto message).nat_type.to_proto := by
  apply (native_enum_agrees_iff signaling.NatType.try_from types.NATType.to_proto NatType.to_proto
    ?_ ?_ _ _ _).mpr
  · exact .inr rfl
  · intro value
    cases value <;> rfl
  · intro value
    cases value <;> rfl

theorem media_type_agrees (message : signaling.TrackAnnouncement) :
    (types.TrackInfo.of_proto message).media_type.to_proto =
      (TrackAnnouncement.from_proto message).media_type.to_proto := by
  apply (native_enum_agrees_iff signaling.MediaType.try_from types.MediaType.to_proto
    MediaType.to_proto ?_ ?_ _ _ _).mpr
  · exact .inr rfl
  · intro value
    cases value <;> rfl
  · intro value
    cases value <;> rfl

/-- For an unknown confidence one crate falls back to `Sequential` and the other to `Random`. -/
theorem confidence_agrees_iff (message : signaling.PortPrediction) :
    (types.PortPredictionData.of_proto message).confidence.to_proto =
        (PortPrediction.from_proto message).confidence.to_proto ↔
      (signaling.PredictionConfidence.try_from message.confidence).isSome := by
  have hfallback : ¬(signaling.PredictionConfidence.try_from 0).get rfl =
      PredictionConfidence.Random.to_proto := by decide
  refine Iff.trans ?_ (or_iff_left hfallback)
  apply native_enum_agrees_iff
  · intro value
    cases value <;> rfl
  · intro value
    cases value <;> rfl

/-- The messages decode alike in both crates: the same NAT type, confidence and media type,
and no prediction that one of them tries and the other holds to be random. -/
structure DecodeAlike (info : signaling.NatInfo) (prediction : signaling.PortPrediction)
    (track : signaling.TrackAnnouncement) : Prop where
  nat_type : (types.NATInfo.of_proto info).nat_type.to_proto =
    (NatInfo.from_proto info).nat_type.to_proto
  nested : (types.NATInfo.of_proto info).prediction.map (fun data => data.confidence.to_proto) =
    (NatInfo.from_proto info).prediction.map (fun data => data.confidence.to_proto)
  confidence : (types.PortPredictionData.of_proto prediction).confidence.to_proto =
    (PortPrediction.from_proto prediction).confidence.to_proto
  predictable : (types.PortPredictionData.of_proto prediction).confidence.is_predictable =
    ((PortPrediction.from_proto prediction).confidence != .Random)
  media_type : (types.TrackInfo.of_proto track).media_type.to_proto =
    (TrackAnnouncement.from_proto track).media_type.to_proto

theorem nested_agrees_iff (info : signaling.NatInfo) :
    (types.NATInfo.of_proto info).prediction.map (fun data => data.confidence.to_proto) =
        (NatInfo.from_proto info).prediction.map (fun data => data.confidence.to_proto) ↔
      ∀ prediction ∈ info.prediction,
        (signaling.PredictionConfidence.try_from prediction.confidence).isSome := by
  unfold types.NATInfo.of_proto NatInfo.from_proto
  cases info.prediction with
  | none => simp
  | some prediction => simp [confidence_agrees_iff]

theorem is_predictable_of_agrees {core : types.PredictionConfidence} {dht : PredictionConfidence}
    (hagrees : core.to_proto = dht.to_proto) : core.is_predictable = (dht != .Random) := by
  revert hagrees
  cases core <;> cases dht <;> decide

/-- The two crates decode the messages alike exactly when every confidence in them is known. -/
theorem decode_alike_iff (info : signaling.NatInfo) (prediction : signaling.PortPrediction)
    (track : signaling.TrackAnnouncement) :
    DecodeAlike info prediction track ↔
      (∀ nested ∈ info.prediction,
        (signaling.PredictionConfidence.try_from nested.confidence).isSome) ∧
      (signaling.PredictionConfidence.try_from prediction.confidence).isSome := by
  rw [← nested_agrees_iff, ← confidence_agrees_iff]
  constructor
  · intro halike
    exact ⟨halike.nested, halike.confidence⟩
  · rintro ⟨hnested, hconfidence⟩
    exact ⟨nat_type_agrees info, hnested, hconfidence, is_predictable_of_agrees hconfidence,
      media_type_agrees track⟩

/-- A prediction with the confidence 3 is sequential and to be tried for one crate, random for
the other. -/
theorem unknown_confidence_decodes_apart :
    let prediction : signaling.PortPrediction := ⟨"192.0.2.1", 40000, 40010, 3, 40000, 1, 9, 0⟩
    ¬DecodeAlike ⟨2, some prediction⟩ prediction ⟨"voice", "opus", 1, 0, 64000, 16000, 20⟩ ∧
      (types.PortPredictionData.of_proto prediction).is_usable = true ∧
      (PortPrediction.from_proto prediction).confidence = .Random := by
  refine ⟨?_, by decide, by decide⟩
  intro halike
  exact absurd halike.confidence (by decide)

end voip_dht.record
