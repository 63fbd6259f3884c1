import Voip.Client.Bridge
import Mathlib.Data.Set.List

namespace voip_client.masque

open wire

section Bridge

variable {send_datagram : List Bytes → Bytes → Bool}

/-- Of each frame that begins with a whole capsule, the bridge forwards the first packet. -/
theorem h2_to_quic_of_whole (hsend : ∀ sent packet, send_datagram sent packet = true)
    (frames : List (DatagramCapsule × Bytes)) (sent : List Bytes) :
    h2_to_quic send_datagram sent (frames.map fun frame => .data (frame.1.bytes ++ frame.2)) =
      sent ++ frames.map fun frame => frame.1.payload := by
  induction frames generalizing sent with
  | nil => simp [h2_to_quic]
  | cons frame frames ih =>
    rw [List.map_cons, h2_to_quic, decode_datagram_capsule_append]
    simp only [hsend, if_true, ih, List.map_cons, List.append_assoc, List.singleton_append]

/-- The bytes of a frame that carries one or more whole capsules. -/
def frame_of (group : DatagramCapsule × List DatagramCapsule) : Bytes :=
  group.1.bytes ++ group.2.flatMap DatagramCapsule.bytes

private theorem frame_of_eq_bytes_iff {group : DatagramCapsule × List DatagramCapsule} :
    (∃ capsule : DatagramCapsule, frame_of group = capsule.bytes) ↔ group.2 = [] := by
  constructor
  · rintro ⟨capsule, heq⟩
    have heq' : group.1.bytes ++ group.2.flatMap DatagramCapsule.bytes = capsule.bytes ++ [] := by
      rw [List.append_nil]
      exact heq
    have hrest := (DatagramCapsule.append_inj heq').2
    cases hgroup : group.2 with
    | nil => rfl
    | cons capsule rest => simp [hgroup, capsule.bytes_ne_nil] at hrest
  · intro hempty
    exact ⟨group.1, by simp [frame_of, hempty]⟩

private theorem length_le_flatMap (groups : List (DatagramCapsule × List DatagramCapsule)) :
    groups.length ≤ (groups.flatMap fun group => group.1 :: group.2).length := by
  induction groups with
  | nil => simp
  | cons group groups ih =>
    simp only [List.flatMap_cons, List.length_append, List.length_cons]
    omega

/-- The first packets of the frames are all packets exactly when no frame carries more. -/
private theorem firsts_eq_all_iff (groups : List (DatagramCapsule × List DatagramCapsule)) :
    (groups.map fun group => group.1.payload) =
        (groups.flatMap fun group => group.1 :: group.2).map DatagramCapsule.payload ↔
      ∀ group ∈ groups, group.2 = [] := by
  constructor
  · intro heq
    have hlength := congrArg List.length heq
    rw [List.length_map, List.length_map] at hlength
    induction groups with
    | nil => simp
    | cons group groups ih =>
      have hle := length_le_flatMap groups
      simp only [List.flatMap_cons, List.length_append, List.length_cons] at hlength
      have hnil : group.2 = [] := List.eq_nil_of_length_eq_zero (by omega)
      rw [List.flatMap_cons, hnil] at heq
      intro other hother
      obtain rfl | hother := List.mem_cons.mp hother
      · exact hnil
      · exact ih (List.cons.inj heq).2 (by omega) other hother
  · intro hnil
    induction groups with
    | nil => rfl
    | cons group groups ih =>
      have hrest := ih fun other hother => hnil other (List.mem_cons_of_mem _ hother)
      rw [List.map_cons, hrest, List.flatMap_cons, hnil group List.mem_cons_self]
      rfl

/-- When the byte stream is cut at ends of capsules only, the bridge forwards exactly its
packets if and only if each frame carries one capsule. -/
theorem h2_to_quic_delivers_iff (hsend : ∀ sent packet, send_datagram sent packet = true)
    (capsules : List DatagramCapsule) (frames : List Bytes)
    (hcut : frames.flatten = capsules.flatMap DatagramCapsule.bytes)
    (haligned : ∀ frame ∈ frames, ∃ group, frame_of group = frame) :
    h2_to_quic send_datagram [] (frames.map .data) = capsules.map DatagramCapsule.payload ↔
      ∀ frame ∈ frames, ∃ capsule : DatagramCapsule, frame = capsule.bytes := by
  obtain ⟨groups, rfl⟩ : frames ∈ Set.range (List.map frame_of) := by
    rw [Set.range_list_map]
    exact haligned
  have hall : (groups.flatMap fun group => group.1 :: group.2).flatMap DatagramCapsule.bytes =
      capsules.flatMap DatagramCapsule.bytes := by
    rw [← hcut, List.flatMap_assoc, ← List.flatMap_def]
    rfl
  have hforwards := h2_to_quic_of_whole hsend
    (groups.map fun group => (group.1, group.2.flatMap DatagramCapsule.bytes)) []
  simp only [List.map_map, List.nil_append] at hforwards
  rw [← payloads_eq_of_flatMap_eq hall, List.map_map, List.forall_mem_map]
  refine (Eq.congr_left hforwards).trans ((firsts_eq_all_iff groups).trans ?_)
  exact forall₂_congr fun group _ => frame_of_eq_bytes_iff.symm

end Bridge

/-- The capsule of one byte, in the shortest form. -/
def DatagramCapsule.of_byte (byte : UInt8) : DatagramCapsule where
  type_log := 0
  length_log := 0
  stream_log := 0
  quarter_stream_id := 0
  payload := [byte]
  type_log_lt := by decide
  length_log_lt := by decide
  stream_log_lt := by decide
  length_fits := by simp [quicBits]
  stream_fits := by decide

/-- Two packets in frames of their own. -/
theorem h2_to_quic_delivers_two :
    h2_to_quic (fun _ _ => true) []
      ([(DatagramCapsule.of_byte 7).bytes, (DatagramCapsule.of_byte 8).bytes].map .data) = [[7], [8]] := by
  refine (h2_to_quic_delivers_iff (fun _ _ => rfl) [.of_byte 7, .of_byte 8] _ rfl ?_).mpr ?_
  · refine List.forall_mem_cons.mpr ⟨?_, List.forall_mem_singleton.mpr ?_⟩
    · exact ⟨(.of_byte 7, []), List.append_nil _⟩
    · exact ⟨(.of_byte 8, []), List.append_nil _⟩
  · refine List.forall_mem_cons.mpr ⟨?_, List.forall_mem_singleton.mpr ?_⟩
    · exact ⟨.of_byte 7, rfl⟩
    · exact ⟨.of_byte 8, rfl⟩

/-- Of two packets in one frame the second is lost; and a packet whose capsule is split
over two frames is lost. -/
theorem not_h2_to_quic_delivers :
    (¬ ∀ frames : List Bytes,
      frames.flatten = [DatagramCapsule.of_byte 7, .of_byte 8].flatMap DatagramCapsule.bytes →
      h2_to_quic (fun _ _ => true) [] (frames.map .data) = [[7], [8]]) ∧
    ¬ ∀ frames : List Bytes, frames.flatten = (DatagramCapsule.of_byte 7).bytes →
      h2_to_quic (fun _ _ => true) [] (frames.map .data) = [[7]] := by
  constructor
  · intro hdelivers
    have hboth := hdelivers [[0, 2, 0, 7, 0, 2, 0, 8]] (by decide)
    revert hboth
    decide
  · intro hdelivers
    have hsplit := hdelivers [[0, 2, 0], [7]] (by decide)
    revert hsplit
    decide

end voip_client.masque
