import Voip.Client.CapsuleCodec

namespace voip_client.masque

open wire

/-- What the receiving half of the HTTP/2 stream yields until it closes. -/
inductive Received where
  | data (bytes : Bytes)
  | error

/-- The bridge loop from HTTP/2 to QUIC, with the datagrams it has sent so far. Whether
`send_datagram` succeeds may depend on them. -/
def h2_to_quic (send_datagram : List Bytes → Bytes → Bool) (sent : List Bytes) :
    List Received → List Bytes
  | [] => sent
  | .error :: _ => sent
  | .data data :: stream =>
    match decode_datagram_capsule data with
    | .Ok quic_packet =>
      if send_datagram sent quic_packet then h2_to_quic send_datagram (sent ++ [quic_packet]) stream
      else sent
    | .Err _ => h2_to_quic send_datagram sent stream
    -- the spawned task ends
    | .panic => sent

/-- A well-formed DATAGRAM capsule. Each of its three varints may take any width that the
value fits in. -/
structure DatagramCapsule where
  type_log : Nat
  length_log : Nat
  stream_log : Nat
  quarter_stream_id : Nat
  payload : Bytes
  type_log_lt : type_log < 4
  length_log_lt : length_log < 4
  stream_log_lt : stream_log < 4
  length_fits : 2 ^ stream_log + payload.length < 2 ^ quicBits length_log
  stream_fits : quarter_stream_id < 2 ^ quicBits stream_log

namespace DatagramCapsule

variable (capsule : DatagramCapsule)

def capsule_len : Nat := 2 ^ capsule.stream_log + capsule.payload.length

def bytes : Bytes :=
  quicVarint capsule.type_log 0 ++ (quicVarint capsule.length_log capsule.capsule_len ++
    (quicVarint capsule.stream_log capsule.quarter_stream_id ++ capsule.payload))

theorem length_bytes :
    capsule.bytes.length = 2 ^ capsule.type_log + 2 ^ capsule.length_log + capsule.capsule_len := by
  simp [bytes, capsule_len, Nat.add_assoc]

end DatagramCapsule

section Capsule

variable (capsule : DatagramCapsule) (rest : Bytes)

private theorem decode_type :
    decode_h2_varint (capsule.bytes ++ rest) = (0, 2 ^ capsule.type_log) := by
  rw [DatagramCapsule.bytes, List.append_assoc]
  rw [decode_h2_varint_append ⟨_, capsule.type_log_lt, Nat.two_pow_pos _, rfl⟩, length_quicVarint]

private theorem decode_length :
    decode_h2_varint ((capsule.bytes ++ rest).drop (2 ^ capsule.type_log)) =
      (capsule.capsule_len, 2 ^ capsule.length_log) := by
  rw [DatagramCapsule.bytes, List.append_assoc, List.drop_left' (length_quicVarint ..), List.append_assoc]
  have hvarint : IsQuicVarint capsule.capsule_len (quicVarint capsule.length_log capsule.capsule_len) :=
    ⟨_, capsule.length_log_lt, capsule.length_fits, rfl⟩
  rw [decode_h2_varint_append hvarint, length_quicVarint]

private theorem decode_stream :
    decode_h2_varint ((capsule.bytes ++ rest).drop (2 ^ capsule.type_log + 2 ^ capsule.length_log)) =
      (capsule.quarter_stream_id, 2 ^ capsule.stream_log) := by
  rw [← List.drop_drop, DatagramCapsule.bytes, List.append_assoc, List.drop_left' (length_quicVarint ..),
    List.append_assoc, List.drop_left' (length_quicVarint ..), List.append_assoc]
  rw [decode_h2_varint_append ⟨_, capsule.stream_log_lt, capsule.stream_fits, rfl⟩, length_quicVarint]

private theorem drop_header :
    (capsule.bytes ++ rest).drop (2 ^ capsule.type_log + 2 ^ capsule.length_log + 2 ^ capsule.stream_log) =
      capsule.payload ++ rest := by
  rw [← List.drop_drop, ← List.drop_drop, DatagramCapsule.bytes, List.append_assoc,
    List.drop_left' (length_quicVarint ..), List.append_assoc, List.drop_left' (length_quicVarint ..),
    List.append_assoc, List.drop_left' (length_quicVarint ..)]

/-- Of a frame that begins with a whole capsule, the decoder returns the packet in it and
ignores the rest. -/
theorem decode_datagram_capsule_append :
    decode_datagram_capsule (capsule.bytes ++ rest) = .Ok capsule.payload := by
  rw [decode_datagram_capsule_eq_ok (decode_type ..) (decode_length ..) (decode_stream ..)]
  refine ⟨Nat.le_add_right .., ?_, ?_⟩
  · rw [List.length_append, capsule.length_bytes]
    omega
  · rw [drop_header, DatagramCapsule.capsule_len, Nat.add_sub_cancel_left, List.take_left]

/-- Capsules are told apart by their bytes, whatever follows them. -/
theorem DatagramCapsule.append_inj {capsule other : DatagramCapsule} {rest rest' : Bytes}
    (heq : capsule.bytes ++ rest = other.bytes ++ rest') :
    capsule.payload = other.payload ∧ rest = rest' := by
  have htype := decode_type capsule rest
  have hlen := decode_length capsule rest
  rw [heq, decode_type] at htype
  have htype_len : 2 ^ other.type_log = 2 ^ capsule.type_log := congrArg Prod.snd htype
  rw [heq, ← htype_len, decode_length] at hlen
  have hpacket := decode_datagram_capsule_append capsule rest
  rw [heq, decode_datagram_capsule_append] at hpacket
  have hlength : capsule.bytes.length = other.bytes.length := by
    rw [capsule.length_bytes, other.length_bytes, htype_len, (Prod.mk.inj hlen).1, (Prod.mk.inj hlen).2]
  refine ⟨?_, (List.append_inj heq hlength).2⟩
  injection hpacket with hpayload
  exact hpayload.symm

theorem DatagramCapsule.bytes_ne_nil : capsule.bytes ≠ [] := by
  rw [← List.length_pos_iff, capsule.length_bytes, Nat.add_assoc]
  exact Nat.add_pos_left (Nat.two_pow_pos _) _

end Capsule

/-- The packets of a byte stream do not depend on how it is parsed into capsules. -/
theorem payloads_eq_of_flatMap_eq {capsules others : List DatagramCapsule}
    (heq : capsules.flatMap DatagramCapsule.bytes = others.flatMap DatagramCapsule.bytes) :
    capsules.map DatagramCapsule.payload = others.map DatagramCapsule.payload := by
  induction capsules generalizing others with
  | nil =>
    cases others with
    | nil => rfl
    | cons other others => simp [other.bytes_ne_nil] at heq
  | cons capsule capsules ih =>
    cases others with
    | nil => simp [capsule.bytes_ne_nil] at heq
    | cons other others =>
      rw [List.flatMap_cons, List.flatMap_cons] at heq
      obtain ⟨hpayload, hrest⟩ := DatagramCapsule.append_inj heq
      rw [List.map_cons, List.map_cons, hpayload, ih hrest]

end voip_client.masque
