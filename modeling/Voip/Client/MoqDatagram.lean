import Mathlib.Data.UInt
import Voip.Client.MoqVarint

namespace voip_client.moq

open wire

def DATAGRAM_TYPE_MEDIA : UInt8 := 0x01

structure MoqDatagram where
  datagram_type : UInt8
  track_alias : UInt32
  sequence : UInt64
  timestamp : UInt64
  payload : Bytes
  deriving DecidableEq

namespace MoqDatagram

def new (track_alias : UInt32) (sequence timestamp : UInt64) (payload : Bytes) : MoqDatagram where
  datagram_type := DATAGRAM_TYPE_MEDIA
  track_alias
  sequence
  timestamp
  payload

def audio (track_alias : UInt32) (sequence timestamp : UInt64) (opus_data : Bytes) : MoqDatagram :=
  new track_alias sequence timestamp opus_data

def encode (self : MoqDatagram) : Bytes :=
  self.datagram_type :: (be 4 self.track_alias.toNat ++ (encode_varint self.sequence.toNat ++
    (encode_varint self.timestamp.toNat ++ self.payload)))

/-- What follows the type byte of a media datagram. -/
def decode_media (track_alias : Bytes) (cursor : Bytes) : MoqDatagram :=
  let (sequence, seq_len) := decode_varint cursor
  let cursor := cursor.drop seq_len
  let (timestamp, ts_len) := decode_varint cursor
  let cursor := cursor.drop ts_len
  { datagram_type := DATAGRAM_TYPE_MEDIA
    track_alias := .ofNat (ofBe track_alias)
    sequence := .ofNat sequence
    timestamp := .ofNat timestamp
    payload := cursor }

def decode (data : Bytes) : Except MoqError MoqDatagram :=
  match data with
  | datagram_type :: a0 :: a1 :: a2 :: a3 :: cursor =>
    if datagram_type ≠ DATAGRAM_TYPE_MEDIA then .error (.InvalidDatagramType datagram_type)
    else .ok (decode_media [a0, a1, a2, a3] cursor)
  | _ => .error (.DatagramTooShort data.length 5)

theorem decode_of_media {track_alias : Bytes} (halias : track_alias.length = 4) (cursor : Bytes) :
    decode (DATAGRAM_TYPE_MEDIA :: (track_alias ++ cursor)) = .ok (decode_media track_alias cursor) := by
  match track_alias, halias with
  | [a0, a1, a2, a3], _ => rfl

theorem decode_media_append {sequence timestamp : Nat} {first second : Bytes}
    (hfirst : IsQuicVarint sequence first) (hsecond : IsQuicVarint timestamp second)
    (track_alias payload : Bytes) :
    decode_media track_alias (first ++ (second ++ payload)) =
      new (.ofNat (ofBe track_alias)) (.ofNat sequence) (.ofNat timestamp) payload := by
  simp only [decode_media, decode_varint_append hfirst, List.drop_left, decode_varint_append hsecond]
  rfl

/-- A media datagram whose numbers fit into varints is read back as it was written. -/
theorem decode_encode {datagram : MoqDatagram} (htype : datagram.datagram_type = DATAGRAM_TYPE_MEDIA)
    (hsequence : datagram.sequence.toNat < 2 ^ 62) (htimestamp : datagram.timestamp.toNat < 2 ^ 62) :
    decode datagram.encode = .ok datagram := by
  obtain ⟨datagram_type, track_alias, sequence, timestamp, payload⟩ := datagram
  dsimp only at htype hsequence htimestamp
  subst htype
  have halias : ofBe (be 4 track_alias.toNat) = track_alias.toNat := by
    rw [ofBe_be]
    exact Nat.mod_eq_of_lt track_alias.toNat_lt
  simp only [encode]
  rw [decode_of_media (length_be ..), decode_media_append (isQuicVarint_encode_varint hsequence)
    (isQuicVarint_encode_varint htimestamp), halias, UInt32.ofNat_toNat, UInt64.ofNat_toNat, UInt64.ofNat_toNat]
  rfl

/-- A datagram is read back as it was written. -/
theorem moq_datagram_round_trip (track_alias : UInt32) (sequence timestamp : UInt64) (payload : Bytes)
    (hsequence : sequence.toNat < 2 ^ 62) (htimestamp : timestamp.toNat < 2 ^ 62) :
    decode (new track_alias sequence timestamp payload).encode =
      .ok (new track_alias sequence timestamp payload) := decode_encode rfl hsequence htimestamp

theorem moq_datagram_round_trip_of_largest_numbers :
    decode (new 7 (2 ^ 62 - 1) (2 ^ 62 - 1) [0xFC, 0xFF]).encode =
      .ok (new 7 (2 ^ 62 - 1) (2 ^ 62 - 1) [0xFC, 0xFF]) :=
  moq_datagram_round_trip 7 (2 ^ 62 - 1) (2 ^ 62 - 1) [0xFC, 0xFF] (by decide +kernel) (by decide +kernel)

/-- The bytes are the type of media, the alias, a varint for each of the two numbers and the
payload. -/
def Spells (data : Bytes) (datagram : MoqDatagram) : Prop :=
  datagram.datagram_type = DATAGRAM_TYPE_MEDIA ∧ ∃ sequence timestamp,
    IsQuicVarint datagram.sequence.toNat sequence ∧ IsQuicVarint datagram.timestamp.toNat timestamp ∧
    data = DATAGRAM_TYPE_MEDIA :: (be 4 datagram.track_alias.toNat ++
      (sequence ++ (timestamp ++ datagram.payload)))

/-- Two varints are complete at the start of the data. -/
def TwoVarints (data : Bytes) : Prop :=
  quicSize data ≤ data.length ∧
    quicSize (data.drop (quicSize data)) ≤ (data.drop (quicSize data)).length

theorem twoVarints_iff {data : Bytes} :
    TwoVarints data ↔ ∃ sequence timestamp first second payload, IsQuicVarint sequence first ∧
      IsQuicVarint timestamp second ∧ data = first ++ (second ++ payload) := by
  constructor
  · rintro ⟨hsequence, htimestamp⟩
    obtain ⟨sequence, hfirst⟩ := isQuicVarint_take_quicSize hsequence
    obtain ⟨timestamp, hsecond⟩ := isQuicVarint_take_quicSize htimestamp
    refine ⟨sequence, timestamp, _, _,
      (data.drop (quicSize data)).drop (quicSize (data.drop (quicSize data))), hfirst, hsecond, ?_⟩
    rw [List.take_append_drop, List.take_append_drop]
  · rintro ⟨sequence, timestamp, first, second, payload, hfirst, hsecond, rfl⟩
    refine ⟨hfirst.quicSize_le _, ?_⟩
    rw [hfirst.quicSize_append, List.drop_left]
    exact hsecond.quicSize_le payload

/-- A media datagram is read as it is spelled exactly when both its varints are complete. -/
theorem spells_decode_media_iff {track_alias cursor : Bytes} (halias : track_alias.length = 4) :
    Spells (DATAGRAM_TYPE_MEDIA :: (track_alias ++ cursor)) (decode_media track_alias cursor) ↔
      TwoVarints cursor := by
  rw [twoVarints_iff]
  constructor
  · rintro ⟨-, first, second, hfirst, hsecond, hdata⟩
    have hsplit := List.append_inj (List.cons.inj hdata).2 (by rw [halias, length_be])
    exact ⟨_, _, first, second, _, hfirst, hsecond, hsplit.2⟩
  · rintro ⟨sequence, timestamp, first, second, payload, hfirst, hsecond, rfl⟩
    rw [decode_media_append hfirst hsecond]
    have hwidth : ofBe track_alias < 2 ^ 32 := by
      have hlt := ofBe_lt track_alias
      rwa [halias] at hlt
    have hbytes : be 4 (ofBe track_alias) = track_alias := halias ▸ be_ofBe track_alias
    refine ⟨rfl, first, second, ?_, ?_, ?_⟩
    · rwa [new, UInt64.toNat_ofNat_of_lt' (hfirst.lt.trans (by decide))]
    · rwa [new, UInt64.toNat_ofNat_of_lt' (hsecond.lt.trans (by decide))]
    · rw [new, UInt32.toNat_ofNat_of_lt' hwidth, hbytes]

/-- What is decoded is what the datagram spells, exactly when it is rejected as too short or
as no media, or holds two complete varints after the alias. -/
theorem moq_datagram_decode_sound_iff (data : Bytes) :
    (∀ datagram, decode data = .ok datagram → Spells data datagram) ↔
      data.length < 5 ∨ data.head? ≠ some DATAGRAM_TYPE_MEDIA ∨ TwoVarints (data.drop 5) := by
  match data with
  | datagram_type :: a0 :: a1 :: a2 :: a3 :: cursor =>
    by_cases htype : datagram_type = DATAGRAM_TYPE_MEDIA
    · subst htype
      have hread : decode (DATAGRAM_TYPE_MEDIA :: a0 :: a1 :: a2 :: a3 :: cursor) =
          .ok (decode_media [a0, a1, a2, a3] cursor) := rfl
      rw [hread]
      simp only [Except.ok.injEq, forall_eq', List.length_cons, List.head?_cons, ne_eq, not_true_eq_false,
        List.drop_succ_cons, List.drop_zero, false_or]
      have hiff : Spells (DATAGRAM_TYPE_MEDIA :: a0 :: a1 :: a2 :: a3 :: cursor)
          (decode_media [a0, a1, a2, a3] cursor) ↔ TwoVarints cursor :=
        spells_decode_media_iff (show [a0, a1, a2, a3].length = 4 from rfl)
      constructor
      · intro hspells
        exact .inr (hiff.mp hspells)
      · rintro (hshort | hvarints)
        · omega
        · exact hiff.mpr hvarints
    · simp [decode, htype]
  | [] => simp [decode]
  | [_] => simp [decode]
  | [_, _] => simp [decode]
  | [_, _, _] => simp [decode]
  | [_, _, _, _] => simp [decode]

/-- A sequence number cut off after two of its eight bytes is read as zero, and its bytes as
the payload. -/
theorem decode_accepts_cut_sequence :
    decode [0x01, 0x00, 0x00, 0x00, 0x42, 0xC0, 0x05] = .ok (new 0x42 0 0 [0xC0, 0x05]) ∧
      ¬Spells [0x01, 0x00, 0x00, 0x00, 0x42, 0xC0, 0x05] (new 0x42 0 0 [0xC0, 0x05]) := by
  refine ⟨by decide, ?_⟩
  intro hspells
  have hvarints := (spells_decode_media_iff (show [0x00, 0x00, 0x00, 0x42].length = 4 from rfl)).mp hspells
  exact absurd hvarints.1 (by decide)

end MoqDatagram

end voip_client.moq
