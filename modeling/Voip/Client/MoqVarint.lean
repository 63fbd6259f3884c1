import Voip.Client.CapsuleCodec
import Voip.Client.Moq

namespace voip_client.moq

open wire

/-- The varints of the session are read as those of the tunnel's capsules. -/
theorem decode_varint_eq_decode_h2_varint (data : Bytes) : decode_varint data = masque.decode_h2_varint data := by
  cases data with
  | nil => rfl
  | cons first rest =>
    by_cases hsmall : first.toNat < 64
    · have hshift : first.toNat >>> 6 = 0 := by
        rw [Nat.shiftRight_eq_div_pow, Nat.div_eq_of_lt hsmall]
      rw [masque.decode_h2_varint_of_small first rest hsmall]
      simp only [decode_varint, hshift]
    · have hshift : first.toNat >>> 6 ≠ 0 := by
        rw [Nat.shiftRight_eq_div_pow]
        omega
      unfold decode_varint masque.decode_h2_varint
      dsimp only
      split
      next hzero => contradiction
      next => simp_all
      next => simp_all
      next => simp_all

theorem decode_varint_append {value : Nat} {bytes : Bytes} (hvarint : IsQuicVarint value bytes) (rest : Bytes) :
    decode_varint (bytes ++ rest) = (value, bytes.length) := by
  rw [decode_varint_eq_decode_h2_varint, masque.decode_h2_varint_append hvarint]

theorem decode_varint_of_short {first : UInt8} {rest : Bytes}
    (hlength : (first :: rest).length < 2 ^ (first.toNat / 64)) : decode_varint (first :: rest) = (0, 0) := by
  rw [decode_varint_eq_decode_h2_varint, masque.decode_h2_varint_of_short hlength]

/-- What is read is a complete varint at the start of the data, or nothing. -/
theorem decode_varint_cases (data : Bytes) :
    decode_varint data = (0, 0) ∨ ∃ value bytes rest, IsQuicVarint value bytes ∧ data = bytes ++ rest ∧
      decode_varint data = (value, bytes.length) := by
  rw [decode_varint_eq_decode_h2_varint]
  exact masque.decode_h2_varint_cases data

/-- A number other than zero is read from a complete varint, and the cursor moves behind it. -/
theorem isQuicVarint_of_decode_varint {data : Bytes} {value size : Nat}
    (hread : decode_varint data = (value, size)) (hvalue : value ≠ 0) :
    ∃ bytes, IsQuicVarint value bytes ∧ data = bytes ++ data.drop size := by
  rcases decode_varint_cases data with hnone | ⟨value', bytes, rest, hvarint, rfl, hsome⟩
  · rw [hread] at hnone
    exact absurd (congrArg Prod.fst hnone) hvalue
  · rw [hread, Prod.mk.injEq] at hsome
    obtain ⟨rfl, rfl⟩ := hsome
    exact ⟨bytes, hvarint, by simp⟩

/-- What stands at the start of the data where a number other than zero is read. -/
theorem decode_varint_fst {data : Bytes} {value : Nat} (hread : (decode_varint data).1 = value)
    (hvalue : value ≠ 0) :
    ∃ bytes, IsQuicVarint value bytes ∧ data = bytes ++ data.drop (decode_varint data).2 := by
  subst hread
  exact isQuicVarint_of_decode_varint Prod.mk.eta.symm hvalue

/-- Data starts with the varint of one number only. -/
theorem isQuicVarint_unique {value value' : Nat} {bytes bytes' rest rest' : Bytes}
    (hvarint : IsQuicVarint value bytes) (hvarint' : IsQuicVarint value' bytes')
    (hdata : bytes ++ rest = bytes' ++ rest') : value = value' := by
  have hread := decode_varint_append hvarint rest
  rw [hdata, decode_varint_append hvarint' rest'] at hread
  exact (congrArg Prod.fst hread).symm

/-- The width goes above the bits of the number. -/
private theorem or_width {value : Nat} (bits log : Nat) (hvalue : value < 2 ^ bits) :
    2 ^ bits * log ||| value = value + log * 2 ^ bits := by
  rw [← Nat.two_pow_add_eq_or_of_lt hvalue]
  ring

/-- What the session writes are varints of QUIC. -/
theorem isQuicVarint_encode_varint {value : Nat} (hvalue : value < 2 ^ 62) :
    IsQuicVarint value (encode_varint value) := by
  unfold encode_varint
  split
  next hsmall => exact ⟨0, by omega, hsmall, by simp [quicVarint, be]⟩
  next =>
    split
    next hsmall => exact ⟨1, by omega, hsmall, congrArg (be 2) (or_width 14 1 hsmall)⟩
    next =>
      split
      next hsmall => exact ⟨2, by omega, hsmall, congrArg (be 4) (or_width 30 2 hsmall)⟩
      next => exact ⟨3, by omega, hvalue, congrArg (be 8) (or_width 62 3 hvalue)⟩

end voip_client.moq
