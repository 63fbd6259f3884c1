import Voip.Client.Capsule
import Voip.Wire.Canonical

namespace voip_client.masque

open wire

private theorem or_continuation {byte : Nat} (hbyte : byte < 128) : byte ||| 0x80 = byte + 128 := by
  have hsplit := Nat.two_pow_add_eq_or_of_lt (i := 7) hbyte 1
  rw [Nat.or_comm, Nat.add_comm]
  simpa using hsplit.symm

/-- The encoder's varints are base-128, the least significant group first. -/
theorem encode_varint_eq (value : Nat) : encode_varint value = leb128 value := by
  have hloop : ∀ fuel value, encode_varint_loop fuel value = leb128Groups fuel value := by
    intro fuel
    induction fuel with
    | zero => intro value; rfl
    | succ fuel ih =>
      intro value
      have hlow : value &&& 0x7F = value % 128 := Nat.and_two_pow_sub_one_eq_mod value 7
      have hshift : value >>> 7 = value / 128 := Nat.shiftRight_eq_div_pow value 7
      simp only [encode_varint_loop, leb128Groups, hlow, hshift, ih]
      by_cases hsmall : value < 128
      · rw [if_neg (by omega), if_pos hsmall, Nat.mod_eq_of_lt hsmall]
      · rw [if_pos (by omega), if_neg hsmall, or_continuation (Nat.mod_lt _ (by omega))]
  exact hloop ..

/-- Both loops shift by seven bits as long as a group is left, and each round makes a byte. -/
theorem varint_len_loop_eq {fuel v : Nat} (hfuel : v ≤ fuel) (len : Nat) :
    varint_len_loop fuel v len + 1 = len + (leb128 v).length := by
  induction fuel generalizing v len with
  | zero =>
    obtain rfl : v = 0 := by omega
    rw [leb128_of_lt (by omega)]
    rfl
  | succ fuel ih =>
    rw [varint_len_loop]
    by_cases hlarge : v > 0x7F
    · have hshift : v >>> 7 = v / 128 := Nat.shiftRight_eq_div_pow v 7
      have hrest := ih (show v / 128 ≤ fuel by omega) (len + 1)
      rw [if_pos hlarge, hshift, hrest, leb128_of_ge (show 128 ≤ v by omega), List.length_cons]
      omega
    · rw [if_neg hlarge, leb128_of_lt (by omega), List.length_singleton]

/-- A number of 64 bits is announced with the length that it takes, can be told from every other
where it stands at the start of a text, and is read back from its groups of seven bits. -/
theorem varint_exact (v : UInt64) :
    varint_len v.toNat = (encode_varint v.toNat).length ∧
      (∀ w : UInt64, w ≠ v → ¬encode_varint v.toNat <+: encode_varint w.toNat) ∧
      proto.readVarint 10 (encode_varint v.toNat) = some (v.toNat, []) := by
  simp only [encode_varint_eq]
  refine ⟨?_, fun w hother hfirst => ?_, ?_⟩
  · have hlen := varint_len_loop_eq (Nat.le_refl v.toNat) 1
    unfold varint_len
    omega
  · obtain ⟨rest, hrest⟩ := hfirst
    rw [← List.append_nil (leb128 w.toNat)] at hrest
    exact hother (UInt64.toNat_inj.mp (leb128_append_inj hrest).1.symm)
  · have hlow : v.toNat < 128 ^ (9 + 1) := v.toNat_lt.trans (by decide)
    obtain ⟨result, hresult⟩ :=
      Option.isSome_iff_exists.mp (proto.isSome_readVarint_leb128 (length_leb128_le hlow) [])
    obtain rfl := proto.readVarint_leb128 hresult
    rwa [List.append_nil] at hresult

/-- A capsule after its type: the length in base 128, the stream id and the packet. -/
def capsule_body (p : Bytes) : Bytes := leb128 (p.length + 1) ++ 0 :: p

theorem length_capsule_body (p : Bytes) :
    (capsule_body p).length = (leb128 (p.length + 1)).length + p.length + 1 := by
  simp [capsule_body, Nat.add_assoc]

theorem encode_datagram_capsule_eq (p : Bytes) : encode_datagram_capsule p = 0 :: capsule_body p := by
  have hlen : varint_len 0 = 1 := rfl
  have hzero : leb128 0 = [0] := rfl
  simp [encode_datagram_capsule, capsule_body, encode_varint_eq, hlen, hzero, Nat.add_comm]

/-- The decoder's varints are those of QUIC: the two highest bits tell the width. -/
theorem decode_h2_varint_eq {log : Nat} {first : UInt8} {rest : Bytes} (hfirst : first.toNat / 64 = log)
    (hlength : 2 ^ log ≤ (first :: rest).length) :
    decode_h2_varint (first :: rest) =
      (ofBe ((first :: rest).take (2 ^ log)) % 2 ^ quicBits log, 2 ^ log) := by
  have hshift : first.toNat >>> 6 = log := by rw [Nat.shiftRight_eq_div_pow, ← hfirst]
  have hlog : log < 4 := by
    have := first.toNat_lt
    omega
  unfold decode_h2_varint
  dsimp only
  rw [hshift]
  match log, hlog with
  | 0, _ =>
    have hmask := Nat.and_two_pow_sub_one_eq_mod first.toNat 6
    have hbyte : ofBe [first] = first.toNat := by simp [ofBe]
    rw [← hbyte] at hmask
    exact Prod.ext (hbyte ▸ hmask) rfl
  | 1, _ =>
    have hmask := Nat.and_two_pow_sub_one_eq_mod (ofBe ((first :: rest).take 2)) 14
    exact (if_neg (Nat.not_lt.mpr hlength)).trans (Prod.ext hmask rfl)
  | 2, _ =>
    have hmask := Nat.and_two_pow_sub_one_eq_mod (ofBe ((first :: rest).take 4)) 30
    exact (if_neg (Nat.not_lt.mpr hlength)).trans (Prod.ext hmask rfl)
  | 3, _ =>
    have hmask := Nat.and_two_pow_sub_one_eq_mod (ofBe ((first :: rest).take 8)) 62
    exact (if_neg (Nat.not_lt.mpr hlength)).trans (Prod.ext hmask rfl)

theorem decode_h2_varint_of_small (first : UInt8) (rest : Bytes) (hsmall : first.toNat < 64) :
    decode_h2_varint (first :: rest) = (first.toNat, 1) := by
  have hmask : first.toNat &&& 0x3F = first.toNat := by
    rw [Nat.and_two_pow_sub_one_eq_mod first.toNat 6, Nat.mod_eq_of_lt hsmall]
  have hshift : first.toNat >>> 6 = 0 := by
    rw [Nat.shiftRight_eq_div_pow, Nat.div_eq_of_lt hsmall]
  simp only [decode_h2_varint, hshift, hmask]

/-- A complete varint at the start of the data is read, whatever follows it. -/
theorem decode_h2_varint_append {value : Nat} {bytes : Bytes} (hvarint : IsQuicVarint value bytes) (rest : Bytes) :
    decode_h2_varint (bytes ++ rest) = (value, bytes.length) := by
  obtain ⟨log, hlog, hvalue, rfl⟩ := hvarint
  obtain ⟨first, tail, hcons, hfirst⟩ := quicVarint_eq_cons hlog hvalue
  have hlength := length_quicVarint log value
  have htake : (first :: (tail ++ rest)).take (2 ^ log) = quicVarint log value := by
    rw [← List.cons_append, ← hcons, ← hlength, List.take_left]
  have hlong : 2 ^ log ≤ (first :: (tail ++ rest)).length := by
    rw [← List.cons_append, ← hcons, List.length_append, hlength]
    omega
  rw [hcons, List.cons_append, decode_h2_varint_eq hfirst hlong, htake, ofBe_quicVarint hlog hvalue,
    ← hcons, hlength]

/-- Data that ends too early is read as nothing. -/
theorem decode_h2_varint_of_short {first : UInt8} {rest : Bytes}
    (hlength : (first :: rest).length < 2 ^ (first.toNat / 64)) : decode_h2_varint (first :: rest) = (0, 0) := by
  have hlog : first.toNat / 64 < 4 := by
    have := first.toNat_lt
    omega
  have hshift : first.toNat >>> 6 = first.toNat / 64 := Nat.shiftRight_eq_div_pow first.toNat 6
  unfold decode_h2_varint
  dsimp only
  rw [hshift]
  generalize first.toNat / 64 = log at hlength hlog
  match log, hlog with
  | 0, _ => simp at hlength
  | 1, _ => exact if_pos hlength
  | 2, _ => exact if_pos hlength
  | 3, _ => exact if_pos hlength

/-- What is read is a complete varint at the start of the data, or nothing. -/
theorem decode_h2_varint_cases (data : Bytes) :
    decode_h2_varint data = (0, 0) ∨ ∃ value bytes rest, IsQuicVarint value bytes ∧ data = bytes ++ rest ∧
      decode_h2_varint data = (value, bytes.length) := by
  cases data with
  | nil => exact .inl rfl
  | cons first rest =>
    by_cases hlength : 2 ^ (first.toNat / 64) ≤ (first :: rest).length
    · refine .inr ⟨_, _, _, isQuicVarint_take hlength, (List.take_append_drop _ _).symm, ?_⟩
      rw [decode_h2_varint_eq rfl hlength, List.length_take_of_le hlength]
    · exact .inl (decode_h2_varint_of_short (Nat.not_le.mp hlength))

/-- What the decoder returns, and when. -/
theorem decode_datagram_capsule_eq_ok {data q : Bytes} {capsule_len ct_len cl_len quarter qs_len : Nat}
    (htype : decode_h2_varint data = (0, ct_len))
    (hlen : decode_h2_varint (data.drop ct_len) = (capsule_len, cl_len))
    (hstream : decode_h2_varint (data.drop (ct_len + cl_len)) = (quarter, qs_len)) :
    decode_datagram_capsule data = .Ok q ↔
      qs_len ≤ capsule_len ∧ ct_len + cl_len + capsule_len ≤ data.length ∧
        q = (data.drop (ct_len + cl_len + qs_len)).take (capsule_len - qs_len) := by
  have hdrop : (data.take (ct_len + cl_len + qs_len + capsule_len - qs_len)).drop
      (ct_len + cl_len + qs_len) =
        (data.drop (ct_len + cl_len + qs_len)).take (capsule_len - qs_len) := by
    rw [List.drop_take]
    congr 1
    omega
  simp only [decode_datagram_capsule, htype, hlen, hstream, ne_eq, not_true_eq_false, if_false, hdrop]
  split
  next hlong =>
    simp only [reduceCtorEq, false_iff, not_and]
    omega
  next hfits =>
    split
    next hbefore =>
      simp only [reduceCtorEq, false_iff, not_and]
      omega
    next hafter =>
      constructor
      · intro heq
        cases heq
        exact ⟨by omega, by omega, rfl⟩
      · rintro ⟨-, -, rfl⟩
        rfl

end voip_client.masque
