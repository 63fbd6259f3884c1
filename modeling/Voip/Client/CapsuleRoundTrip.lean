import Voip.Client.ReadsSelf

namespace voip_client.masque

open wire

variable {p q : Bytes}

theorem decode_encode_eq_ok {capsule_len cl_len quarter qs_len : Nat}
    (hlen : decode_h2_varint (capsule_body p) = (capsule_len, cl_len))
    (hstream : decode_h2_varint ((capsule_body p).drop cl_len) = (quarter, qs_len)) :
    decode_datagram_capsule (encode_datagram_capsule p) = .Ok q ↔
      qs_len ≤ capsule_len ∧ cl_len + capsule_len ≤ (capsule_body p).length ∧
        q = ((capsule_body p).drop (cl_len + qs_len)).take (capsule_len - qs_len) := by
  have htype : decode_h2_varint (0 :: capsule_body p) = (0, 1) := rfl
  rw [encode_datagram_capsule_eq, decode_datagram_capsule_eq_ok htype (by simpa using hlen)
    (by simpa [Nat.add_comm 1] using hstream)]
  simp only [List.length_cons, show 1 + cl_len + qs_len = cl_len + qs_len + 1 by omega,
    List.drop_succ_cons]
  rw [show 1 + cl_len + capsule_len = cl_len + capsule_len + 1 by omega, Nat.add_le_add_iff_right]

/-- A packet whose length fits in the six bits that both codecs share comes back. -/
theorem decode_encode_of_short (hshort : p.length ≤ 62) :
    decode_datagram_capsule (encode_datagram_capsule p) = .Ok p := by
  have hbyte : (UInt8.ofNat (p.length + 1)).toNat = p.length + 1 := by
    rw [UInt8.toNat_ofNat', Nat.mod_eq_of_lt (by omega)]
  have hbody : capsule_body p = UInt8.ofNat (p.length + 1) :: 0 :: p := by
    rw [capsule_body, leb128_of_lt (by omega), List.cons_append, List.nil_append]
  have hlen : decode_h2_varint (capsule_body p) = (p.length + 1, 1) := by
    rw [hbody, decode_h2_varint_of_small _ _ (by omega), hbyte]
  have hstream : decode_h2_varint ((capsule_body p).drop 1) = (0, 1) := by
    rw [hbody]
    rfl
  rw [decode_encode_eq_ok hlen hstream, hbody]
  refine ⟨by omega, ?_, by simp⟩
  rw [List.length_cons, List.length_cons]
  omega

private theorem exists_cons_of_getElem? {bytes : Bytes} {i : Nat} {byte : UInt8}
    (hbyte : bytes[i]? = some byte) : ∃ rest, bytes.drop i = byte :: rest := by
  rw [← List.head?_drop, List.head?_eq_some_iff] at hbyte
  exact hbyte

theorem decode_h2_varint_pos {data : Bytes} (hlength : 8 ≤ data.length) : 1 ≤ (decode_h2_varint data).2 := by
  cases data with
  | nil => simp at hlength
  | cons first rest =>
    have hfirst := first.toNat_lt
    have hwidth : 2 ^ (first.toNat / 64) ≤ 2 ^ 3 := Nat.pow_le_pow_right (by omega) (by omega)
    rw [decode_h2_varint_eq rfl (by omega)]
    exact Nat.one_le_two_pow

/-- The byte where the decoder looks for the stream id is small. -/
private theorem leb128Group_small {n log : Nat} (hlog : log ≤ 3) (hn : n < 2 ^ quicBits log) :
    leb128Group n (2 ^ log) < 64 := by
  have hlast : ¬ 128 ^ (2 ^ log + 1) ≤ n := by
    match log, hlog with
    | 0, _ | 1, _ | 2, _ | 3, _ =>
      norm_num [quicBits] at hn ⊢
      omega
  rw [leb128Group, if_neg hlast, Nat.add_zero]
  match log, hlog with
  | 0, _ | 1, _ | 2, _ | 3, _ =>
    norm_num [quicBits] at hn ⊢
    omega

/-- If a packet of more than 62 bytes comes back, then its length was read from its own
base-128 bytes, and the packet from the second byte after them. -/
theorem reads_self_of_round_trip (hlong : 63 ≤ p.length)
    (hok : decode_datagram_capsule (encode_datagram_capsule p) = .Ok p) :
    ∃ log, leb128Group (p.length + 1) 0 / 64 = log ∧ 2 ^ log ≤ (leb128 (p.length + 1)).length ∧
      ofBe ((capsule_body p).take (2 ^ log)) % 2 ^ quicBits log = p.length + 1 ∧
      p = ((capsule_body p).drop (2 ^ log + 1)).take p.length := by
  have hlength := length_capsule_body p
  have hgroup : leb128Group (p.length + 1) 0 < 256 := leb128Group_lt ..
  obtain ⟨log, hlog⟩ : ∃ log, leb128Group (p.length + 1) 0 / 64 = log := ⟨_, rfl⟩
  have hlog_le : log ≤ 3 := by omega
  have hwidth : 2 ^ log ≤ 2 ^ 3 := Nat.pow_le_pow_right (by omega) hlog_le
  have hlen : decode_h2_varint (capsule_body p) =
      (ofBe ((capsule_body p).take (2 ^ log)) % 2 ^ quicBits log, 2 ^ log) := by
    obtain ⟨tail, htail⟩ := exists_cons_of_getElem? (getElem?_leb128_append p (Nat.zero_le _))
    rw [List.drop_zero, ← capsule_body] at htail
    rw [htail] at hlength ⊢
    apply decode_h2_varint_eq
    · rw [UInt8.toNat_ofNat', Nat.mod_eq_of_lt hgroup, hlog]
    · omega
  have hbound := Nat.mod_lt (ofBe ((capsule_body p).take (2 ^ log))) (Nat.two_pow_pos (quicBits log))
  obtain ⟨⟨quarter, qs_len⟩, hstream⟩ :
      ∃ read, decode_h2_varint ((capsule_body p).drop (2 ^ log)) = read := ⟨_, rfl⟩
  have hpositive : 1 ≤ qs_len := by
    have hrest : 8 ≤ ((capsule_body p).drop (2 ^ log)).length := by
      rw [List.length_drop]
      omega
    have hread := decode_h2_varint_pos hrest
    rwa [hstream] at hread
  obtain ⟨hle, hfits, hp⟩ := (decode_encode_eq_ok hlen hstream).mp hok
  have hcount : p.length = ofBe ((capsule_body p).take (2 ^ log)) % 2 ^ quicBits log - qs_len := by
    have hcount := congrArg List.length hp
    rw [List.length_take, List.length_drop] at hcount
    omega
  have hwithin : 2 ^ log ≤ (leb128 (p.length + 1)).length := by omega
  have hone : qs_len = 1 := by
    obtain ⟨tail, htail⟩ := exists_cons_of_getElem? (getElem?_leb128_append p hwithin)
    have hsmall : leb128Group (p.length + 1) (2 ^ log) < 64 := leb128Group_small hlog_le (by omega)
    have hbyte : (UInt8.ofNat (leb128Group (p.length + 1) (2 ^ log))).toNat < 64 := by
      rwa [UInt8.toNat_ofNat', Nat.mod_eq_of_lt (by omega)]
    have hread := decode_h2_varint_of_small _ tail hbyte
    rw [← htail, ← capsule_body, hstream] at hread
    exact congrArg Prod.snd hread
  subst hone
  refine ⟨log, hlog, hwithin, by omega, ?_⟩
  rwa [← hcount] at hp

/-- A packet that is its own shift by a zero byte consists of zeros. -/
private theorem eq_shift_iff : p = (0 :: p).take p.length ↔ ∀ byte ∈ p, byte = 0 := by
  constructor
  · intro hshift
    have hentry : ∀ (i : Nat) (byte : UInt8), p[i]? = some byte → byte = 0 := by
      intro i
      induction i with
      | zero =>
        intro byte hbyte
        have hlength := (List.getElem?_eq_some_iff.mp hbyte).1
        rw [hshift, List.getElem?_take_of_lt hlength] at hbyte
        simpa using hbyte.symm
      | succ i ih =>
        intro byte hbyte
        have hlength := (List.getElem?_eq_some_iff.mp hbyte).1
        rw [hshift, List.getElem?_take_of_lt hlength] at hbyte
        exact ih byte (by simpa using hbyte)
    intro byte hbyte
    obtain ⟨i, hi⟩ := List.mem_iff_getElem?.mp hbyte
    exact hentry i byte hi
  · intro hzeros
    have hreplicate : p = List.replicate p.length 0 := List.eq_replicate_of_mem hzeros
    rw [hreplicate, List.length_replicate, ← List.replicate_succ, List.take_replicate]
    simp

private theorem leb128_longest : leb128 (2 ^ 62 - 1) = [255, 255, 255, 255, 255, 255, 255, 255, 63] := by
  iterate 8 rw [leb128_of_ge (by omega)]
  rw [leb128_of_lt (by omega)]
  rfl

/-- The longest length that eight bytes hold is read from its own base-128 bytes. -/
private theorem decode_encode_of_longest (hlength : p.length = 2 ^ 62 - 2) (hzeros : ∀ byte ∈ p, byte = 0) :
    decode_datagram_capsule (encode_datagram_capsule p) = .Ok p := by
  have hbody : capsule_body p = 255 :: 255 :: 255 :: 255 :: 255 :: 255 :: 255 :: 255 :: 63 :: 0 :: p := by
    rw [capsule_body, hlength, show 2 ^ 62 - 2 + 1 = 2 ^ 62 - 1 from rfl, leb128_longest]
    rfl
  have hlen : decode_h2_varint (capsule_body p) = (2 ^ 62 - 1, 8) := by
    have hfirst : (255 : UInt8).toNat / 64 = 3 := rfl
    have hvalue : ofBe [255, 255, 255, 255, 255, 255, 255, 255] % 2 ^ 62 = 2 ^ 62 - 1 := by decide
    rw [hbody, decode_h2_varint_eq hfirst (by simp)]
    exact Prod.ext hvalue rfl
  have hstream : decode_h2_varint ((capsule_body p).drop 8) = (63, 1) := by
    rw [hbody]
    rfl
  rw [decode_encode_eq_ok hlen hstream]
  refine ⟨by omega, ?_, ?_⟩
  · rw [hbody]
    simp only [List.length_cons]
    omega
  · rw [hbody, show 2 ^ 62 - 1 - 1 = p.length by omega]
    exact eq_shift_iff.mpr hzeros

/-- A packet comes back from the decoder exactly when it has at most 62 bytes, or when it
is one packet of a length that no memory holds. -/
theorem decode_encode_eq_ok_iff (p : Bytes) :
    decode_datagram_capsule (encode_datagram_capsule p) = .Ok p ↔
      p.length ≤ 62 ∨ p.length = 2 ^ 62 - 2 ∧ ∀ byte ∈ p, byte = 0 := by
  constructor
  · intro hok
    by_cases hshort : p.length ≤ 62
    · exact .inl hshort
    · obtain ⟨log, hlog, hwithin, hreads, hp⟩ := reads_self_of_round_trip (by omega) hok
      have hn : 64 ≤ p.length + 1 := by omega
      have hgroup : leb128Group (p.length + 1) 0 =
          (p.length + 1) % 128 + if 128 ≤ p.length + 1 then 128 else 0 := by
        simp [leb128Group]
      have hle := leb128Group_lt (p.length + 1) 0
      obtain rfl | rfl | rfl | rfl : log = 0 ∨ log = 1 ∨ log = 2 ∨ log = 3 := by omega
      · exfalso
        split at hgroup <;> omega
      · have hmore : 128 ^ 1 ≤ p.length + 1 := le_of_length_leb128 hwithin
        rw [if_pos (by omega)] at hgroup
        omega
      · have hmore : 128 ^ 3 ≤ p.length + 1 := le_of_length_leb128 hwithin
        rw [if_pos (by omega)] at hgroup
        exact absurd hreads (not_reads_self_four hwithin (by omega))
      · have hlongest : p.length + 1 = 2 ^ 62 - 1 := reads_self_eight hwithin hreads
        refine .inr ⟨by omega, eq_shift_iff.mp ?_⟩
        have hdrop : (capsule_body p).drop (2 ^ 3 + 1) = 0 :: p := by
          rw [capsule_body, hlongest, leb128_longest]
          rfl
        rwa [hdrop] at hp
  · rintro (hshort | ⟨hlength, hzeros⟩)
    · exact decode_encode_of_short hshort
    · exact decode_encode_of_longest hlength hzeros

/-- The length 64 of 63 bytes and a stream id takes one byte of the encoder and two of the
decoder, which then slices backwards. -/
theorem decode_encode_ne_ok_of_63_bytes :
    decode_datagram_capsule (encode_datagram_capsule (List.replicate 63 0)) = .panic ∧
      decode_datagram_capsule (encode_datagram_capsule (List.replicate 63 0)) ≠
        .Ok (List.replicate 63 0) := by
  decide

end voip_client.masque
