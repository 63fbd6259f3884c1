import Voip.Client.ProxyCodec

namespace voip_client.proxy

open wire wire.base64 result

/-- The text is made of digits, and padding after them. -/
theorem base64_encode_eq (bytes : Bytes) :
    ∃ count, base64_encode bytes = (sextets bytes).map charset_digit ++ List.replicate count '=' := by
  induction bytes using sextets.induct with
  | case1 => exact ⟨0, rfl⟩
  | case2 b0 =>
    refine ⟨2, ?_⟩
    rw [sextets, ← triple_digit0 b0 0 0, ← triple_digit1 b0 0 0]
    rfl
  | case3 b0 b1 =>
    refine ⟨1, ?_⟩
    rw [sextets, ← triple_digit0 b0 b1 0, ← triple_digit1 b0 b1 0, ← triple_digit2 b0 b1 0]
    rfl
  | case4 b0 b1 b2 rest ih =>
    obtain ⟨count, hrest⟩ := ih
    refine ⟨count, ?_⟩
    rw [base64_encode, hrest, sextets, ← triple_digit0 b0 b1 b2, ← triple_digit1 b0 b1 b2,
      ← triple_digit2 b0 b1 b2, ← triple_digit3 b0 b1 b2]
    rfl

theorem base64_decode_base64_encode (bytes : Bytes) : base64_decode (base64_encode bytes) = .ok bytes := by
  obtain ⟨count, heq⟩ := base64_encode_eq bytes
  rw [heq, base64_decode_padded]

variable {buf rest : Bytes} {pos : Nat}

/-- A number inside the buffer is read, up to its width. -/
theorem read_be_of_drop (name : String) {width value : Nat} (hpos : pos ≤ buf.length)
    (hdrop : buf.drop pos = be width value ++ rest) :
    read_be width name buf pos = .ok (value % 256 ^ width, pos + width) := by
  have hbound := add_le_of_drop hpos hdrop
  rw [length_be] at hbound
  rw [read_be_eq_ok]
  refine ⟨hbound, ?_, rfl⟩
  rw [hdrop, List.take_left' (length_be ..), ofBe_be]

/-- A text inside the buffer is read when its length is known. -/
theorem read_string_of_drop (utf8_error : Bytes → String) {text : String} (hpos : pos ≤ buf.length)
    (hdrop : buf.drop pos = utf8 text ++ rest) :
    read_string utf8_error buf pos (utf8 text).length = .ok (text, pos + (utf8 text).length) := by
  have hbound := add_le_of_drop hpos hdrop
  rw [read_string, if_neg (Nat.not_lt.mpr hbound)]
  dsimp only
  rw [hdrop, List.take_left, fromUTF8?_utf8]

namespace ProxyToken

/-- The bytes of a token before base64. -/
def buffer (token : ProxyToken) : Bytes :=
  be 2 (utf8 token.peer_id).length ++ (utf8 token.peer_id ++ (be 2 (utf8 token.proxy_url).length ++
    (utf8 token.proxy_url ++ (be 8 token.expires_at.toNat ++ (be 8 token.issued_at.toNat ++ token.signature)))))

theorem encode_eq (token : ProxyToken) : token.encode = base64_encode token.buffer := by
  simp [encode, buffer]

theorem length_buffer (token : ProxyToken) :
    token.buffer.length =
      (utf8 token.peer_id).length + (utf8 token.proxy_url).length + 20 + token.signature.length := by
  simp only [buffer, List.length_append, length_be]
  omega

theorem toNat_mod_width (number : UInt64) : number.toNat % 256 ^ 8 = number.toNat :=
  Nat.mod_eq_of_lt number.toNat_lt

/-- A token whose lengths fit in two bytes is read field by field. -/
theorem decode_encode_of_le (utf8_error : Bytes → String) (token : ProxyToken)
    (hsignature : token.signature.length = 64)
    (hpeer_id : (utf8 token.peer_id).length ≤ 65535) (hproxy_url : (utf8 token.proxy_url).length ≤ 65535) :
    decode utf8_error token.encode = .ok token := by
  have hpeer := Nat.mod_eq_of_lt (show (utf8 token.peer_id).length < 256 ^ 2 by omega)
  have hurl := Nat.mod_eq_of_lt (show (utf8 token.proxy_url).length < 256 ^ 2 by omega)
  have hlength := token.length_buffer
  have hdrop0 : token.buffer.drop 0 = token.buffer := rfl
  have hdrop1 := drop_add hdrop0
  have hdrop2 := drop_add hdrop1
  have hdrop3 := drop_add hdrop2
  have hdrop4 := drop_add hdrop3
  have hdrop5 := drop_add hdrop4
  have hdrop6 := drop_add hdrop5
  simp only [length_be] at hdrop1 hdrop2 hdrop3 hdrop4 hdrop5 hdrop6
  have hread0 := read_be_of_drop "u16" (Nat.zero_le _) hdrop0
  have hread1 := read_string_of_drop utf8_error (by omega) hdrop1
  have hread2 := read_be_of_drop "u16" (by omega) hdrop2
  have hread3 := read_string_of_drop utf8_error (by omega) hdrop3
  have hread4 := read_be_of_drop "u64" (by omega) hdrop4
  have hread5 := read_be_of_drop "u64" (by omega) hdrop5
  rw [hpeer] at hread0
  rw [hurl] at hread2
  rw [toNat_mod_width] at hread4 hread5
  simp only [decode, encode_eq, base64_decode_base64_encode, mapError_ok, read_u16_be, read_u64_be, ok_bind,
    hread0, hread1, hread2, hread3, hread4, hread5, hdrop6, UInt64.ofNat_toNat]
  rw [if_neg]
  · rfl
  · rw [hlength, hsignature]
    omega

/-- A token with a longer text is not read at all: the bytes are too many for the lengths
that are read. -/
theorem decode_encode_ne_ok (utf8_error : Bytes → String) (token decoded : ProxyToken)
    (hsignature : token.signature.length = 64)
    (hlong : 65535 < (utf8 token.peer_id).length ∨ 65535 < (utf8 token.proxy_url).length) :
    decode utf8_error token.encode ≠ .ok decoded := by
  intro hdecode
  obtain ⟨buf, hbuf, hpeer_id, hproxy_url, hlength, -⟩ := decode_eq_ok hdecode
  rw [encode_eq, base64_decode_base64_encode, Except.ok.injEq] at hbuf
  subst hbuf
  have htake : token.buffer.take 2 = be 2 (utf8 token.peer_id).length := List.take_left' (length_be ..)
  rw [htake, ofBe_be] at hpeer_id
  rw [length_buffer, hsignature] at hlength
  omega

/-- A token is read back as it was exactly when the lengths of both texts fit in two bytes,
and no token is read otherwise. -/
theorem proxy_token_round_trip (utf8_error : Bytes → String) (token : ProxyToken)
    (hsignature : token.signature.length = 64) :
    ((utf8 token.peer_id).length ≤ 65535 ∧ (utf8 token.proxy_url).length ≤ 65535 →
      decode utf8_error token.encode = .ok token) ∧
    (¬((utf8 token.peer_id).length ≤ 65535 ∧ (utf8 token.proxy_url).length ≤ 65535) →
      ∃ error, decode utf8_error token.encode = .error error) := by
  constructor
  · rintro ⟨hpeer_id, hproxy_url⟩
    exact decode_encode_of_le utf8_error token hsignature hpeer_id hproxy_url
  · intro hlong
    cases hdecode : decode utf8_error token.encode with
    | error error => exact ⟨error, rfl⟩
    | ok decoded => exact absurd hdecode (decode_encode_ne_ok utf8_error token decoded hsignature (by omega))

/-- A peer id of many characters. -/
def long_peer_id (count : Nat) : String := String.ofList (List.replicate count 'a')

theorem length_long_peer_id (count : Nat) : (utf8 (long_peer_id count)).length = count := by
  rw [long_peer_id, utf8_ofList]
  induction count with
  | zero => rfl
  | succ count ih =>
    rw [List.replicate_succ, List.flatMap_cons, List.length_append, ih, Nat.add_comm]
    rfl

theorem proxy_token_round_trip_of_alice :
    decode (fun _ => "") (ProxyToken.mk "alice" "https://proxy.example.com:443" 1700000060 1700000000
        (List.replicate 64 0)).encode =
      .ok ⟨"alice", "https://proxy.example.com:443", 1700000060, 1700000000, List.replicate 64 0⟩ ∧
    ∃ error, decode (fun _ => "") (ProxyToken.mk (long_peer_id 65536) "https://proxy.example.com:443" 1700000060
        1700000000 (List.replicate 64 0)).encode = .error error := by
  constructor
  · exact (proxy_token_round_trip _ _ rfl).1 (by decide)
  · apply (proxy_token_round_trip _ _ rfl).2
    rw [length_long_peer_id]
    omega

end ProxyToken

end voip_client.proxy
