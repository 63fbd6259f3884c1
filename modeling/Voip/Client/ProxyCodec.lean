import Voip.Client.ProxyToken
import Voip.Result.Except
import Voip.Wire.Base64

namespace voip_client.proxy

open wire wire.base64 result voip_core.crypto

/-- Every digit is found at its own place. -/
theorem idxOf?_charset_digit {digit : UInt32} (hdigit : digit < 64) :
    CHARSET.idxOf? (charset_digit digit) = some digit.toNat := by
  have hall : ∀ value : Fin 64, CHARSET.idxOf? (CHARSET.getD value.val 'A') = some value.val := by
    decide +kernel
  exact hall ⟨digit.toNat, UInt32.lt_iff_toNat_lt.mp hdigit⟩

theorem charset_digit_ne_padding {digit : UInt32} (hdigit : digit < 64) : charset_digit digit ≠ '=' := by
  have hall : ∀ value : Fin 64, CHARSET.getD value.val 'A' ≠ '=' := by
    decide +kernel
  exact hall ⟨digit.toNat, UInt32.lt_iff_toNat_lt.mp hdigit⟩

/-- The loop collects the values of the digits. -/
theorem base64_decode_loop_digits {digits : List UInt32} (hdigits : ∀ digit ∈ digits, digit < 64)
    (i : Nat) (buffer bits : UInt32) :
    base64_decode_loop (digits.map charset_digit) i buffer bits = .ok (collect digits buffer bits) := by
  induction digits generalizing i buffer bits with
  | nil => rfl
  | cons digit digits ih =>
    obtain ⟨hdigit, hrest⟩ := List.forall_mem_cons.mp hdigits
    rw [List.map_cons, base64_decode_loop, idxOf?_charset_digit hdigit, collect]
    dsimp only
    rw [UInt32.ofNat_toNat]
    split
    · simp [ih hrest]
    · exact ih hrest _ _ _

/-- A text made of digits and padding decodes to the bytes that the digits stand for. -/
theorem base64_decode_padded (bytes : Bytes) (count : Nat) :
    base64_decode ((sextets bytes).map charset_digit ++ List.replicate count '=') = .ok bytes := by
  have htext : ∀ c ∈ (sextets bytes).map charset_digit, c ≠ '=' := by
    intro c hc
    obtain ⟨digit, hdigit, rfl⟩ := List.mem_map.mp hc
    exact charset_digit_ne_padding (sextets_lt bytes digit hdigit)
  rw [base64_decode, trim_padding htext, base64_decode_loop_digits (sextets_lt bytes), collect_sextets]

theorem read_be_eq_ok {width : Nat} {name : String} {buf : Bytes} {pos value next : Nat} :
    read_be width name buf pos = .ok (value, next) ↔
      pos + width ≤ buf.length ∧ ofBe ((buf.drop pos).take width) = value ∧ pos + width = next := by
  simp [read_be]

theorem read_string_eq_ok {utf8_error : Bytes → String} {buf : Bytes} {pos len next : Nat}
    {text : String} (hread : read_string utf8_error buf pos len = .ok (text, next)) :
    pos + len ≤ buf.length ∧ utf8 text = (buf.drop pos).take len ∧ pos + len = next := by
  unfold read_string at hread
  split at hread
  next => contradiction
  next hlength =>
    dsimp only at hread
    split at hread
    next => contradiction
    next s hs =>
      obtain ⟨rfl, hnext⟩ := by simpa using hread
      exact ⟨by omega, utf8_of_fromUTF8? hs, hnext⟩

/-- What a decoded token says about the bytes it was read from: they start with the length of
its peer id, are as long as its fields, and end in its signature. -/
theorem ProxyToken.decode_eq_ok {utf8_error : Bytes → String} {encoded : List Char}
    {token : ProxyToken} (hdecode : ProxyToken.decode utf8_error encoded = .ok token) :
    ∃ buf, base64_decode encoded = .ok buf ∧ (utf8 token.peer_id).length = ofBe (buf.take 2) ∧
      (utf8 token.proxy_url).length ≤ 65535 ∧
      buf.length = (utf8 token.peer_id).length + (utf8 token.proxy_url).length + 84 ∧
      token.signature = buf.drop (buf.length - 64) := by
  unfold ProxyToken.decode at hdecode
  simp only [bind_eq_ok, mapError_eq_ok, Prod.exists] at hdecode
  obtain ⟨buf, hbuf, peer_id_len, pos, hlen, peer_id, pos', hpeer, url_len, pos'', hlen', url, pos''',
    hurl, expires_at, pos4, hexpires, issued_at, pos5, hissued, hrest⟩ := hdecode
  obtain ⟨-, hpeer_id_len, rfl⟩ := read_be_eq_ok.mp hlen
  obtain ⟨hbound, hutf8, rfl⟩ := read_string_eq_ok hpeer
  obtain ⟨-, hurl_len, rfl⟩ := read_be_eq_ok.mp hlen'
  obtain ⟨hbound', hutf8', rfl⟩ := read_string_eq_ok hurl
  obtain ⟨-, -, rfl⟩ := read_be_eq_ok.mp hexpires
  obtain ⟨-, -, rfl⟩ := read_be_eq_ok.mp hissued
  split at hrest
  next => simp at hrest
  next hremaining =>
    simp only [pure_eq_ok] at hrest
    subst hrest
    have hpeer_length : (utf8 peer_id).length = peer_id_len := by
      rw [hutf8, List.length_take, List.length_drop]
      omega
    have hurl_length : (utf8 url).length = url_len := by
      rw [hutf8', List.length_take, List.length_drop]
      omega
    refine ⟨buf, hbuf, hpeer_length.trans hpeer_id_len.symm, ?_, ?_, ?_⟩
    · have hlt := ofBe_lt ((buf.drop (0 + 2 + peer_id_len)).take 2)
      have hwidth := Nat.pow_le_pow_right (show 0 < 256 by omega)
        (List.length_take_le 2 (buf.drop (0 + 2 + peer_id_len)))
      dsimp only
      omega
    · dsimp only
      omega
    · dsimp only
      congr 1
      omega

/-- The verifier accepts unexpired tokens whose signature it can check. -/
theorem TokenVerifier.verify_eq_ok {ed25519 : Ed25519} {verifying_key : Bytes} {now : UInt64}
    {token : ProxyToken} :
    TokenVerifier.verify ed25519 verifying_key now token = .ok () ↔
      token.is_expired now = false ∧ token.signature.length = 64 ∧
        ed25519.verify verifying_key (ProxyToken.signing_message token.peer_id token.proxy_url
          token.expires_at token.issued_at) token.signature = true := by
  simp [TokenVerifier.verify, ProxyToken.verify]

end voip_client.proxy
