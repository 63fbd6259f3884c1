import Voip.Signaling.Reference

namespace voip_signaling.masque

open wire voip_core.proto state

/-- The bytes that the server signs for a token. -/
def data_to_sign (peer_id target_peer_id : String) (issued_at : Nat) : Bytes :=
  signaling.ProxyToken.encode_to_vec
    { peer_id, target_peer_id, issued_at, ttl_seconds := 60, signature := [] }

theorem encode_sign_proxy_token (state : AppState) (peer_id target_peer_id : String) (issued_at : Nat) :
    (sign_proxy_token state peer_id target_peer_id issued_at).encode_to_vec =
      data_to_sign peer_id target_peer_id issued_at ++ proto.bytes 5
        (state.ed25519.sign state.signing_key (data_to_sign peer_id target_peer_id issued_at)) := by
  simp [sign_proxy_token, data_to_sign, signaling.ProxyToken.encode_to_vec, proto.bytes]

end voip_signaling.masque

namespace voip_signaling.jwt

open wire result error voip_core.crypto voip_core.proto state

/-- A signing input starts with the letter e. -/
theorem head?_signing_input (payload_b64 : List Char) :
    (utf8 (signing_input payload_b64)).head? = some 101 := by
  have hheader : ∃ rest, utf8 JWT_HEADER = 101 :: rest := ⟨_, rfl⟩
  obtain ⟨rest, hrest⟩ := hheader
  simp [signing_input, utf8_append, hrest]

end voip_signaling.jwt

namespace voip_signaling.masque

open wire voip_core.proto jwt state

/-- A token starts with the key of its first field that is set, which is no letter. -/
theorem starts_encode_to_vec (token : signaling.ProxyToken) :
    proto.Starts (· ≠ 101) token.encode_to_vec := by
  refine .append (.append (.append (.append ?_ ?_) ?_) ?_) ?_
  · exact proto.starts_bytes _ (by decide) (by decide)
  · exact proto.starts_bytes _ (by decide) (by decide)
  · exact proto.starts_uint _ (by decide) (by decide)
  · exact proto.starts_uint _ (by decide) (by decide)
  · exact proto.starts_bytes _ (by decide) (by decide)

theorem encode_to_vec_ne_signing_input (token : signaling.ProxyToken) (payload_b64 : List Char) :
    token.encode_to_vec ≠ utf8 (signing_input payload_b64) := by
  intro heq
  apply starts_encode_to_vec token 101
  · rw [heq, head?_signing_input]
  · rfl

/-- The bytes signed for a proxy token are no signing input of a JWT, and no token with
the signature of a proxy token passes as a JWT. -/
theorem proxy_token_signature_verifies_no_jwt (state : AppState) (peer_id target_peer_id : String)
    (issued_at ttl_seconds : Nat)
    (hbinds : state.ed25519.Binds state.signing_key (signaling.ProxyToken.encode_to_vec
      { peer_id, target_peer_id, issued_at, ttl_seconds, signature := [] })) :
    (∀ payload_b64, signaling.ProxyToken.encode_to_vec
        { peer_id, target_peer_id, issued_at, ttl_seconds, signature := [] } ≠
      utf8 (signing_input payload_b64)) ∧
    ∀ token now header payload_b64 sig_b64,
      token.toList.splitOn '.' = [header, payload_b64, sig_b64] →
      base64url_decode state.serde sig_b64 = .ok (state.ed25519.sign state.signing_key
        (signaling.ProxyToken.encode_to_vec
          { peer_id, target_peer_id, issued_at, ttl_seconds, signature := [] })) →
      ∀ claims, verify_jwt state.serde state.ed25519 state.verifying_key token now ≠ .ok claims := by
  refine ⟨encode_to_vec_ne_signing_input _, ?_⟩
  intro token now header payload_b64 sig_b64 hsplit hsig claims hverify
  obtain ⟨payload, sig, sig_bytes, payload_bytes, hsplit', hsig', -, hsigned, -⟩ :=
    verify_jwt_eq_ok.mp hverify
  obtain ⟨-, rfl, rfl⟩ : header = JWT_HEADER.toList ∧ payload_b64 = payload ∧ sig_b64 = sig := by
    simpa [hsplit] using hsplit'
  rw [hsig, Except.ok.injEq] at hsig'
  rw [← hsig'] at hsigned
  exact encode_to_vec_ne_signing_input _ _ (hbinds.eq_of_verify _ hsigned).symm

/-- A JWT of `alice` that carries the signature of a proxy token. -/
theorem proxy_token_signature_verifies_no_jwt_for_alice :
    let message := signaling.ProxyToken.encode_to_vec ⟨"alice", "bob", 1700000000, 60, []⟩
    (voip_core.crypto.Ed25519.single message).Binds (List.replicate 32 0) message ∧
      base64url_decode AppState.reference.serde (base64url_encode (List.replicate 64 0)) =
        .ok ((voip_core.crypto.Ed25519.single message).sign (List.replicate 32 0) message) ∧
      ∀ claims, verify_jwt AppState.reference.serde (.single message) (List.replicate 32 0)
        (AppState.reference_token "alice") 0 ≠ .ok claims := by
  intro message
  have hbinds := voip_core.crypto.Ed25519.binds_single (List.replicate 32 0) message
  have hencoded (bytes : Bytes) : ∀ c ∈ base64url_encode bytes, c ≠ '.' :=
    fun c hc => (mem_base64url_encode hc).2
  have hdecoded := base64url_decode_encode AppState.reference.serde (List.replicate 64 0)
  obtain ⟨-, hverifies⟩ := proxy_token_signature_verifies_no_jwt
    { AppState.reference with ed25519 := .single message } "alice" "bob" 1700000000 60 hbinds
  exact ⟨hbinds, hdecoded, hverifies (AppState.reference_token "alice") 0 _ _ _
    (splitOn_token (hencoded _) (hencoded _)) hdecoded⟩

end voip_signaling.masque
