import Voip.Signaling.Base64Url

namespace voip_signaling.jwt

open wire result error voip_core.crypto

/-- The text that is signed for a payload. -/
def signing_input (payload_b64 : List Char) : String := JWT_HEADER ++ "." ++ String.ofList payload_b64

theorem signing_input_inj {first second : List Char} :
    signing_input first = signing_input second ↔ first = second := by
  simp [signing_input, String.ofList_inj]

theorem check_claims_eq_ok {decoded claims : JwtClaims} {now : Nat} :
    check_claims decoded now = .ok claims ↔
      decoded = claims ∧ decoded.nbf ≤ now ∧ now ≤ decoded.exp ∧ decoded.sub = decoded.pub_key := by
  simp only [check_claims, ite_error_eq_ok, Nat.not_lt, ne_eq, not_not, Except.ok.injEq]
  tauto

/-- What an accepted token is made of. -/
theorem verify_jwt_eq_ok {serde : Serde} {ed25519 : Ed25519} {verifying_key : Bytes} {token : String}
    {now : Nat} {claims : JwtClaims} :
    verify_jwt serde ed25519 verifying_key token now = .ok claims ↔
      ∃ payload_b64 sig_b64 sig_bytes payload_bytes,
        token.toList.splitOn '.' = [JWT_HEADER.toList, payload_b64, sig_b64] ∧
        base64url_decode serde sig_b64 = .ok sig_bytes ∧ sig_bytes.length = 64 ∧
        ed25519.verify verifying_key (utf8 (signing_input payload_b64)) sig_bytes = true ∧
        base64url_decode serde payload_b64 = .ok payload_bytes ∧
        serde.from_slice payload_bytes = .ok claims ∧ claims.nbf ≤ now ∧ now ≤ claims.exp ∧
        claims.sub = claims.pub_key := by
  have hinput (payload_b64 : List Char) :
      String.ofList (JWT_HEADER.toList ++ '.' :: payload_b64) = signing_input payload_b64 := by
    apply String.toList_injective
    simp [signing_input]
  constructor
  · intro hverify
    unfold verify_jwt at hverify
    split at hverify
    next header payload_b64 sig_b64 hsplit =>
      split at hverify
      next => contradiction
      next hheader =>
        rw [ne_eq, not_not] at hheader
        subst hheader
        simp only [bind_eq_ok, mapError_eq_ok, hinput] at hverify
        obtain ⟨sig_bytes, hsig, hverify⟩ := hverify
        split at hverify
        next => simp at hverify
        next hlength =>
          split at hverify
          next => simp at hverify
          next hsigned =>
            simp only [bind_eq_ok, mapError_eq_ok] at hverify
            obtain ⟨payload_bytes, hpayload, decoded, hdecoded, hchecked⟩ := hverify
            obtain ⟨rfl, hnbf, hexp, hsub⟩ := check_claims_eq_ok.mp hchecked
            exact ⟨payload_b64, sig_b64, sig_bytes, payload_bytes, hsplit, hsig, by simpa using hlength,
              by simpa using hsigned, hpayload, hdecoded, hnbf, hexp, hsub⟩
    next => contradiction
  · rintro ⟨payload_b64, sig_b64, sig_bytes, payload_bytes, hsplit, hsig, hlength, hsigned, hpayload,
      hdecoded, hnbf, hexp, hsub⟩
    have hchecked : check_claims claims now = .ok claims :=
      check_claims_eq_ok.mpr ⟨rfl, hnbf, hexp, hsub⟩
    simp only [verify_jwt, hsplit, hinput, hsig, hpayload]
    simp [mapError_ok, hlength, hsigned, hdecoded, hchecked]

/-- A token splits into its three parts. -/
theorem splitOn_token {payload_b64 sig_b64 : List Char} (hpayload : ∀ c ∈ payload_b64, c ≠ '.')
    (hsig : ∀ c ∈ sig_b64, c ≠ '.') :
    (JWT_HEADER ++ "." ++ String.ofList payload_b64 ++ "." ++ String.ofList sig_b64).toList.splitOn '.' =
      [JWT_HEADER.toList, payload_b64, sig_b64] := by
  have hdot : '.' ∉ JWT_HEADER.toList := by decide
  have hheader : ∀ c ∈ JWT_HEADER.toList, c ≠ '.' := fun c hc heq => hdot (heq ▸ hc)
  have htext : (JWT_HEADER ++ "." ++ String.ofList payload_b64 ++ "." ++ String.ofList sig_b64).toList =
      JWT_HEADER.toList ++ '.' :: (payload_b64 ++ '.' :: sig_b64) := by
    simp
  rw [htext, List.splitOn, List.splitOnP_append_cons_of_forall_mem (by simpa using hheader) _ (by simp),
    List.splitOnP_append_cons_of_forall_mem (by simpa using hpayload) _ (by simp),
    List.splitOnP_eq_singleton (by simpa using hsig)]

end voip_signaling.jwt
