import Voip.Signaling.Signing

namespace voip_signaling.jwt

open wire voip_core.crypto voip_core.proto

/-- A call of `create_jwt`. -/
structure Issue where
  peer_id : String
  expiry_secs : Nat
  now : Nat

namespace Issue

def claims (issue : Issue) : JwtClaims where
  sub := issue.peer_id
  iat := issue.now
  exp := (issue.now + issue.expiry_secs) % 2 ^ 64
  nbf := issue.now
  pub_key := issue.peer_id

/-- The payload of the token; it is empty if the claims have no JSON form. -/
def payload_b64 (serde : Serde) (issue : Issue) : List Char :=
  ((serde.to_string issue.claims).toOption.map fun json => base64url_encode (utf8 json)).getD []

theorem payload_b64_eq {serde : Serde} {issue : Issue} {json : String}
    (hjson : serde.to_string issue.claims = .ok json) :
    issue.payload_b64 serde = base64url_encode (utf8 json) := by
  simp [payload_b64, hjson, Except.toOption]

/-- The bytes that are signed. -/
def message (serde : Serde) (issue : Issue) : Bytes := utf8 (signing_input (issue.payload_b64 serde))

end Issue

/-- The claims are read back from their JSON form. -/
def Serde.RoundTrips (serde : Serde) (claims : JwtClaims) : Prop :=
  ∃ json, serde.to_string claims = .ok json ∧ serde.from_slice (utf8 json) = .ok claims

section correctness

variable {serde : Serde} {ed25519 : Ed25519} {signing_key : Bytes}

/-- The token of an issue whose claims have a JSON form. -/
theorem create_jwt_eq {issue : Issue} (hserde : serde.RoundTrips issue.claims) :
    create_jwt serde ed25519 signing_key issue.peer_id issue.expiry_secs issue.now =
      .ok (JWT_HEADER ++ "." ++ String.ofList (issue.payload_b64 serde) ++ "." ++
        String.ofList (base64url_encode (ed25519.sign signing_key (issue.message serde)))) := by
  obtain ⟨json, hjson, -⟩ := hserde
  rw [Issue.message, Issue.payload_b64_eq hjson]
  rw [Issue.claims] at hjson
  dsimp only [create_jwt]
  rw [hjson]
  rfl

/-- What is read from the payload of an issue are its claims. -/
theorem decode_payload {issue : Issue} (hserde : serde.RoundTrips issue.claims) :
    ∃ payload_bytes, base64url_decode serde (issue.payload_b64 serde) = .ok payload_bytes ∧
      serde.from_slice payload_bytes = .ok issue.claims := by
  obtain ⟨json, hjson, hslice⟩ := hserde
  refine ⟨utf8 json, ?_, hslice⟩
  rw [Issue.payload_b64_eq hjson, base64url_decode_encode]

/-- A token is accepted exactly from its issue to its expiry. -/
theorem verify_created_iff {issue : Issue} {signed : List Bytes} (hserde : serde.RoundTrips issue.claims)
    (hsigns : ed25519.Signs signing_key signed) (hsigned : issue.message serde ∈ signed)
    (hfits : issue.now + issue.expiry_secs < 2 ^ 64) {token : String}
    (htoken : create_jwt serde ed25519 signing_key issue.peer_id issue.expiry_secs issue.now = .ok token)
    (now : Nat) (claims : JwtClaims) :
    verify_jwt serde ed25519 (ed25519.verifying_key signing_key) token now = .ok claims ↔
      issue.now ≤ now ∧ now ≤ issue.now + issue.expiry_secs ∧ claims = issue.claims := by
  rw [create_jwt_eq hserde, Except.ok.injEq] at htoken
  have hsplit : token.toList.splitOn '.' = [JWT_HEADER.toList, issue.payload_b64 serde,
      base64url_encode (ed25519.sign signing_key (issue.message serde))] := by
    rw [← htoken, splitOn_token]
    · intro c hc
      obtain ⟨json, hjson, -⟩ := hserde
      rw [Issue.payload_b64_eq hjson] at hc
      exact (mem_base64url_encode hc).2
    · intro c hc
      exact (mem_base64url_encode hc).2
  have hexp : issue.claims.exp = issue.now + issue.expiry_secs := Nat.mod_eq_of_lt hfits
  obtain ⟨payload_bytes, hpayload, hslice⟩ := decode_payload hserde
  rw [verify_jwt_eq_ok]
  constructor
  · rintro ⟨payload, sig, sig_bytes, bytes, hparts, -, -, -, hdecode, hread, hnbf, hnow, -⟩
    obtain ⟨-, rfl, -⟩ : JWT_HEADER.toList = JWT_HEADER.toList ∧ issue.payload_b64 serde = payload ∧
        base64url_encode (ed25519.sign signing_key (issue.message serde)) = sig := by
      simpa [hsplit] using hparts
    rw [hpayload, Except.ok.injEq] at hdecode
    rw [← hdecode, hslice, Except.ok.injEq] at hread
    subst hread
    exact ⟨hnbf, hexp ▸ hnow, rfl⟩
  · rintro ⟨hnbf, hnow, rfl⟩
    exact ⟨_, _, _, payload_bytes, hsplit, base64url_decode_encode serde _,
      hsigns.length_sign _ hsigned, hsigns.verify_sign _ hsigned, hpayload, hslice, hnbf, hexp ▸ hnow, rfl⟩

/-- An accepted token carries the claims of an issue. -/
theorem exists_issue_of_verify {issues : List Issue} {proxy_tokens : List signaling.ProxyToken}
    (hserde : ∀ issue ∈ issues, serde.RoundTrips issue.claims)
    (hideal : ed25519.Ideal signing_key
      (issues.map (Issue.message serde) ++ proxy_tokens.map signaling.ProxyToken.encode_to_vec))
    {token : String} {now : Nat} {claims : JwtClaims}
    (hverify : verify_jwt serde ed25519 (ed25519.verifying_key signing_key) token now = .ok claims) :
    ∃ issue ∈ issues, claims = issue.claims := by
  obtain ⟨payload, sig, sig_bytes, bytes, -, -, -, hsigned, hdecode, hread, -⟩ := verify_jwt_eq_ok.mp hverify
  obtain hissued | hproxy := List.mem_append.mp (hideal.mem_of_verify _ _ hsigned)
  · obtain ⟨issue, hissue, hmessage⟩ := List.mem_map.mp hissued
    refine ⟨issue, hissue, ?_⟩
    obtain ⟨payload_bytes, hpayload, hslice⟩ := decode_payload (hserde issue hissue)
    have hsame : issue.payload_b64 serde = payload := signing_input_inj.mp (utf8_inj.mp hmessage)
    rw [hsame, hdecode, Except.ok.injEq] at hpayload
    rw [← hpayload, hread, Except.ok.injEq] at hslice
    exact hslice
  · obtain ⟨proxy_token, -, hmessage⟩ := List.mem_map.mp hproxy
    exact absurd hmessage (masque.encode_to_vec_ne_signing_input proxy_token payload)

end correctness

/-- A server that has issued some tokens accepts each of them exactly while it is valid. It accepts no
other claims, if nothing but these tokens and some proxy tokens was signed with its key. -/
theorem verify_jwt_correct (serde : Serde) (ed25519 : Ed25519) (signing_key : Bytes)
    (issues : List Issue) (proxy_tokens : List signaling.ProxyToken)
    (hserde : ∀ issue ∈ issues, serde.RoundTrips issue.claims)
    (hsigns : ed25519.Signs signing_key (issues.map (Issue.message serde))) :
    (∀ issue ∈ issues, issue.now + issue.expiry_secs < 2 ^ 64 →
      ∃ token, create_jwt serde ed25519 signing_key issue.peer_id issue.expiry_secs issue.now = .ok token ∧
        ∀ now claims, verify_jwt serde ed25519 (ed25519.verifying_key signing_key) token now = .ok claims ↔
          issue.now ≤ now ∧ now ≤ issue.now + issue.expiry_secs ∧ claims = issue.claims) ∧
    (ed25519.Ideal signing_key
        (issues.map (Issue.message serde) ++ proxy_tokens.map signaling.ProxyToken.encode_to_vec) →
      ∀ token now claims, verify_jwt serde ed25519 (ed25519.verifying_key signing_key) token now = .ok claims →
        ∃ issue ∈ issues, claims = issue.claims) := by
  constructor
  · intro issue hissue hfits
    refine ⟨_, create_jwt_eq (hserde issue hissue), fun now claims => ?_⟩
    exact verify_created_iff (hserde issue hissue) hsigns (List.mem_map_of_mem hissue) hfits
      (create_jwt_eq (hserde issue hissue)) now claims
  · intro hideal token now claims hverify
    exact exists_issue_of_verify hserde hideal hverify

/-- A token for the whole range of the clock, which the reference environment can read back. -/
def Issue.alice : Issue := ⟨"alice", 2 ^ 64 - 1, 0⟩

theorem roundTrips_alice : state.AppState.reference.serde.RoundTrips Issue.alice.claims := by
  refine ⟨"alice", rfl, ?_⟩
  decide +kernel

theorem verify_jwt_correct_for_alice :
    ∃ token, create_jwt state.AppState.reference.serde
        (.single (Issue.alice.message state.AppState.reference.serde)) [] "alice" (2 ^ 64 - 1) 0 = .ok token ∧
      ∀ now claims, verify_jwt state.AppState.reference.serde
        (.single (Issue.alice.message state.AppState.reference.serde)) [] token now = .ok claims ↔
          0 ≤ now ∧ now ≤ 0 + (2 ^ 64 - 1) ∧ claims = Issue.alice.claims :=
  (verify_jwt_correct state.AppState.reference.serde _ [] [.alice] []
    (fun issue hissue => List.mem_singleton.mp hissue ▸ roundTrips_alice)
    (Ed25519.ideal_single _ _).toSigns).1 .alice (List.mem_singleton.mpr rfl) (by decide)

end voip_signaling.jwt
