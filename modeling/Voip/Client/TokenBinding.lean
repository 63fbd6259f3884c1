import Voip.Client.ProxyCodec

namespace voip_client.proxy

open wire voip_core.crypto

/-- A call of `ProxyToken::sign`, at the time that the clock shows. -/
structure SignCall where
  peer_id : String
  proxy_url : String
  ttl_secs : UInt64
  now : UInt64

def SignCall.token (ed25519 : Ed25519) (signing_key : Bytes) (call : SignCall) : ProxyToken :=
  ProxyToken.sign ed25519 signing_key call.peer_id call.proxy_url call.ttl_secs call.now

/-- The text that is signed for a token. -/
def ProxyToken.message (token : ProxyToken) : Bytes :=
  signing_message token.peer_id token.proxy_url token.expires_at token.issued_at

/-- The lengths of the two texts of a token fit into 32 bits. -/
def Short (peer_id proxy_url : String) : Prop :=
  (utf8 peer_id).length < 2 ^ 32 ∧ (utf8 proxy_url).length < 2 ^ 32

theorem be_toNat_inj {value value' : UInt64} : be 8 value.toNat = be 8 value'.toNat ↔ value = value' := by
  rw [be_inj value.toNat_lt value'.toNat_lt, UInt64.toNat_inj]

/-- What is signed for a token says what all of its fields are. -/
theorem signing_message_inj {peer_id proxy_url peer_id' proxy_url' : String}
    {expires_at issued_at expires_at' issued_at' : UInt64} (hshort : Short peer_id proxy_url)
    (hshort' : Short peer_id' proxy_url')
    (heq : ProxyToken.signing_message peer_id proxy_url expires_at issued_at =
      ProxyToken.signing_message peer_id' proxy_url' expires_at' issued_at') :
    peer_id = peer_id' ∧ proxy_url = proxy_url' ∧ expires_at = expires_at' ∧ issued_at = issued_at' := by
  simp only [ProxyToken.signing_message, List.append_assoc] at heq
  rw [← List.append_assoc, ← List.append_assoc (be 4 (utf8 peer_id').length),
    prefixed_append_inj hshort.1 hshort'.1] at heq
  obtain ⟨hpeer_id, heq⟩ := heq
  rw [← List.append_assoc, ← List.append_assoc (be 4 (utf8 proxy_url').length),
    prefixed_append_inj hshort.2 hshort'.2] at heq
  obtain ⟨hproxy_url, heq⟩ := heq
  obtain ⟨hexpires, hissued⟩ := List.append_inj heq (by simp)
  exact ⟨utf8_inj.mp hpeer_id, utf8_inj.mp hproxy_url, be_toNat_inj.mp hexpires, be_toNat_inj.mp hissued⟩

/-- The message that is signed binds the four fields, and so a token that the proxy accepts has
the fields of one that was signed, and has not expired. -/
theorem binds_fields :
    (∀ peer_id proxy_url peer_id' proxy_url' : String, ∀ expires_at issued_at expires_at' issued_at' : UInt64,
      Short peer_id proxy_url → Short peer_id' proxy_url' →
      ProxyToken.signing_message peer_id proxy_url expires_at issued_at =
        ProxyToken.signing_message peer_id' proxy_url' expires_at' issued_at' →
      (peer_id, proxy_url, expires_at, issued_at) = (peer_id', proxy_url', expires_at', issued_at')) ∧
    ∀ (ed25519 : Ed25519) (signing_key : Bytes) (calls : List SignCall),
      (∀ call ∈ calls, Short call.peer_id call.proxy_url) →
      ed25519.Ideal signing_key (calls.map fun call => (call.token ed25519 signing_key).message) →
      ∀ (token : ProxyToken) (now : UInt64), Short token.peer_id token.proxy_url →
        TokenVerifier.verify ed25519 (ed25519.verifying_key signing_key) now token = .ok () →
        now < token.expires_at ∧ ∃ call ∈ calls,
          let signed := call.token ed25519 signing_key
          token.peer_id = signed.peer_id ∧ token.proxy_url = signed.proxy_url ∧
            token.expires_at = signed.expires_at ∧ token.issued_at = signed.issued_at := by
  refine ⟨?_, ?_⟩
  · intro peer_id proxy_url peer_id' proxy_url' expires_at issued_at expires_at' issued_at' hshort hshort' heq
    obtain ⟨rfl, rfl, rfl, rfl⟩ := signing_message_inj hshort hshort' heq
    rfl
  · intro ed25519 signing_key calls hcalls hideal token now hshort haccepted
    obtain ⟨hexpired, -, hverified⟩ := TokenVerifier.verify_eq_ok.mp haccepted
    have hcurrent : now < token.expires_at := by simpa [ProxyToken.is_expired] using hexpired
    obtain ⟨call, hcall, hmessage⟩ := List.mem_map.mp (hideal.mem_of_verify _ _ hverified)
    exact ⟨hcurrent, call, hcall, signing_message_inj hshort (hcalls call hcall) hmessage.symm⟩

/-- A call for a token that expires after five minutes. -/
def five_minutes : SignCall := ⟨"alice", "https://proxy", 300, 1000⟩

/-- A scheme that was used for that token only. -/
def five_minutes_scheme : Ed25519 := .single (ProxyToken.signing_message "alice" "https://proxy" 1300 1000)

/-- After a minute the proxy accepts the token, which has the fields that were signed. -/
theorem binds_fields_after_a_minute :
    TokenVerifier.verify five_minutes_scheme [] 1060 (five_minutes.token five_minutes_scheme []) = .ok () ∧
      (1060 : UInt64) < 1300 ∧ ∃ call ∈ [five_minutes],
        let signed := call.token five_minutes_scheme []
        "alice" = signed.peer_id ∧ "https://proxy" = signed.proxy_url ∧ 1300 = signed.expires_at ∧
          1000 = signed.issued_at := by
  have haccepted : TokenVerifier.verify five_minutes_scheme [] 1060 (five_minutes.token five_minutes_scheme []) =
      .ok () := by decide +kernel
  have hideal : five_minutes_scheme.Ideal []
      ([five_minutes].map fun call => (call.token five_minutes_scheme []).message) := Ed25519.ideal_single _ _
  have hshort : Short five_minutes.peer_id five_minutes.proxy_url := ⟨by decide +kernel, by decide +kernel⟩
  have hcalls : ∀ call ∈ [five_minutes], Short call.peer_id call.proxy_url := by
    intro call hcall
    rwa [List.mem_singleton.mp hcall]
  exact ⟨haccepted, binds_fields.2 _ [] _ hcalls hideal _ _ hshort haccepted⟩

end voip_client.proxy
