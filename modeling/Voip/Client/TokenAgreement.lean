import Voip.Async.Outcome
import Voip.Client.TokenCodec
import Voip.Signaling.Signing

namespace voip_signaling.handlers

open wire wire.base64 voip_client.proxy

/-- The digits that the server takes from single bytes are those that the proxy takes from three
bytes joined to one number. -/
theorem base64_encode_eq_proxy (bytes : Bytes) : base64_encode bytes = voip_client.proxy.base64_encode bytes := by
  induction bytes using sextets.induct with
  | case1 => rfl
  | case2 b0 =>
    have hserver : base64_encode [b0] = [charset_digit (digit0 b0), charset_digit (digit1 b0 0), '=', '='] := rfl
    rw [hserver, ← triple_digit0 b0 0 0, ← triple_digit1 b0 0 0]
    rfl
  | case3 b0 b1 =>
    have hserver : base64_encode [b0, b1] = [charset_digit (digit0 b0), charset_digit (digit1 b0 b1),
      charset_digit (digit2 b1 0), '='] := rfl
    rw [hserver, ← triple_digit0 b0 b1 0, ← triple_digit1 b0 b1 0, ← triple_digit2 b0 b1 0]
    rfl
  | case4 b0 b1 b2 rest ih =>
    have hserver : base64_encode (b0 :: b1 :: b2 :: rest) =
      charset_digit (digit0 b0) :: charset_digit (digit1 b0 b1) :: charset_digit (digit2 b1 b2) ::
        charset_digit (digit3 b2) :: base64_encode rest := rfl
    rw [hserver, ih, ← triple_digit0 b0 b1 b2, ← triple_digit1 b0 b1 b2, ← triple_digit2 b0 b1 b2,
      ← triple_digit3 b0 b1 b2]
    rfl

/-- What the server encodes, the proxy decodes unchanged. -/
theorem base64_decode_base64_encode (bytes : Bytes) : base64_decode (base64_encode bytes) = .ok bytes := by
  rw [base64_encode_eq_proxy, voip_client.proxy.base64_decode_base64_encode]

end voip_signaling.handlers

namespace voip_client.proxy

open wire voip_core.crypto voip_signaling voip_signaling.state voip_signaling.session

/-- The proxy decodes what it encodes, and the server encodes as the proxy does. -/
theorem base64_codecs_agree (bytes : Bytes) :
    base64_decode (base64_encode bytes) = .ok bytes ∧ handlers.base64_encode bytes = base64_encode bytes ∧
      base64_decode (handlers.base64_encode bytes) = .ok bytes :=
  ⟨base64_decode_base64_encode bytes, handlers.base64_encode_eq_proxy bytes,
    handlers.base64_decode_base64_encode bytes⟩

theorem length_signing_message (peer_id proxy_url : String) (expires_at issued_at : UInt64) :
    (ProxyToken.signing_message peer_id proxy_url expires_at issued_at).length =
      (utf8 peer_id).length + (utf8 proxy_url).length + 24 := by
  simp [ProxyToken.signing_message]
  omega

/-- The proxy decodes a text and accepts the token under the server's key. -/
def Accepts (utf8_error : Bytes → String) (state : AppState) (text : List Char) (now : UInt64) : Prop :=
  ∃ token, ProxyToken.decode utf8_error text = .ok token ∧
    TokenVerifier.verify state.ed25519 state.verifying_key now token = .ok ()

/-- Whatever the proxy reads into a token of the server, the message it checks the
signature against is six bytes longer than the one that was signed. -/
theorem not_accepts_sign_proxy_token {state : AppState} {peer_id target_peer_id : String}
    {issued_at : Nat}
    (hbinds : state.ed25519.Binds state.signing_key
      (masque.data_to_sign peer_id target_peer_id issued_at))
    (utf8_error : Bytes → String) (now : UInt64) :
    ¬Accepts utf8_error state (handlers.base64_encode
      (masque.sign_proxy_token state peer_id target_peer_id issued_at).encode_to_vec) now := by
  rintro ⟨token, hdecode, hverify⟩
  obtain ⟨buf, hbuf, -, -, hlength, hsignature⟩ := ProxyToken.decode_eq_ok hdecode
  rw [handlers.base64_decode_base64_encode, Except.ok.injEq, masque.encode_sign_proxy_token] at hbuf
  subst hbuf
  generalize hdata : masque.data_to_sign peer_id target_peer_id issued_at = data at *
  have hfield : proto.bytes 5 (state.ed25519.sign state.signing_key data) =
      [42, 64] ++ state.ed25519.sign state.signing_key data := by
    have hne : state.ed25519.sign state.signing_key data ≠ [] := by
      intro hnil
      have hlength := hbinds.length_sign
      simp [hnil] at hlength
    rw [proto.bytes, if_neg hne, proto.delimited, hbinds.length_sign]
    rfl
  rw [hfield] at hlength hsignature
  have hsign := hbinds.length_sign
  -- The last 64 bytes are the signature, so the proxy does check the one the server made.
  have hsame : token.signature = state.ed25519.sign state.signing_key data := by
    rw [hsignature, ← List.append_assoc]
    apply List.drop_left'
    simp only [List.length_append]
    omega
  obtain ⟨-, -, hchecked⟩ := TokenVerifier.verify_eq_ok.mp hverify
  rw [hsame] at hchecked
  have hmessage := congrArg List.length (hbinds.eq_of_verify _ hchecked)
  rw [length_signing_message] at hmessage
  simp only [List.length_append, List.length_cons, List.length_nil] at hlength
  omega

/-- The clock shows the given time whenever it is read. -/
def ClockShows (secs : Nat) : (action : Action) → action.Answer → Prop
  | .now_secs, answer => answer = secs
  | _, _ => True

/-- No token text that the server returns, and no token that it sends to a peer, is ever
accepted by the proxy. -/
theorem never_accepts_server_tokens (state : AppState) (peer_id target_peer_id : String)
    (issued_at : Nat)
    (hbinds : state.ed25519.Binds state.signing_key
      (masque.data_to_sign peer_id target_peer_id issued_at)) :
    (handlers.issue_proxy_token state peer_id target_peer_id).Yields (ClockShows issued_at)
      (fun outcome => ∀ text ttl_seconds, outcome = .ok (.ProxyToken text ttl_seconds) →
        ∀ utf8_error now, ¬Accepts utf8_error state text now) ∧
    (masque.issue_proxy_token state peer_id target_peer_id).Yields (ClockShows issued_at)
      (fun token => ∀ utf8_error now,
        ¬Accepts utf8_error state (handlers.base64_encode token.encode_to_vec) now) := by
  constructor
  · intro peer _
    cases peer with
    | none =>
      intro text ttl_seconds houtcome
      contradiction
    | some info =>
      intro target _
      cases target with
      | none =>
        intro text ttl_seconds houtcome
        contradiction
      | some target =>
        rintro clock rfl text ttl_seconds houtcome utf8_error now
        obtain ⟨rfl, -⟩ := by simpa using houtcome
        exact not_accepts_sign_proxy_token hbinds utf8_error now
  · rintro clock rfl utf8_error now
    exact not_accepts_sign_proxy_token hbinds utf8_error now

def alice : String := "d75a980182b10ab7d54bfed3c964073a0ee172f3daa62325af021a68f707511a"
def bob : String := "3d4017c3e843895a92b70aa74d1b7ebc9c982ccf2ec4968cc0cd55f12af4660c"

theorem never_accepts_tokens_of_alice_and_bob :
    (handlers.issue_proxy_token { AppState.reference with
        ed25519 := .single (masque.data_to_sign alice bob 1700000000) } alice bob).Yields
      (ClockShows 1700000000) (fun outcome => ∀ text ttl_seconds,
        outcome = .ok (.ProxyToken text ttl_seconds) → ∀ utf8_error now, ¬Accepts utf8_error
          { AppState.reference with ed25519 := .single (masque.data_to_sign alice bob 1700000000) }
          text now) :=
  (never_accepts_server_tokens _ alice bob 1700000000 (Ed25519.binds_single _ _)).1

/-- The proxy does not even decode the token of two registered peers. -/
theorem not_decodes_server_token :
    ∃ text after, (handlers.issue_proxy_token .reference alice bob).run (exec (.request 0))
        { server.Server.with_peers [.named alice none, .named bob none] with now_secs := 1700000000 } =
          some (.ok (.ProxyToken text 60), after) ∧
      ProxyToken.decode (fun _ => "") text = .error (.DeserializationError
        "Buffer underflow reading string: need 2624 bytes at position 2") :=
  ⟨_, _, rfl, by decide +kernel⟩

end voip_client.proxy
