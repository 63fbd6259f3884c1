import Voip.Signaling.Changes
import Voip.Signaling.JwtFormat
import Voip.Wire.Decode

namespace voip_core.proto.signaling

open wire

/-- The decoders that `prost` generates from the message definitions, for the fields
that the server reads. -/
def Prost.generated : Prost where
  peer_register payload := do
    let fields ← proto.fields payload
    let nat_infos ← proto.occurrences proto.Value.bytes 5 fields
    let nat_types ← nat_infos.mapM fun info => do proto.getLast proto.Value.int 0 1 (← proto.fields info)
    return {
      peer_id := ← proto.getLast proto.Value.string "" 1 fields
      display_name := ← proto.getLast proto.Value.string "" 2 fields
      ipv6_addresses := ← proto.occurrences proto.Value.string 3 fields
      ipv4_reflexive := ← proto.occurrences proto.Value.string 4 fields
      nat_info := nat_types.getLast?.map fun nat_type => { nat_type }
      status := ← proto.getLast proto.Value.int 0 7 fields
      fcm_token := ← proto.getLast proto.Value.string "" 8 fields }
  peer_unregister payload := do
    let fields ← proto.fields payload
    return { peer_id := ← proto.getLast proto.Value.string "" 1 fields }
  call_request payload := do
    let fields ← proto.fields payload
    return {
      call_id := ← proto.getLast proto.Value.string "" 1 fields
      caller_id := ← proto.getLast proto.Value.string "" 2 fields
      callee_id := ← proto.getLast proto.Value.string "" 3 fields
      discovery_method := ← proto.getLast proto.Value.int 0 8 fields }
  call_accept payload := do
    let fields ← proto.fields payload
    return { call_id := ← proto.getLast proto.Value.string "" 1 fields }
  call_reject payload := do
    let fields ← proto.fields payload
    return { call_id := ← proto.getLast proto.Value.string "" 1 fields }
  call_failed payload := do
    let fields ← proto.fields payload
    return {
      call_id := ← proto.getLast proto.Value.string "" 1 fields
      reason := ← proto.getLast proto.Value.int 0 2 fields
      description := ← proto.getLast proto.Value.string "" 3 fields }
  call_ended payload := do
    let fields ← proto.fields payload
    return { call_id := ← proto.getLast proto.Value.string "" 1 fields }

end voip_core.proto.signaling

namespace voip_signaling.state

open wire jwt voip_core.crypto voip_core.proto.signaling

/-- A concrete environment to run the server in: the generated decoders, claims whose
JSON text is reduced to the subject, and a signature scheme with one signature. -/
def AppState.reference : AppState where
  prost := .generated
  serde :=
    { to_string := fun claims => .ok claims.sub
      from_slice := fun bytes =>
        match String.fromUTF8? ⟨bytes.toArray⟩ with
        | none => .error "invalid unicode code point"
        | some sub => .ok { sub, iat := 0, exp := 2 ^ 64 - 1, nbf := 0, pub_key := sub }
      debug_char := fun byte => String.singleton (Char.ofNat byte.toNat) }
  ed25519 :=
    { verifying_key := fun key => key
      sign := fun _ _ => List.replicate 64 0
      verify := fun _ _ signature => signature = List.replicate 64 0
      valid_point := fun _ => true }
  next_key map := map.entries.head?.map Sigma.fst
  to_lowercase := id
  signing_key := List.replicate 32 0
  config := .default

/-- The token that the reference environment issues to a peer. -/
def AppState.reference_token (peer_id : String) : String :=
  JWT_HEADER ++ "." ++ String.ofList (base64url_encode (utf8 peer_id)) ++ "." ++
    String.ofList (base64url_encode (List.replicate 64 0))

/-- The entry of a peer that announces nothing but its id and its session. -/
def PeerEntry.named (peer_id : String) (sender : Option SessionSender) : PeerEntry where
  info := { peer_id, display_name := "", ipv6_addresses := [], ipv4_reflexive := [], nat_type := 0
            status := 0, fcm_token := none, last_seen := 0 }
  sender := sender

end voip_signaling.state

namespace voip_signaling.server

open async state session wire

/-- The session that an event opens. -/
def Event.opens : Event → Option SessionId
  | .upgrade s _ => some s
  | _ => none

/-- A condition on all sessions needs a test of those only that are open, as long as none
opens during the run. -/
theorem along_of_opened {state : AppState} {P : System → Event → Prop}
    {Q : System → Event → SessionId → Prop} {sys : System} {events : List Event} (n : Nat)
    (hsys : Disciplined state sys) (hopened : ∀ s, n ≤ s → sys.server.sessions s = none)
    (hended : ∀ sys event s, sys.receive s = .ended → Q sys event s)
    (hrun : Along (step state) (fun sys event _ => event.opens = none ∧ P sys event ∧
      ∀ s < n, Q sys event s) sys events) :
    Along (step state) (fun sys event _ => P sys event ∧ ∀ s, Q sys event s) sys events := by
  refine Along.of_invariant (I := fun sys => Disciplined state sys ∧
    ∀ s, n ≤ s → sys.server.sessions s = none) ?_ ⟨hsys, hopened⟩ hrun
  rintro sys event next ⟨hsys, hopened⟩ ⟨hopens, hP, hQ⟩ hstep
  refine ⟨⟨hP, fun s => ?_⟩, hsys.step hstep, fun s hs => ?_⟩
  · by_cases hs : s < n
    · exact hQ s hs
    · apply hended
      by_contra hrunning
      obtain ⟨session, hsession⟩ := hsys.opened (.inl hrunning)
      simp [hopened s (Nat.le_of_not_lt hs)] at hsession
  · refine (move_of_step hstep).unopened (fun token hevent => ?_) (hopened s hs)
    simp [hevent, Event.opens] at hopens

/-- The claims that the token of a peer carries in the reference environment. -/
def reference_claims (peer_id : String) : jwt.JwtClaims :=
  { sub := peer_id, iat := 0, exp := 2 ^ 64 - 1, nbf := 0, pub_key := peer_id }

/-- The token of a peer verifies while the clock stands at its first second. -/
def Verifies (peer_id : String) : Prop :=
  jwt.verify_jwt AppState.reference.serde AppState.reference.ed25519 AppState.reference.verifying_key
    (AppState.reference_token peer_id) 0 = .ok (reference_claims peer_id)

theorem Verifies.upgrade {peer_id : String} (hverifies : Verifies peer_id) {sys : System} {s : SessionId}
    (hnow : sys.server.now_secs = 0) (hfresh : sys.server.sessions s = none) :
    step .reference sys (.upgrade s (AppState.reference_token peer_id)) =
      some (sys.open_session s (AppState.reference_token peer_id) peer_id) := by
  unfold Verifies at hverifies
  simp only [step, hfresh, hnow, hverifies]
  rfl

theorem verifies (peer_id : String) : Verifies peer_id := by
  have hslice : AppState.reference.serde.from_slice (utf8 peer_id) = .ok (reference_claims peer_id) := by
    simp only [AppState.reference, fromUTF8?_utf8]
    rfl
  have hencoded (bytes : Bytes) : ∀ c ∈ jwt.base64url_encode bytes, c ≠ '.' :=
    fun c hc => (jwt.mem_base64url_encode hc).2
  have hsigned (key message : Bytes) :
      AppState.reference.ed25519.verify key message (List.replicate 64 0) = true := by
    simp [AppState.reference]
  exact jwt.verify_jwt_eq_ok.mpr ⟨_, _, List.replicate 64 0, utf8 peer_id,
    jwt.splitOn_token (hencoded _) (hencoded _), jwt.base64url_decode_encode _ _, List.length_replicate,
    hsigned _ _, jwt.base64url_decode_encode _ _, hslice, Nat.zero_le _, Nat.zero_le _, rfl⟩

theorem strip_bearer_append (token : String) : auth.strip_bearer ("Bearer " ++ token) = some token := by
  simp [auth.strip_bearer]

/-- The header with alice's token authenticates alice. -/
theorem authenticated_alice : auth.Authenticated .reference 0
    (some (utf8 ("Bearer " ++ AppState.reference_token "alice"))) "alice" := by
  have hheader : auth.to_str (utf8 ("Bearer " ++ AppState.reference_token "alice")) =
      some ("Bearer " ++ AppState.reference_token "alice") := by
    decide +kernel
  exact ⟨_, _, _, _, rfl, hheader, strip_bearer_append _, verifies "alice", rfl⟩

/-- The server in the reference environment before anyone connects. -/
def System.reference : System := System.init .default .reference

/-- A server in the reference environment at which some peers are registered, with an open
channel into every session. -/
def Server.with_peers (entries : List PeerEntry) : Server :=
  { System.reference.server with
    inner := entries.foldl (fun inner entry => inner.register_peer entry.info entry.sender)
      System.reference.server.inner
    channels := fun _ => { queue := [], receiver_open := true } }

/-- The server knows one relay proxy. -/
def Server.with_proxy (server : Server) (proxy : ProxyInfo) : Server :=
  { server with inner := { server.inner with proxies := [proxy] } }

/-- The client of a session sends a message, and the receive loop performs some actions. -/
def exchange (s : SessionId) (type_id : UInt16) (payload : Bytes) (actions : Nat) : List Event :=
  .message s (FramedMessage.to_bytes ⟨type_id, payload⟩) :: List.replicate actions (.receive_loop s)

/-- The first events of a run: the peers alice and bob connect as sessions 1 and 2. -/
def alice_and_bob_connect : List Event :=
  [.upgrade 1 (AppState.reference_token "alice"), .upgrade 2 (AppState.reference_token "bob")]

/-- The server when alice has connected, and when bob has followed. -/
def System.alice : System := System.reference.open_session 1 (AppState.reference_token "alice") "alice"

def System.alice_and_bob : System := System.alice.open_session 2 (AppState.reference_token "bob") "bob"

theorem alice_connects :
    step .reference .reference (.upgrade 1 (AppState.reference_token "alice")) = some .alice :=
  (verifies _).upgrade rfl rfl

theorem bob_connects :
    step .reference .alice (.upgrade 2 (AppState.reference_token "bob")) = some .alice_and_bob :=
  (verifies _).upgrade rfl rfl

theorem exec_alice_and_bob_connect (events : List Event) :
    async.exec (step .reference) .reference (alice_and_bob_connect ++ events) =
      async.exec (step .reference) .alice_and_bob events := by
  rw [alice_and_bob_connect, List.cons_append, exec_cons_of_step alice_connects]
  rw [List.cons_append, exec_cons_of_step bob_connects, List.nil_append]

/-- A run violates a property when, after alice and bob have connected, it leads to a
step that is seen not to have it. -/
theorem not_along_alice_and_bob {P : System → Event → System → Prop} {label : Event}
    {before : List Event} (seen : System → System → Bool)
    (hseen : ∀ middle next, seen middle next = true → ¬ P middle label next)
    (hreached : ((async.exec (step .reference) .alice_and_bob before).bind fun middle =>
      (step .reference middle label).map (seen middle)) = some true) :
    ¬ Along (step .reference) P .reference ((alice_and_bob_connect ++ before) ++ [label]) := by
  refine Along.not_of_seen seen hseen ?_
  rw [exec_alice_and_bob_connect]
  exact hreached

theorem along_alice_and_bob_connect {P : System → Event → System → Prop} {events : List Event}
    (hconnect : ∀ sys s token next, P sys (.upgrade s token) next)
    (hevents : Along (step .reference) P .alice_and_bob events) :
    Along (step .reference) P .reference (alice_and_bob_connect ++ events) := by
  rw [alice_and_bob_connect, List.cons_append, along_cons_of_step alice_connects]
  rw [List.cons_append, along_cons_of_step bob_connects, List.nil_append]
  exact ⟨hconnect .., hconnect .., hevents⟩

theorem along_opened_alice_and_bob {P : System → Event → Prop} {Q : System → Event → SessionId → Prop}
    {events : List Event} (hconnect : ∀ sys s token, P sys (.upgrade s token) ∧ ∀ s', Q sys (.upgrade s token) s')
    (hended : ∀ sys event s, sys.receive s = .ended → Q sys event s)
    (hrun : Along (step .reference) (fun sys event _ => event.opens = none ∧ P sys event ∧
      ∀ s < 3, Q sys event s) .alice_and_bob events) :
    Along (step .reference) (fun sys event _ => P sys event ∧ ∀ s, Q sys event s) .reference
      (alice_and_bob_connect ++ events) := by
  apply along_alice_and_bob_connect
  · intro sys s token next
    exact hconnect sys s token
  · have hsys : Disciplined .reference System.alice_and_bob :=
      ((Disciplined.init .default).step alice_connects).step bob_connects
    refine along_of_opened 3 hsys (fun s hs => ?_) hended hrun
    have hne : s ≠ 1 ∧ s ≠ 2 := by omega
    simp [System.alice_and_bob, System.alice, System.open_session, Server.set_session, Server.set_channel, hne,
      System.reference, System.init]

end voip_signaling.server
