import Voip.Signaling.Relay

namespace voip_signaling.session

open state error voip_core.proto.signaling

/-- A handler's test that the session acts as a peer other than the required one.
A session that acts as no peer passes it. -/
def mismatch (session_peer : Option String) (allowed : String → Bool) : Bool :=
  session_peer.any fun peer_id => !allowed peer_id

def peer_info (msg : PeerRegister) (now : Nat) : PeerInfo where
  peer_id := msg.peer_id
  display_name := msg.display_name
  ipv6_addresses := msg.ipv6_addresses
  ipv4_reflexive := msg.ipv4_reflexive
  nat_type := (msg.nat_info.map NATInfo.nat_type).getD 0
  status := msg.status
  fcm_token := if msg.fcm_token = "" then none else some msg.fcm_token
  last_seen := now

def ws_handle_peer_register (state : AppState) (s : SessionId) (payload : wire.Bytes) : Async Unit :=
  match state.prost.peer_register payload with
  | none => send_error s codes.INVALID_MESSAGE "invalid PeerRegister payload"
  | some msg => do
    if ← check_registration msg.peer_id then
      let now ← now_secs
      write_holder s (some msg.peer_id)
      match ← register_peer (peer_info msg now) (some s) with
      | .ok () => pure ()
      | .error e => send_error s e.code e.to_string
    else send_error s codes.RATE_LIMITED "registration rate limit exceeded"

def ws_handle_peer_unregister (state : AppState) (s : SessionId) (payload : wire.Bytes) : Async Unit :=
  match state.prost.peer_unregister payload with
  | none => pure ()
  | some msg => do
    let _ ← unregister_peer msg.peer_id
    write_holder s none

def new_call (msg : CallRequest) (now : Nat) : CallEntry where
  call_id := msg.call_id
  caller_id := msg.caller_id
  callee_id := msg.callee_id
  state := 0
  connection_method := 0
  discovery_method := msg.discovery_method
  created_at := now
  connected_at := none
  ended_at := none
  failure_reason := none
  retry_count := 0

def ws_handle_call_request (state : AppState) (s : SessionId) (payload : wire.Bytes) : Async Unit :=
  match state.prost.call_request payload with
  | none => send_error s codes.INVALID_MESSAGE "invalid CallRequest payload"
  | some msg => do
    if ← check_call msg.caller_id then
      let session_peer ← lock_holder s
      if mismatch session_peer (· = msg.caller_id) then
        send_error s codes.NOT_CALL_PARTICIPANT "caller_id does not match session peer_id"
        unlock_holder s
      else
        unlock_holder s
        let now ← now_secs
        match ← create_call (new_call msg now) with
        | .error e => send_error s e.code e.to_string
        | .ok () =>
          match ← send_to_peer msg.callee_id ⟨type_id.CALL_REQUEST_SC, payload⟩ with
          | .ok () => pure ()
          | .error e =>
            send_error s e.code e.to_string
            remove_call msg.call_id
    else send_error s codes.RATE_LIMITED "call rate limit exceeded"

/-- The rest of `ws_handle_call_accept` once the session is known to be the callee's. -/
def accept_call (s : SessionId) (call_id : String) (payload : wire.Bytes) : Async Unit := do
  match ← update_call_state call_id 1 with
  | .error e => send_error s e.code e.to_string
  | .ok () =>
    match ← get_call call_id with
    | none => send_error s codes.INVALID_CALL_ID "call not found after state update"
    | some call =>
      match ← send_to_peer call.caller_id ⟨type_id.CALL_ACCEPT_SC, payload⟩ with
      | .ok () => pure ()
      | .error e => send_error s e.code e.to_string

def ws_handle_call_accept (state : AppState) (s : SessionId) (payload : wire.Bytes) : Async Unit :=
  match state.prost.call_accept payload with
  | none => send_error s codes.INVALID_MESSAGE "invalid CallAccept payload"
  | some msg => do
    match ← get_call msg.call_id with
    | none => send_error s codes.INVALID_CALL_ID "call not found"
    | some call_entry =>
      let session_peer ← lock_holder s
      if mismatch session_peer (· = call_entry.callee_id) then
        send_error s codes.NOT_CALL_PARTICIPANT "only the callee can accept a call"
        unlock_holder s
      else
        unlock_holder s
        accept_call s msg.call_id payload

def ws_handle_call_reject (state : AppState) (s : SessionId) (payload : wire.Bytes) : Async Unit :=
  match state.prost.call_reject payload with
  | none => pure ()
  | some msg => do
    match ← get_call msg.call_id with
    | none => send_error s codes.INVALID_CALL_ID "call not found"
    | some call_entry =>
      let session_peer ← lock_holder s
      if mismatch session_peer (· = call_entry.callee_id) then
        send_error s codes.NOT_CALL_PARTICIPANT "only the callee can reject a call"
        unlock_holder s
      else
        unlock_holder s
        let _ ← end_call msg.call_id (some "rejected")
        let _ ← send_to_peer call_entry.caller_id ⟨type_id.CALL_REJECT_SC, payload⟩
        remove_call msg.call_id

def is_participant (call : CallEntry) (peer_id : String) : Bool :=
  peer_id = call.caller_id || peer_id = call.callee_id

/-- The peer that a participant's message is forwarded to. -/
def other_peer (call : CallEntry) (sending_peer : Option String) : String :=
  if some call.caller_id = sending_peer then call.callee_id else call.caller_id

/-- The follow-up of a failed call: coordinate a relay, or ask the other peer to retry. -/
def recover (state : AppState) (call_id : String) (call : CallEntry) (reason : Int) (other : String) :
    Async Unit := do
  if reason = 3 ∨ reason = 4 then
    match ← masque.send_relay_needed state call_id call.caller_id call.callee_id with
    | .ok () => pure ()
    | .error _ =>
      if push.is_retryable_reason reason then
        push.handle_retryable_failure state call_id call.caller_id call.callee_id reason other
          call.retry_count
      else pure ()
  else if push.is_retryable_reason reason then
    push.handle_retryable_failure state call_id call.caller_id call.callee_id reason other
      call.retry_count
  else pure ()

def ws_handle_call_failed (state : AppState) (s : SessionId) (payload : wire.Bytes) : Async Unit :=
  match state.prost.call_failed payload with
  | none => pure ()
  | some msg => do
    match ← get_call msg.call_id with
    | none => send_error s codes.INVALID_CALL_ID "call not found"
    | some call_entry =>
      let sending_peer ← read_holder s
      if mismatch sending_peer (is_participant call_entry) then
        send_error s codes.NOT_CALL_PARTICIPANT "not a participant in this call"
      else
        let other := other_peer call_entry sending_peer
        let _ ← send_to_peer other ⟨type_id.CALL_FAILED, payload⟩
        recover state msg.call_id call_entry msg.reason other
        let _ ← end_call msg.call_id (some msg.description)

def ws_handle_call_ended (state : AppState) (s : SessionId) (payload : wire.Bytes) : Async Unit :=
  match state.prost.call_ended payload with
  | none => pure ()
  | some msg => do
    match ← get_call msg.call_id with
    | none => send_error s codes.INVALID_CALL_ID "call not found"
    | some call_entry =>
      let sending_peer ← read_holder s
      if mismatch sending_peer (is_participant call_entry) then
        send_error s codes.NOT_CALL_PARTICIPANT "not a participant in this call"
      else
        let other := other_peer call_entry sending_peer
        let _ ← send_to_peer other ⟨type_id.CALL_ENDED, payload⟩
        let _ ← end_call msg.call_id none
        remove_call msg.call_id

def dispatch_ws_message (state : AppState) (s : SessionId) (framed : FramedMessage) : Async Unit :=
  if framed.type_id = type_id.PEER_REGISTER then ws_handle_peer_register state s framed.payload
  else if framed.type_id = type_id.PEER_UNREGISTER then ws_handle_peer_unregister state s framed.payload
  else if framed.type_id = type_id.CALL_REQUEST_CS then ws_handle_call_request state s framed.payload
  else if framed.type_id = type_id.CALL_ACCEPT_CS then ws_handle_call_accept state s framed.payload
  else if framed.type_id = type_id.CALL_REJECT_CS then ws_handle_call_reject state s framed.payload
  else if framed.type_id = type_id.CALL_FAILED then ws_handle_call_failed state s framed.payload
  else if framed.type_id = type_id.CALL_ENDED then ws_handle_call_ended state s framed.payload
  else send_error s codes.INVALID_MESSAGE "unknown message type ID"

/-- What the receive loop does with a framed message: limit its rate, then dispatch it. -/
def receive_message (state : AppState) (s : SessionId) (framed : FramedMessage) : Async Unit := do
  match ← read_holder s with
  | none => dispatch_ws_message state s framed
  | some peer_id =>
    if ← check_ws_message peer_id then dispatch_ws_message state s framed
    else send_error s codes.RATE_LIMITED "WebSocket message rate limit exceeded"

def disconnect_holder : Option String → Async Unit
  | none => pure ()
  | some peer_id => disconnect_peer peer_id

/-- The end of both tasks of a session. Whichever wins the flag disconnects the peer
that the session acts as, holding the mutex meanwhile. -/
def cleanup (s : SessionId) : Async Unit := do
  if ← claim_disconnect s then
    let peer_id ← lock_holder s
    disconnect_holder peer_id
    unlock_holder s
  else pure ()

end voip_signaling.session
