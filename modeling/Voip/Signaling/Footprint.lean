import Voip.Signaling.Transition

namespace voip_signaling.session

open async state voip_core.proto.signaling

/-- A message of a client, as its handler decodes it. -/
inductive ClientMessage where
  | PeerRegister (msg : PeerRegister)
  | PeerUnregister (msg : PeerUnregister)
  | CallRequest (msg : CallRequest)
  | CallAccept (msg : CallAccept)
  | CallReject (msg : CallReject)
  | CallFailed (msg : CallFailed)
  | CallEnded (msg : CallEnded)
  deriving DecidableEq, Repr

def client_message (state : AppState) (framed : FramedMessage) : Option ClientMessage :=
  if framed.type_id = type_id.PEER_REGISTER then
    (state.prost.peer_register framed.payload).map .PeerRegister
  else if framed.type_id = type_id.PEER_UNREGISTER then
    (state.prost.peer_unregister framed.payload).map .PeerUnregister
  else if framed.type_id = type_id.CALL_REQUEST_CS then
    (state.prost.call_request framed.payload).map .CallRequest
  else if framed.type_id = type_id.CALL_ACCEPT_CS then
    (state.prost.call_accept framed.payload).map .CallAccept
  else if framed.type_id = type_id.CALL_REJECT_CS then
    (state.prost.call_reject framed.payload).map .CallReject
  else if framed.type_id = type_id.CALL_FAILED then
    (state.prost.call_failed framed.payload).map .CallFailed
  else if framed.type_id = type_id.CALL_ENDED then
    (state.prost.call_ended framed.payload).map .CallEnded
  else none

/-- The call that a message names. -/
def ClientMessage.call_id : ClientMessage → Option String
  | .PeerRegister _ | .PeerUnregister _ => none
  | .CallRequest msg => some msg.call_id
  | .CallAccept msg => some msg.call_id
  | .CallReject msg => some msg.call_id
  | .CallFailed msg => some msg.call_id
  | .CallEnded msg => some msg.call_id

/-- The writes to the two registries that handling a message on a session may perform. -/
def ClientMessage.Writes (s : SessionId) : ClientMessage → Op → Prop
  | .PeerRegister msg, .register_peer info sender => info.peer_id = msg.peer_id ∧ sender = some s
  | .PeerUnregister msg, .unregister_peer peer_id => peer_id = msg.peer_id
  | .CallRequest msg, .create_call call => ∃ now, call = new_call msg now
  | .CallRequest msg, .remove_call call_id => call_id = msg.call_id
  | .CallAccept msg, .update_call_state call_id new_state => call_id = msg.call_id ∧ new_state = 1
  | .CallReject msg, .end_call call_id _ _ => call_id = msg.call_id
  | .CallReject msg, .remove_call call_id => call_id = msg.call_id
  | .CallFailed msg, .end_call call_id _ _ => call_id = msg.call_id
  | .CallEnded msg, .end_call call_id _ _ => call_id = msg.call_id
  | .CallEnded msg, .remove_call call_id => call_id = msg.call_id
  | _, _ => False

/-- The peer id that a session acts as once it has handled a message. -/
def ClientMessage.Assigns : ClientMessage → Option String → Prop
  | .PeerRegister msg, peer_id => peer_id = some msg.peer_id
  | .PeerUnregister _, peer_id => peer_id = none
  | _, _ => False

/-- Critical sections that change neither registry, the order of use aside. -/
def reads : Op → Prop
  | .check .. | .get_peer _ | .find_peer _ | .get_call _ | .get_proxies | .get_dht_bootstrap => True
  | _ => False

/-- Actions by which a session only observes the registries, or sends messages. -/
def Observes (s : SessionId) : Action → Prop
  | .lock_holder s' | .unlock_holder s' | .read_holder s' | .send s' _ => s' = s
  | .find_sender _ | .send_holding_peers _ | .now_secs => True
  | .state op => reads op
  | .write_holder .. | .claim_disconnect _ => False

/-- The actions of a session that is handling a message. -/
def Handles (s : SessionId) (message : Option ClientMessage) (action : Action) : Prop :=
  Observes s action ∨ ∃ msg, message = some msg ∧
    ((∃ peer_id, action = .write_holder s peer_id ∧ msg.Assigns peer_id) ∨
      ∃ op, action = .state op ∧ msg.Writes s op)

theorem Handles.of_writes {s : SessionId} {msg : ClientMessage} {op : Op} (hop : msg.Writes s op) :
    Handles s (some msg) (.state op) := .inr ⟨msg, rfl, .inr ⟨op, rfl, hop⟩⟩

theorem Handles.of_assigns {s : SessionId} {msg : ClientMessage} {peer_id : Option String}
    (hassigns : msg.Assigns peer_id) : Handles s (some msg) (.write_holder s peer_id) :=
  .inr ⟨msg, rfl, .inl ⟨peer_id, rfl, hassigns⟩⟩

/-- Every message that an action sends satisfies `M`. -/
def Sends (M : FramedMessage → Prop) : Action → Prop
  | .send _ message | .send_holding_peers message => M message
  | _ => True

/-- The rate limit that handling a message may consult. -/
def ClientMessage.Limits : ClientMessage → rate_limit.Action → String → Prop
  | .PeerRegister msg, kind, peer_id => kind = .Registration ∧ peer_id = msg.peer_id
  | .CallRequest msg, kind, peer_id => kind = .Call ∧ peer_id = msg.caller_id
  | _, _, _ => False

/-- The rate limits are consulted only as the message asks for it. -/
def Checks (message : Option ClientMessage) : Action → Prop
  | .state (.check kind peer_id) => ∃ msg, message = some msg ∧ msg.Limits kind peer_id
  | _ => True

/-- Everything a handler keeps to: the actions of its message, what it sends and which
rate limits it consults. -/
structure Acts (M : FramedMessage → Prop) (s : SessionId) (message : Option ClientMessage)
    (action : Action) : Prop where
  handles : Handles s message action
  sends : Sends M action
  checks : Checks message action

/-- The message that asks for the next attempt at a call. -/
def push_retry (state : AppState) (call_id : String) (call : CallEntry) (reason : Int) : FramedMessage :=
  push.build_push_retry_message call_id call.caller_id call.callee_id reason (call.retry_count + 1)
    (state.config.retry_delay_secs (call.retry_count + 1) * 1000 % 2 ^ 64)

section Observers

variable {M : FramedMessage → Prop} (hother : ∀ message, message.type_id ≠ type_id.PUSH_RETRY → M message)
  {s : SessionId} {message : Option ClientMessage}

include hother in
theorem send_error_acts (code : Nat) (text : String) :
    (send_error s code text).Uses (Acts M s message) :=
  Task.Uses.perform_bind ⟨.inl rfl, hother _ (by change type_id.ERROR ≠ _; decide), trivial⟩
    fun _ => trivial

theorem send_to_peer_acts (peer_id : String) {framed : FramedMessage} (hframed : M framed) :
    (send_to_peer peer_id framed).Uses (Acts M s message) := by
  refine Task.Uses.perform_bind ⟨.inl trivial, trivial, trivial⟩ fun found => ?_
  cases found with
  | error e => trivial
  | ok sender => exact Task.Uses.perform_bind ⟨.inl trivial, hframed, trivial⟩ fun _ => trivial

include hother in
theorem forward_acts (peer_id : String) {id : UInt16} (hid : id ≠ type_id.PUSH_RETRY)
    (payload : wire.Bytes) : (send_to_peer peer_id ⟨id, payload⟩).Uses (Acts M s message) :=
  send_to_peer_acts peer_id (hother _ hid)

include hother in
theorem send_relay_needed_acts (state : AppState) (call_id caller_id callee_id : String) :
    (masque.send_relay_needed state call_id caller_id callee_id).Uses (Acts M s message) := by
  have hneeded (proxy : ProxyInfo) (token : ProxyToken) : M (masque.relay_needed call_id proxy token) :=
    hother _ (by change type_id.MASQUE_RELAY_NEEDED ≠ _; decide)
  refine Task.Uses.perform_bind ⟨.inl trivial, trivial, trivial⟩ fun proxies => ?_
  cases proxies with
  | nil => trivial
  | cons proxy proxies =>
    refine Task.Uses.perform_bind ⟨.inl trivial, trivial, trivial⟩ fun caller_issued => ?_
    refine Task.Uses.perform_bind ⟨.inl trivial, trivial, trivial⟩ fun callee_issued => ?_
    refine (send_to_peer_acts _ (hneeded _ _)).bind fun sent => ?_
    cases sent with
    | error e => trivial
    | ok _ => exact send_to_peer_acts _ (hneeded _ _)

variable {state : AppState} {call_id : String} {call : CallEntry} {reason : Int}

theorem handle_retryable_failure_acts (other : String)
    (hretry : call.retry_count < state.config.push_retry_max_attempts →
      M (push_retry state call_id call reason)) :
    (push.handle_retryable_failure state call_id call.caller_id call.callee_id reason other
      call.retry_count).Uses (Acts M s message) := by
  unfold push.handle_retryable_failure
  split
  · trivial
  next hcount =>
    refine (send_to_peer_acts _ (hretry (Nat.lt_of_not_le hcount))).bind fun _ => ?_
    exact Task.Uses.perform_bind ⟨.inl trivial, trivial, trivial⟩ fun _ => trivial

include hother in
/-- The follow-up of a failed call sends a `PushRetry` only for a reason that is worth one, and
only while there are attempts left. -/
theorem recover_acts (other : String)
    (hretry : push.is_retryable_reason reason = true →
      call.retry_count < state.config.push_retry_max_attempts → M (push_retry state call_id call reason)) :
    (recover state call_id call reason other).Uses (Acts M s message) := by
  unfold recover
  split
  · refine (send_relay_needed_acts hother state _ _ _).bind fun sent => ?_
    cases sent with
    | ok _ => trivial
    | error e =>
      dsimp only
      split
      next hreason => exact handle_retryable_failure_acts other (hretry hreason)
      next => trivial
  · split
    next hreason => exact handle_retryable_failure_acts other (hretry hreason)
    next => trivial

theorem send_error_uses (code : Nat) (text : String) :
    (send_error s code text).Uses (Handles s message) :=
  (send_error_acts (M := fun _ => True) (fun _ _ => trivial) code text).mono fun _ => Acts.handles

theorem send_to_peer_uses (peer_id : String) (framed : FramedMessage) :
    (send_to_peer peer_id framed).Uses (Handles s message) :=
  (send_to_peer_acts (M := fun _ => True) peer_id trivial).mono fun _ => Acts.handles

theorem now_secs_uses : now_secs.Uses (Handles s message) := Task.uses_perform.mpr (.inl trivial)

theorem recover_uses (state : AppState) (call_id : String) (call : CallEntry) (reason : Int)
    (other : String) : (recover state call_id call reason other).Uses (Handles s message) :=
  (recover_acts (M := fun _ => True) (fun _ _ => trivial) other fun _ _ => trivial).mono
    fun _ => Acts.handles

end Observers

end voip_signaling.session
