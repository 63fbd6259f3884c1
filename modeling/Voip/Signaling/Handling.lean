import Voip.Signaling.Effects
import Voip.Signaling.Footprint

namespace voip_signaling.session

open async state voip_core.proto.signaling

section Handlers

variable {M : FramedMessage → Prop} (hother : ∀ message, message.type_id ≠ type_id.PUSH_RETRY → M message)
  {state : AppState} {s : SessionId} {payload : wire.Bytes} {message : Option ClientMessage}
include hother

/-- Looking a call up: a handler answers with an error if there is none. -/
private theorem get_call_acts {call_id : String} {code : Nat} {text : String} {next : Option CallEntry → Async Unit}
    (hnone : next none = send_error s code text) (hsome : ∀ call, (next (some call)).Uses (Acts M s message)) :
    (get_call call_id >>= next).Uses (Acts M s message) := by
  refine Task.Uses.perform_bind ⟨.inl trivial, trivial, trivial⟩ fun found => ?_
  cases found with
  | none =>
    rw [hnone]
    exact send_error_acts hother _ _
  | some call => exact hsome call

/-- The check of the session's peer under the lock, which is given back either way. -/
private theorem locked_acts {allowed : String → Bool} {code : Nat} {text : String} {rest : Async Unit}
    (hrest : rest.Uses (Acts M s message)) :
    (lock_holder s >>= fun session_peer =>
      if mismatch session_peer allowed then send_error s code text >>= fun _ => unlock_holder s
      else unlock_holder s >>= fun _ => rest).Uses (Acts M s message) := by
  refine Task.Uses.perform_bind ⟨.inl rfl, trivial, trivial⟩ fun session_peer => ?_
  split
  · exact (send_error_acts hother _ _).bind fun _ => Task.uses_perform.mpr ⟨.inl rfl, trivial, trivial⟩
  · exact Task.Uses.perform_bind ⟨.inl rfl, trivial, trivial⟩ fun _ => hrest

/-- The check that the session's peer takes part in the call. -/
private theorem participant_acts {allowed : String → Bool} {code : Nat} {text : String}
    {rest : Option String → Async Unit} (hrest : ∀ sending_peer, (rest sending_peer).Uses (Acts M s message)) :
    (read_holder s >>= fun sending_peer =>
      if mismatch sending_peer allowed then send_error s code text
      else rest sending_peer).Uses (Acts M s message) := by
  refine Task.Uses.perform_bind ⟨.inl rfl, trivial, trivial⟩ fun sending_peer => ?_
  split
  · exact send_error_acts hother _ _
  · exact hrest sending_peer

private theorem ws_handle_peer_register_acts
    (hmessage : message = (state.prost.peer_register payload).map .PeerRegister) :
    (ws_handle_peer_register state s payload).Uses (Acts M s message) := by
  subst hmessage
  unfold ws_handle_peer_register
  cases state.prost.peer_register payload with
  | none => exact send_error_acts hother _ _
  | some msg =>
    refine Task.Uses.perform_bind ⟨.inl trivial, trivial, _, rfl, rfl, rfl⟩ fun allowed => ?_
    cases allowed with
    | false => exact send_error_acts hother _ _
    | true =>
      refine Task.Uses.perform_bind ⟨.inl trivial, trivial, trivial⟩ fun now => ?_
      refine Task.Uses.perform_bind ⟨Handles.of_assigns rfl, trivial, trivial⟩ fun _ => ?_
      refine Task.Uses.perform_bind ⟨Handles.of_writes ⟨rfl, rfl⟩, trivial, trivial⟩ fun registered => ?_
      cases registered with
      | ok _ => trivial
      | error e => exact send_error_acts hother _ _

omit hother in
private theorem ws_handle_peer_unregister_acts
    (hmessage : message = (state.prost.peer_unregister payload).map .PeerUnregister) :
    (ws_handle_peer_unregister state s payload).Uses (Acts M s message) := by
  subst hmessage
  unfold ws_handle_peer_unregister
  cases state.prost.peer_unregister payload with
  | none => trivial
  | some msg =>
    refine Task.Uses.perform_bind ⟨Handles.of_writes rfl, trivial, trivial⟩ fun _ => ?_
    exact Task.uses_perform.mpr ⟨Handles.of_assigns rfl, trivial, trivial⟩

private theorem ws_handle_call_request_acts
    (hmessage : message = (state.prost.call_request payload).map .CallRequest) :
    (ws_handle_call_request state s payload).Uses (Acts M s message) := by
  subst hmessage
  unfold ws_handle_call_request
  cases state.prost.call_request payload with
  | none => exact send_error_acts hother _ _
  | some msg =>
    refine Task.Uses.perform_bind ⟨.inl trivial, trivial, _, rfl, rfl, rfl⟩ fun allowed => ?_
    cases allowed with
    | false => exact send_error_acts hother _ _
    | true =>
      refine locked_acts hother ?_
      refine Task.Uses.perform_bind ⟨.inl trivial, trivial, trivial⟩ fun now => ?_
      refine Task.Uses.perform_bind ⟨Handles.of_writes ⟨now, rfl⟩, trivial, trivial⟩ fun created => ?_
      cases created with
      | error e => exact send_error_acts hother _ _
      | ok _ =>
        refine (forward_acts hother _ (by decide) _).bind fun sent => ?_
        cases sent with
        | ok _ => trivial
        | error e =>
          refine (send_error_acts hother _ _).bind fun _ => ?_
          exact Task.uses_perform.mpr ⟨Handles.of_writes rfl, trivial, trivial⟩

private theorem ws_handle_call_accept_acts
    (hmessage : message = (state.prost.call_accept payload).map .CallAccept) :
    (ws_handle_call_accept state s payload).Uses (Acts M s message) := by
  subst hmessage
  unfold ws_handle_call_accept
  cases state.prost.call_accept payload with
  | none => exact send_error_acts hother _ _
  | some msg =>
    refine get_call_acts hother rfl fun call => ?_
    refine locked_acts hother ?_
    refine Task.Uses.perform_bind ⟨Handles.of_writes ⟨rfl, rfl⟩, trivial, trivial⟩ fun updated => ?_
    cases updated with
    | error e => exact send_error_acts hother _ _
    | ok _ =>
      refine get_call_acts hother rfl fun call => ?_
      refine (forward_acts hother _ (by decide) _).bind fun sent => ?_
      cases sent with
      | ok _ => trivial
      | error e => exact send_error_acts hother _ _

private theorem ws_handle_call_reject_acts
    (hmessage : message = (state.prost.call_reject payload).map .CallReject) :
    (ws_handle_call_reject state s payload).Uses (Acts M s message) := by
  subst hmessage
  unfold ws_handle_call_reject
  cases state.prost.call_reject payload with
  | none => trivial
  | some msg =>
    refine get_call_acts hother rfl fun call => ?_
    refine locked_acts hother ?_
    refine Task.Uses.perform_bind ⟨.inl trivial, trivial, trivial⟩ fun now => ?_
    refine Task.Uses.perform_bind ⟨Handles.of_writes rfl, trivial, trivial⟩ fun _ => ?_
    refine (forward_acts hother _ (by decide) _).bind fun _ => ?_
    exact Task.uses_perform.mpr ⟨Handles.of_writes rfl, trivial, trivial⟩

private theorem ws_handle_call_failed_acts
    (hretry : ∀ msg call, state.prost.call_failed payload = some msg →
      push.is_retryable_reason msg.reason = true →
      call.retry_count < state.config.push_retry_max_attempts →
      M (push_retry state msg.call_id call msg.reason))
    (hmessage : message = (state.prost.call_failed payload).map .CallFailed) :
    (ws_handle_call_failed state s payload).Uses (Acts M s message) := by
  subst hmessage
  unfold ws_handle_call_failed
  cases hdecoded : state.prost.call_failed payload with
  | none => trivial
  | some msg =>
    refine get_call_acts hother rfl fun call => ?_
    refine participant_acts hother fun sending_peer => ?_
    refine (forward_acts hother _ (by decide) _).bind fun _ => ?_
    refine (recover_acts hother _ (hretry msg call hdecoded)).bind fun _ => ?_
    refine Task.Uses.perform_bind ⟨.inl trivial, trivial, trivial⟩ fun now => ?_
    exact Task.Uses.perform_bind ⟨Handles.of_writes rfl, trivial, trivial⟩ fun _ => trivial

private theorem ws_handle_call_ended_acts
    (hmessage : message = (state.prost.call_ended payload).map .CallEnded) :
    (ws_handle_call_ended state s payload).Uses (Acts M s message) := by
  subst hmessage
  unfold ws_handle_call_ended
  cases state.prost.call_ended payload with
  | none => trivial
  | some msg =>
    refine get_call_acts hother rfl fun call => ?_
    refine participant_acts hother fun sending_peer => ?_
    refine (forward_acts hother _ (by decide) _).bind fun _ => ?_
    refine Task.Uses.perform_bind ⟨.inl trivial, trivial, trivial⟩ fun now => ?_
    refine Task.Uses.perform_bind ⟨Handles.of_writes rfl, trivial, trivial⟩ fun _ => ?_
    exact Task.uses_perform.mpr ⟨Handles.of_writes rfl, trivial, trivial⟩

/-- While a message is dispatched, its handler keeps to what the message asks for, and sends a
`PushRetry` only if it reports a failure that is worth one. -/
theorem dispatch_ws_message_acts (s : SessionId) {framed : FramedMessage}
    (hretry : ∀ msg call, client_message state framed = some (.CallFailed msg) →
      push.is_retryable_reason msg.reason = true →
      call.retry_count < state.config.push_retry_max_attempts →
      M (push_retry state msg.call_id call msg.reason)) :
    (dispatch_ws_message state s framed).Uses (Acts M s (client_message state framed)) := by
  unfold dispatch_ws_message
  unfold client_message at hretry ⊢
  split
  · exact ws_handle_peer_register_acts hother rfl
  next hregister =>
  rw [if_neg hregister] at hretry
  split
  · exact ws_handle_peer_unregister_acts rfl
  next hunregister =>
  rw [if_neg hunregister] at hretry
  split
  · exact ws_handle_call_request_acts hother rfl
  next hrequest =>
  rw [if_neg hrequest] at hretry
  split
  · exact ws_handle_call_accept_acts hother rfl
  next haccept =>
  rw [if_neg haccept] at hretry
  split
  · exact ws_handle_call_reject_acts hother rfl
  next hreject =>
  rw [if_neg hreject] at hretry
  split
  next hfailed =>
    rw [if_pos hfailed] at hretry
    refine ws_handle_call_failed_acts hother (fun msg call hdecoded => hretry msg call ?_) rfl
    rw [hdecoded]
    rfl
  split
  · exact ws_handle_call_ended_acts hother rfl
  · exact send_error_acts hother _ _

end Handlers

theorem dispatch_ws_message_uses (state : AppState) (s : SessionId) (framed : FramedMessage) :
    (dispatch_ws_message state s framed).Uses (Handles s (client_message state framed)) :=
  (dispatch_ws_message_acts (M := fun _ => True) (fun _ _ => trivial) s fun _ _ _ _ _ => trivial).mono
    fun _ => Acts.handles

/-- The handler of each message. -/
inductive Dispatched (state : AppState) (s : SessionId) (payload : wire.Bytes) :
    ClientMessage → Async Unit → Prop where
  | PeerRegister {msg : PeerRegister} (decoded : state.prost.peer_register payload = some msg) :
      Dispatched state s payload (.PeerRegister msg) (ws_handle_peer_register state s payload)
  | PeerUnregister {msg : PeerUnregister} (decoded : state.prost.peer_unregister payload = some msg) :
      Dispatched state s payload (.PeerUnregister msg) (ws_handle_peer_unregister state s payload)
  | CallRequest {msg : CallRequest} (decoded : state.prost.call_request payload = some msg) :
      Dispatched state s payload (.CallRequest msg) (ws_handle_call_request state s payload)
  | CallAccept {msg : CallAccept} (decoded : state.prost.call_accept payload = some msg) :
      Dispatched state s payload (.CallAccept msg) (ws_handle_call_accept state s payload)
  | CallReject {msg : CallReject} (decoded : state.prost.call_reject payload = some msg) :
      Dispatched state s payload (.CallReject msg) (ws_handle_call_reject state s payload)
  | CallFailed {msg : CallFailed} (decoded : state.prost.call_failed payload = some msg) :
      Dispatched state s payload (.CallFailed msg) (ws_handle_call_failed state s payload)
  | CallEnded {msg : CallEnded} (decoded : state.prost.call_ended payload = some msg) :
      Dispatched state s payload (.CallEnded msg) (ws_handle_call_ended state s payload)

theorem Dispatched.uses {state : AppState} {s : SessionId} {payload : wire.Bytes} {msg : ClientMessage}
    {task : Async Unit} (hdispatched : Dispatched state s payload msg task) :
    task.Uses (Handles s (some msg)) := by
  have hother : ∀ message : FramedMessage, message.type_id ≠ type_id.PUSH_RETRY → True :=
    fun _ _ => trivial
  refine Task.Uses.mono (P := Acts (fun _ => True) s (some msg)) ?_ fun _ => Acts.handles
  cases hdispatched with
  | PeerRegister hdecoded => exact ws_handle_peer_register_acts hother (by rw [hdecoded]; rfl)
  | PeerUnregister hdecoded => exact ws_handle_peer_unregister_acts (by rw [hdecoded]; rfl)
  | CallRequest hdecoded => exact ws_handle_call_request_acts hother (by rw [hdecoded]; rfl)
  | CallAccept hdecoded => exact ws_handle_call_accept_acts hother (by rw [hdecoded]; rfl)
  | CallReject hdecoded => exact ws_handle_call_reject_acts hother (by rw [hdecoded]; rfl)
  | CallFailed hdecoded =>
    exact ws_handle_call_failed_acts hother (fun _ _ _ _ _ => trivial) (by rw [hdecoded]; rfl)
  | CallEnded hdecoded => exact ws_handle_call_ended_acts hother (by rw [hdecoded]; rfl)

theorem dispatch_ws_message_dispatched {state : AppState} (s : SessionId) {framed : FramedMessage}
    {msg : ClientMessage} (hmsg : client_message state framed = some msg) :
    Dispatched state s framed.payload msg (dispatch_ws_message state s framed) := by
  unfold client_message at hmsg
  unfold dispatch_ws_message
  split at hmsg
  next htype =>
    obtain ⟨msg, hdecoded, rfl⟩ := Option.map_eq_some_iff.mp hmsg
    rw [if_pos htype]
    exact .PeerRegister hdecoded
  next hregister =>
  rw [if_neg hregister]
  split at hmsg
  next htype =>
    obtain ⟨msg, hdecoded, rfl⟩ := Option.map_eq_some_iff.mp hmsg
    rw [if_pos htype]
    exact .PeerUnregister hdecoded
  next hunregister =>
  rw [if_neg hunregister]
  split at hmsg
  next htype =>
    obtain ⟨msg, hdecoded, rfl⟩ := Option.map_eq_some_iff.mp hmsg
    rw [if_pos htype]
    exact .CallRequest hdecoded
  next hrequest =>
  rw [if_neg hrequest]
  split at hmsg
  next htype =>
    obtain ⟨msg, hdecoded, rfl⟩ := Option.map_eq_some_iff.mp hmsg
    rw [if_pos htype]
    exact .CallAccept hdecoded
  next haccept =>
  rw [if_neg haccept]
  split at hmsg
  next htype =>
    obtain ⟨msg, hdecoded, rfl⟩ := Option.map_eq_some_iff.mp hmsg
    rw [if_pos htype]
    exact .CallReject hdecoded
  next hreject =>
  rw [if_neg hreject]
  split at hmsg
  next htype =>
    obtain ⟨msg, hdecoded, rfl⟩ := Option.map_eq_some_iff.mp hmsg
    rw [if_pos htype]
    exact .CallFailed hdecoded
  next hfailed =>
  rw [if_neg hfailed]
  split at hmsg
  next htype =>
    obtain ⟨msg, hdecoded, rfl⟩ := Option.map_eq_some_iff.mp hmsg
    rw [if_pos htype]
    exact .CallEnded hdecoded
  next => contradiction

/-- While a session handles a message, it writes only what that message asks for. -/
theorem receive_message_uses (state : AppState) (s : SessionId) (framed : FramedMessage) :
    (receive_message state s framed).Uses (Handles s (client_message state framed)) := by
  unfold receive_message
  refine Task.Uses.perform_bind (.inl rfl) fun holder => ?_
  cases holder with
  | none => exact dispatch_ws_message_uses state s framed
  | some peer_id =>
    refine Task.Uses.perform_bind (.inl trivial) fun allowed => ?_
    cases allowed with
    | false => exact send_error_uses _ _
    | true => exact dispatch_ws_message_uses state s framed

/-- The actions of a session that is cleaning up. -/
def Cleans (s : SessionId) : Action → Prop
  | .claim_disconnect s' | .lock_holder s' | .unlock_holder s' => s' = s
  | .state (.disconnect_peer _) => True
  | _ => False

theorem cleanup_uses (s : SessionId) : (cleanup s).Uses (Cleans s) := by
  unfold cleanup
  refine Task.Uses.perform_bind rfl fun won => ?_
  cases won with
  | false => trivial
  | true =>
    refine Task.Uses.perform_bind rfl fun holder => ?_
    cases holder with
    | none => exact Task.uses_perform.mpr rfl
    | some peer_id =>
      refine Task.Uses.perform_bind trivial fun _ => ?_
      exact Task.uses_perform.mpr rfl

section Calls

variable {op : Op} {inner : InnerState} {c : String} {entry : Option CallEntry}

theorem reads.not_changes_call (hreads : reads op) : ¬ op.ChangesCall inner c entry := by
  intro hop
  cases hop <;> exact hreads

theorem Cleans.not_changes_call {s : SessionId} (hcleans : Cleans s (.state op)) :
    ¬ op.ChangesCall inner c entry := by
  intro hop
  cases hop <;> exact hcleans

end Calls

end voip_signaling.session
