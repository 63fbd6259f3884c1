import Voip.Async.AllButOne
import Voip.Async.RelyGuarantee
import Voip.Signaling.Exec
import Voip.Signaling.Handling

namespace voip_signaling.session

open async state error voip_core.proto.signaling

/-- No action sends a `PushRetry`. -/
def Silent : Action → Prop := Sends fun message => message.type_id ≠ type_id.PUSH_RETRY

theorem sends_of_acts {α : Type} {M : FramedMessage → Prop} {s : SessionId} {task : Async α}
    (htask : task.Uses (Acts M s none)) : task.Uses (Sends M) := htask.mono fun _ => Acts.sends

theorem send_error_silent (s : SessionId) (code : Nat) (text : String) :
    (send_error s code text).Uses Silent := sends_of_acts (send_error_acts (fun _ h => h) code text)

section FailCall

variable {state : AppState} {s : SessionId} {payload : wire.Bytes} {call : CallEntry}

/-- The rest of `ws_handle_call_failed` once the call is found. -/
def fail_call (state : AppState) (s : SessionId) (payload : wire.Bytes) (msg : CallFailed)
    (call_entry : CallEntry) : Async Unit := do
  let sending_peer ← read_holder s
  if mismatch sending_peer (is_participant call_entry) then
    send_error s codes.NOT_CALL_PARTICIPANT "not a participant in this call"
  else
    let other := other_peer call_entry sending_peer
    let _ ← send_to_peer other ⟨type_id.CALL_FAILED, payload⟩
    recover state msg.call_id call_entry msg.reason other
    let _ ← end_call msg.call_id (some msg.description)

theorem ws_handle_call_failed_eq {msg : CallFailed} (hdecoded : state.prost.call_failed payload = some msg) :
    ws_handle_call_failed state s payload =
      (get_call msg.call_id >>= fun
        | none => send_error s codes.INVALID_CALL_ID "call not found"
        | some call_entry => fail_call state s payload msg call_entry) := by
  unfold ws_handle_call_failed
  rw [hdecoded]
  rfl

private theorem fail_call_sends {M : FramedMessage → Prop}
    (hother : ∀ message, message.type_id ≠ type_id.PUSH_RETRY → M message) {msg : CallFailed}
    (hretry : push.is_retryable_reason msg.reason = true →
      call.retry_count < state.config.push_retry_max_attempts →
      M (push_retry state msg.call_id call msg.reason)) :
    (fail_call state s payload msg call).Uses (Sends M) := by
  refine Task.Uses.perform_bind trivial fun sending_peer => ?_
  split
  · exact sends_of_acts (send_error_acts hother _ _)
  · refine (sends_of_acts (s := s) (forward_acts hother _ (by decide) _)).bind fun _ => ?_
    refine (sends_of_acts (s := s) (recover_acts hother _ hretry)).bind fun _ => ?_
    refine Task.Uses.perform_bind trivial fun now => ?_
    exact Task.Uses.perform_bind trivial fun _ => trivial

private theorem send_to_peer_all_but_one (peer_id : String) (message : FramedMessage) :
    (send_to_peer peer_id message).AllButOne Silent := by
  refine Task.AllButOne.perform_bind trivial fun found => ?_
  cases found with
  | error e => trivial
  | ok sender => exact fun sent => .inr trivial

private theorem handle_retryable_failure_all_but_one (call_id caller_id callee_id : String) (reason : Int)
    (other : String) (retry_count : Nat) :
    (push.handle_retryable_failure state call_id caller_id callee_id reason other
      retry_count).AllButOne Silent := by
  unfold push.handle_retryable_failure
  split
  · trivial
  · refine (send_to_peer_all_but_one _ _).bind_uses fun _ => ?_
    exact Task.Uses.perform_bind trivial fun _ => trivial

private theorem recover_all_but_one (s : SessionId) (call_id : String) (reason : Int) (other : String) :
    (recover state call_id call reason other).AllButOne Silent := by
  unfold recover
  split
  · refine .bind (sends_of_acts (s := s) (send_relay_needed_acts (fun _ h => h) state _ _ _)) fun sent => ?_
    cases sent with
    | ok _ => trivial
    | error e =>
      dsimp only
      split
      · exact handle_retryable_failure_all_but_one ..
      · trivial
  · split
    · exact handle_retryable_failure_all_but_one ..
    · trivial

private theorem fail_call_all_but_one (msg : CallFailed) :
    (fail_call state s payload msg call).AllButOne Silent := by
  refine .perform_bind trivial fun sending_peer => ?_
  split
  · exact .of_uses (send_error_silent _ _ _)
  · refine .bind (sends_of_acts (s := s) (forward_acts (fun _ h => h) _ (by decide) _)) fun _ => ?_
    refine (recover_all_but_one s _ _ _).bind_uses fun _ => ?_
    refine Task.Uses.perform_bind trivial fun now => ?_
    exact Task.Uses.perform_bind trivial fun _ => trivial

end FailCall

/-- The call that a message reports as failed for a reason that is worth a retry. -/
def retryable_call (state : AppState) (framed : FramedMessage) : Option String :=
  match client_message state framed with
  | some (.CallFailed msg) => if push.is_retryable_reason msg.reason then some msg.call_id else none
  | _ => none

/-- A message that is a `PushRetry` asks for the first attempt at the given call. -/
def FirstRetry (state : AppState) (asked : Option String) (message : FramedMessage) : Prop :=
  message.type_id = type_id.PUSH_RETRY → ∃ call_id caller_id callee_id reason, asked = some call_id ∧
    message = push.build_push_retry_message call_id caller_id callee_id reason 1
      (state.config.retry_delay_secs 1 * 1000 % 2 ^ 64)

/-- The call that a message makes the server send a `PushRetry` for, if at all. -/
def asked_call (state : AppState) (framed : FramedMessage) : Option String :=
  if state.config.push_retry_max_attempts = 0 then none else retryable_call state framed

/-- No call of the registry has been retried. -/
def Unretried (server : Server) : Prop :=
  ∀ call_id call, server.inner.calls.peek call_id = some call → call.retry_count = 0

/-- The tasks of sessions as long as no call is ever retried. -/
def SendsFirst (state : AppState) (actor : Actor) (asked : Option String) (task : Async Unit)
    (server : Server) : Prop :=
  task.Safe (exec actor) (fun _ after => Unretried after) (fun action _ => Sends (FirstRetry state asked) action)
    (fun _ _ => True) server

section Receive

variable {state : AppState} {s : SessionId} {framed : FramedMessage}

theorem SendsFirst.of_silent {actor : Actor} {asked : Option String} {task : Async Unit}
    (htask : task.Uses Silent) (server : Server) : SendsFirst state actor asked task server := by
  refine Task.Safe.of_uses (I := fun _ => True) (fun _ _ _ _ => trivial) (htask.mono ?_) trivial
  intro action haction before answer after _ _
  refine ⟨?_, trivial⟩
  cases action with
  | send _ message => exact fun hretry => absurd hretry haction
  | send_holding_peers message => exact fun hretry => absurd hretry haction
  | _ => trivial

private theorem dispatch_silent (hasked : asked_call state framed = none) :
    (dispatch_ws_message state s framed).Uses Silent := by
  refine (dispatch_ws_message_acts (fun _ h => h) s fun msg call hmsg hreason hcount => ?_).mono
    fun _ => Acts.sends
  have hmax : state.config.push_retry_max_attempts ≠ 0 := Nat.ne_zero_of_lt hcount
  simp [asked_call, hmax, retryable_call, hmsg, hreason] at hasked

/-- Only a report of a failure makes a handler send a `PushRetry`. -/
private theorem dispatch_silent_or (state : AppState) (s : SessionId) (framed : FramedMessage) :
    (dispatch_ws_message state s framed).Uses Silent ∨
      ∃ msg, client_message state framed = some (.CallFailed msg) ∧
        dispatch_ws_message state s framed = (get_call msg.call_id >>= fun
          | none => send_error s codes.INVALID_CALL_ID "call not found"
          | some call_entry => fail_call state s framed.payload msg call_entry) := by
  by_cases hfailed : ∃ msg, client_message state framed = some (.CallFailed msg)
  · obtain ⟨msg, hmsg⟩ := hfailed
    have hdispatched := dispatch_ws_message_dispatched s hmsg
    generalize dispatch_ws_message state s framed = task at hdispatched ⊢
    cases hdispatched with
    | CallFailed hdecoded => exact .inr ⟨msg, hmsg, ws_handle_call_failed_eq hdecoded⟩
  · left
    refine (dispatch_ws_message_acts (fun _ h => h) s fun msg call hmsg => ?_).mono fun _ => Acts.sends
    exact absurd ⟨msg, hmsg⟩ hfailed

private theorem dispatch_all_but_one : (dispatch_ws_message state s framed).AllButOne Silent := by
  obtain hsilent | ⟨msg, hmsg, hdispatch⟩ := dispatch_silent_or state s framed
  · exact .of_uses hsilent
  · rw [hdispatch]
    refine .perform_bind trivial fun found => ?_
    cases found with
    | none => exact .of_uses (send_error_silent _ _ _)
    | some call => exact fail_call_all_but_one msg

private theorem dispatch_sends_first (actor : Actor) (server : Server) :
    SendsFirst state actor (asked_call state framed) (dispatch_ws_message state s framed) server := by
  obtain hsilent | ⟨msg, hmsg, hdispatch⟩ := dispatch_silent_or state s framed
  · exact .of_silent hsilent server
  · rw [hdispatch]
    intro before hunretried found after hexec
    refine ⟨trivial, ?_⟩
    cases found with
    | none => exact SendsFirst.of_silent (send_error_silent _ _ _) _
    | some call =>
      have hcount : call.retry_count = 0 := by
        obtain ⟨-, hfound, -⟩ := exec_state_eq_some.mp hexec
        exact hunretried _ call hfound.symm
      refine Task.Safe.weaken (Task.Safe.of_uses (I := fun _ => True) (fun _ _ _ _ => trivial)
        ((fail_call_sends (M := FirstRetry state (asked_call state framed)) ?_ ?_).mono ?_) trivial)
        fun _ _ _ => trivial
      · exact fun message hother hretry => absurd hretry hother
      · intro hreason hmax _
        rw [hcount] at hmax
        refine ⟨msg.call_id, call.caller_id, call.callee_id, msg.reason, ?_, ?_⟩
        · simp [asked_call, Nat.ne_of_gt hmax, retryable_call, hmsg, hreason]
        · simp [push_retry, hcount]
      · exact fun action haction _ _ _ _ _ => ⟨haction, trivial⟩

/-- A message that asks for no retry is handled without a `PushRetry`. -/
theorem receive_message_silent (hasked : asked_call state framed = none) :
    (receive_message state s framed).Uses Silent := by
  refine Task.Uses.perform_bind trivial fun holder => ?_
  cases holder with
  | none => exact dispatch_silent hasked
  | some peer_id =>
    refine Task.Uses.perform_bind trivial fun allowed => ?_
    cases allowed with
    | false => exact send_error_silent _ _ _
    | true => exact dispatch_silent hasked

/-- Handling a message sends at most one `PushRetry`. -/
theorem receive_message_all_but_one : (receive_message state s framed).AllButOne Silent := by
  refine .perform_bind trivial fun holder => ?_
  cases holder with
  | none => exact dispatch_all_but_one
  | some peer_id =>
    refine .perform_bind trivial fun allowed => ?_
    cases allowed with
    | false => exact .of_uses (send_error_silent _ _ _)
    | true => exact dispatch_all_but_one

theorem receive_message_sends_first (actor : Actor) (server : Server) :
    SendsFirst state actor (asked_call state framed) (receive_message state s framed) server := by
  intro before _ holder after _
  refine ⟨trivial, ?_⟩
  cases holder with
  | none => exact dispatch_sends_first actor after
  | some peer_id =>
    intro before _ allowed after _
    refine ⟨trivial, ?_⟩
    cases allowed with
    | false => exact SendsFirst.of_silent (send_error_silent _ _ _) after
    | true => exact dispatch_sends_first actor after

theorem cleanup_silent (s : SessionId) : (cleanup s).Uses Silent := by
  refine (cleanup_uses s).mono fun action haction => ?_
  cases action with
  | send _ _ | send_holding_peers _ => exact haction.elim
  | _ => trivial

end Receive

end voip_signaling.session
