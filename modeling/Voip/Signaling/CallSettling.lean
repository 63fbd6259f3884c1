import Voip.Signaling.CallRoles

namespace voip_signaling.state

/-- The call whose state an operation changes. -/
def Op.settles : Op → Option String
  | .update_call_state call_id _ | .end_call call_id _ _ => some call_id
  | _ => none

end voip_signaling.state

namespace voip_signaling.session

open async state voip_core.proto.signaling

/-- The call whose state a message is meant to change. -/
def ClientMessage.settles : ClientMessage → Option String
  | .CallAccept msg => some msg.call_id
  | .CallReject msg => some msg.call_id
  | .CallFailed msg => some msg.call_id
  | .CallEnded msg => some msg.call_id
  | .PeerRegister _ | .PeerUnregister _ | .CallRequest _ => none

theorem ClientMessage.Writes.settles {msg : ClientMessage} {s : SessionId} {op : Op} {c : String}
    (hwrites : msg.Writes s op) (hsettles : op.settles = some c) : msg.settles = some c := by
  cases op with
  | update_call_state call_id new_state =>
    cases hsettles
    cases msg with
    | CallAccept accept => exact congrArg some hwrites.1.symm
    | _ => exact hwrites.elim
  | end_call call_id at_secs reason =>
    cases hsettles
    cases msg with
    | CallReject _ | CallFailed _ | CallEnded _ => exact congrArg some (Eq.symm hwrites)
    | _ => exact hwrites.elim
  | _ => contradiction

/-- The registry has no entry for the call whose state is `ENDED`. -/
def NotEnded (c : String) (server : Server) : Prop :=
  ∀ call, server.inner.calls.peek c = some call → call.state ≠ 4

/-- An action changes the state only of calls that have not ended. -/
def SettlesUnended (action : Action) (server : Server) : Prop :=
  ∀ op c, action = .state op → op.settles = some c → NotEnded c server

/-- An action that changes the state of no call. -/
def Action.Neutral (action : Action) : Prop := ∀ op, action = .state op → op.settles = none

/-- While a session settles a call, others do not end it. -/
def SettlingRely (c : String) (before after : Server) : Prop := NotEnded c before → NotEnded c after

def SettlingSafe (s : SessionId) (c : String) (task : Async Unit) (server : Server) : Prop :=
  task.Safe (exec (.receive_loop s)) (SettlingRely c) SettlesUnended (fun _ _ => True) server

section Steps

variable {s : SessionId} {c : String} {server after : Server} {action : Action}

theorem Observes.neutral (hobserves : Observes s action) : action.Neutral := by
  rintro op rfl
  cases op <;> first | rfl | exact hobserves.elim

theorem SettlesUnended.of_neutral (hneutral : action.Neutral) : SettlesUnended action server := by
  rintro op c rfl hsettles
  simp [hneutral op rfl] at hsettles

theorem NotEnded.observe {actor : Actor} {answer : action.Answer} (hnot : NotEnded c server)
    (hobserves : Observes s action) (hexec : exec actor action server = some (answer, after)) :
    NotEnded c after := by
  intro call hcall
  obtain hsame | ⟨op, rfl, hop⟩ := exec_calls hexec c
  · exact hnot call (by rwa [← hsame])
  · exact absurd hop (reads.not_changes_call hobserves)

end Steps

section Safety

variable {s : SessionId} {c : String} {server : Server} {α : Type}

/-- A task that changes the state of no call is safe, whatever happens around it. -/
theorem SettlingSafe.of_neutral {task : Async Unit} (huses : task.Uses Action.Neutral) :
    SettlingSafe s c task server := by
  refine Task.Safe.weaken (Task.Safe.of_uses (I := fun _ => True) (fun _ _ _ _ => trivial) ?_ trivial)
    fun _ _ _ => trivial
  exact huses.mono fun action hneutral before answer after _ _ => ⟨.of_neutral hneutral, trivial⟩

theorem Handles.neutral {action : Action} (hhandles : Handles s none action) : action.Neutral := by
  obtain hobserves | ⟨msg, hmsg, -⟩ := hhandles
  · exact hobserves.neutral
  · contradiction

theorem SettlingSafe.of_observes {task : Async Unit} (huses : task.Uses (Handles s none)) :
    SettlingSafe s c task server :=
  .of_neutral (huses.mono fun _ hhandles => hhandles.neutral)

/-- Observing does not end a call, so a handler may go on to settle it. -/
theorem SettlingSafe.observe_bind {task : Async α} {next : α → Async Unit}
    (huses : task.Uses (Handles s none)) (hnot : NotEnded c server)
    (hnext : ∀ value after, NotEnded c after → SettlingSafe s c (next value) after) :
    SettlingSafe s c (task >>= next) server := by
  refine Task.Safe.bind (fun _ h => h) (Task.Safe.weaken (Task.Safe.of_uses (I := NotEnded c)
    (fun _ _ h hrely => hrely h) ?_ hnot) hnext)
  refine huses.mono fun action hhandles before answer after hbefore hexec => ?_
  obtain hobserves | ⟨msg, hmsg, -⟩ := hhandles
  · exact ⟨.of_neutral hobserves.neutral, hbefore.observe hobserves hexec⟩
  · contradiction

/-- The change of state itself. -/
theorem SettlingSafe.settle_bind {op : Op} (hsettles : op.settles = some c) {next : op.Answer → Async Unit}
    (hnot : NotEnded c server) (hnext : ∀ answer after, SettlingSafe s c (next answer) after) :
    SettlingSafe s c (perform (.state op) >>= next) server := by
  refine Task.Safe.perform_bind (fun _ _ h hrely => hrely h) hnot ?_
  intro before answer after hbefore _
  refine ⟨?_, hnext answer after⟩
  rintro op' c' ⟨⟩ hsettles'
  obtain rfl : c = c' := by simpa [hsettles] using hsettles'
  exact hbefore

theorem SettlingSafe.end_call_bind {reason : Option String} {next : Except error.SignalingError Unit → Async Unit}
    (hnot : NotEnded c server) (hnext : ∀ answer after, SettlingSafe s c (next answer) after) :
    SettlingSafe s c (end_call c reason >>= next) server := by
  rw [end_call, bind_assoc]
  refine observe_bind now_secs_uses hnot fun now after hafter => ?_
  exact settle_bind rfl hafter hnext

end Safety

section Handlers

variable {state : AppState} {s : SessionId} {payload : wire.Bytes} {server : Server}

private theorem get_call_uses (c : String) : (get_call c).Uses (Handles s none) :=
  Task.uses_perform.mpr (.inl trivial)

private theorem lock_holder_uses : (lock_holder s).Uses (Handles s none) :=
  Task.uses_perform.mpr (.inl rfl)

private theorem unlock_holder_uses : (unlock_holder s).Uses (Handles s none) :=
  Task.uses_perform.mpr (.inl rfl)

private theorem read_holder_uses : (read_holder s).Uses (Handles s none) :=
  Task.uses_perform.mpr (.inl rfl)

private theorem get_call_settles {c call_id : String} {code : Nat} {text : String}
    {next : Option CallEntry → Async Unit} (hnot : NotEnded c server)
    (hnone : next none = send_error s code text)
    (hsome : ∀ call after, NotEnded c after → SettlingSafe s c (next (some call)) after) :
    SettlingSafe s c (get_call call_id >>= next) server := by
  refine .observe_bind (get_call_uses _) hnot fun found after hnot => ?_
  cases found with
  | none =>
    rw [hnone]
    exact .of_observes (send_error_uses _ _)
  | some call => exact hsome call after hnot

private theorem locked_settles {c : String} {allowed : String → Bool} {code : Nat} {text : String}
    {rest : Async Unit} (hnot : NotEnded c server)
    (hrest : ∀ after, NotEnded c after → SettlingSafe s c rest after) :
    SettlingSafe s c (lock_holder s >>= fun holder =>
      if mismatch holder allowed then send_error s code text >>= fun _ => unlock_holder s
      else unlock_holder s >>= fun _ => rest) server := by
  refine .observe_bind lock_holder_uses hnot fun holder after hnot => ?_
  split
  · exact .of_observes ((send_error_uses _ _).bind fun _ => unlock_holder_uses)
  · exact .observe_bind unlock_holder_uses hnot fun _ after hnot => hrest after hnot

private theorem participant_settles {c : String} {allowed : String → Bool} {code : Nat} {text : String}
    {rest : Option String → Async Unit} (hnot : NotEnded c server)
    (hrest : ∀ holder after, NotEnded c after → SettlingSafe s c (rest holder) after) :
    SettlingSafe s c (read_holder s >>= fun holder =>
      if mismatch holder allowed then send_error s code text else rest holder) server := by
  refine .observe_bind read_holder_uses hnot fun holder after hnot => ?_
  split
  · exact .of_observes (send_error_uses _ _)
  · exact hrest holder after hnot

private theorem accept_settles {accept : CallAccept}
    (hdecoded : state.prost.call_accept payload = some accept) (hnot : NotEnded accept.call_id server) :
    SettlingSafe s accept.call_id (ws_handle_call_accept state s payload) server := by
  unfold ws_handle_call_accept
  rw [hdecoded]
  refine get_call_settles hnot rfl fun call after hnot => ?_
  refine locked_settles hnot fun after hnot => ?_
  refine .settle_bind rfl hnot fun updated after => ?_
  cases updated with
  | error e => exact .of_observes (send_error_uses _ _)
  | ok _ =>
    refine .of_observes ((get_call_uses _).bind fun found => ?_)
    cases found with
    | none => exact send_error_uses _ _
    | some call =>
      refine (send_to_peer_uses _ _).bind fun sent => ?_
      cases sent with
      | ok _ => trivial
      | error e => exact send_error_uses _ _

private theorem remove_call_uses (c : String) : (remove_call c).Uses Action.Neutral := by
  refine Task.uses_perform.mpr ?_
  rintro op ⟨⟩
  rfl

private theorem reject_settles {reject : CallReject}
    (hdecoded : state.prost.call_reject payload = some reject) (hnot : NotEnded reject.call_id server) :
    SettlingSafe s reject.call_id (ws_handle_call_reject state s payload) server := by
  unfold ws_handle_call_reject
  rw [hdecoded]
  refine get_call_settles hnot rfl fun call after hnot => ?_
  refine locked_settles hnot fun after hnot => ?_
  refine .end_call_bind hnot fun _ after => .of_neutral ?_
  refine Task.Uses.bind ?_ fun _ => remove_call_uses _
  exact (send_to_peer_uses _ _).mono fun _ hhandles => Handles.neutral (s := s) hhandles

private theorem failed_settles {failed : CallFailed}
    (hdecoded : state.prost.call_failed payload = some failed) (hnot : NotEnded failed.call_id server) :
    SettlingSafe s failed.call_id (ws_handle_call_failed state s payload) server := by
  unfold ws_handle_call_failed
  rw [hdecoded]
  refine get_call_settles hnot rfl fun call after hnot => ?_
  refine participant_settles hnot fun holder after hnot => ?_
  refine .observe_bind (send_to_peer_uses _ _) hnot fun _ after hnot => ?_
  refine .observe_bind (recover_uses state _ _ _ _) hnot fun _ after hnot => ?_
  exact .end_call_bind hnot fun _ after => .of_neutral trivial

private theorem ended_settles {ended : CallEnded}
    (hdecoded : state.prost.call_ended payload = some ended) (hnot : NotEnded ended.call_id server) :
    SettlingSafe s ended.call_id (ws_handle_call_ended state s payload) server := by
  unfold ws_handle_call_ended
  rw [hdecoded]
  refine get_call_settles hnot rfl fun call after hnot => ?_
  refine participant_settles hnot fun holder after hnot => ?_
  refine .observe_bind (send_to_peer_uses _ _) hnot fun _ after hnot => ?_
  exact .end_call_bind hnot fun _ after => .of_neutral (remove_call_uses _)

end Handlers

/-- A session that starts to settle a call that has not ended changes its state only
while it has not ended. -/
theorem receive_message_settles {state : AppState} {s : SessionId} {framed : FramedMessage}
    {msg : ClientMessage} {c : String} {server : Server} (hmsg : client_message state framed = some msg)
    (hsettles : msg.settles = some c) (hnot : NotEnded c server) :
    SettlingSafe s c (receive_message state s framed) server := by
  have hdispatch : ∀ server, NotEnded c server →
      SettlingSafe s c (dispatch_ws_message state s framed) server := by
    intro server hnot
    have hdispatched := dispatch_ws_message_dispatched s hmsg
    generalize dispatch_ws_message state s framed = task at hdispatched ⊢
    cases hdispatched with
    | PeerRegister _ | PeerUnregister _ | CallRequest _ => contradiction
    | CallAccept hdecoded =>
      cases hsettles
      exact accept_settles hdecoded hnot
    | CallReject hdecoded =>
      cases hsettles
      exact reject_settles hdecoded hnot
    | CallFailed hdecoded =>
      cases hsettles
      exact failed_settles hdecoded hnot
    | CallEnded hdecoded =>
      cases hsettles
      exact ended_settles hdecoded hnot
  refine .observe_bind read_holder_uses hnot fun holder after hnot => ?_
  cases holder with
  | none => exact hdispatch after hnot
  | some peer_id =>
    refine .observe_bind (Task.uses_perform.mpr (.inl trivial)) hnot fun allowed after hnot => ?_
    cases allowed with
    | false => exact .of_observes (send_error_uses _ _)
    | true => exact hdispatch after hnot

end voip_signaling.session
