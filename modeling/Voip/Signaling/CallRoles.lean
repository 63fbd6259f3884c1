import Voip.Async.RelyGuarantee
import Voip.Signaling.Exec
import Voip.Signaling.Handling

namespace voip_signaling.state

/-- Two entries of a call between the same peers. -/
def CallEntry.SameParticipants (call call' : CallEntry) : Prop :=
  call.caller_id = call'.caller_id ∧ call.callee_id = call'.callee_id

/-- The entry that an operation creates, or the one it is about to change. -/
def Op.Concerns (inner : InnerState) (call : CallEntry) : Op → Prop
  | .create_call created => call = created
  | .update_call_state call_id _ | .end_call call_id _ _ | .remove_call call_id =>
    inner.calls.peek call_id = some call
  | _ => False

/-- No operation gives a call other participants, though it may evict one. -/
theorem Op.ChangesCall.concerns {inner : InnerState} {op : Op} {c : String} {after : Option CallEntry}
    (hop : op.ChangesCall inner c after) {call : CallEntry}
    (hcall : inner.calls.peek c = some call ∨ after = some call) :
    (∃ concerned, op.Concerns inner concerned ∧ concerned.SameParticipants call) ∨
      inner.calls.Full ∧ after = none ∧
        ∃ created, op = .create_call created ∧ inner.calls.peek created.call_id = none := by
  cases hop with
  | create hid habsent =>
    obtain hbefore | hafter := hcall
    · simp [habsent] at hbefore
    · cases hafter
      exact .inl ⟨call, rfl, rfl, rfl⟩
  | evict habsent hfull hvictim => exact .inr ⟨hfull, rfl, _, rfl, habsent⟩
  | @update entry new_state hpresent =>
    refine .inl ⟨entry, hpresent, ?_⟩
    obtain hbefore | hafter := hcall
    · obtain rfl : entry = call := by simpa [hpresent] using hbefore
      exact ⟨rfl, rfl⟩
    · cases hafter
      exact ⟨rfl, rfl⟩
  | @finish entry at_secs reason hpresent =>
    refine .inl ⟨entry, hpresent, ?_⟩
    obtain hbefore | hafter := hcall
    · obtain rfl : entry = call := by simpa [hpresent] using hbefore
      exact ⟨rfl, rfl⟩
    · cases hafter
      exact ⟨rfl, rfl⟩
  | @remove entry hpresent =>
    refine .inl ⟨entry, hpresent, ?_⟩
    obtain hbefore | hafter := hcall
    · obtain rfl : entry = call := by simpa [hpresent] using hbefore
      exact ⟨rfl, rfl⟩
    · contradiction

/-- An entry that an operation leaves behind has the participants it had, or is new. -/
theorem Op.ChangesCall.participants {inner : InnerState} {op : Op} {c : String}
    {after : Option CallEntry} (hop : op.ChangesCall inner c after) {call' : CallEntry}
    (hafter : after = some call') :
    (∃ call, inner.calls.peek c = some call ∧ call.SameParticipants call') ∨
      ∃ created, op = .create_call created ∧ created.call_id = c ∧ inner.calls.peek c = none := by
  cases hop with
  | create hid habsent => exact .inr ⟨_, rfl, hid, habsent⟩
  | evict habsent hfull hvictim => contradiction
  | update hpresent =>
    cases hafter
    exact .inl ⟨_, hpresent, rfl, rfl⟩
  | finish hpresent =>
    cases hafter
    exact .inl ⟨_, hpresent, rfl, rfl⟩
  | remove hpresent => contradiction

end voip_signaling.state

namespace voip_signaling.session

open async state voip_core.proto.signaling

/-- The peers that may change a call by a message: the caller requests it, the callee
accepts or rejects it, and both may report its failure or its end. -/
def ClientMessage.Authorizes (call : CallEntry) (peer_id : String) : ClientMessage → Prop
  | .PeerRegister _ | .PeerUnregister _ => False
  | .CallRequest _ => peer_id = call.caller_id
  | .CallAccept _ | .CallReject _ => peer_id = call.callee_id
  | .CallFailed _ | .CallEnded _ => peer_id = call.caller_id ∨ peer_id = call.callee_id

theorem ClientMessage.Authorizes.congr {call call' : CallEntry} (hsame : call.SameParticipants call')
    {peer_id : String} {msg : ClientMessage} (hauthorizes : msg.Authorizes call peer_id) :
    msg.Authorizes call' peer_id := by
  obtain ⟨hcaller, hcallee⟩ := hsame
  cases msg <;> simp only [ClientMessage.Authorizes, hcaller, hcallee] at hauthorizes ⊢ <;>
    exact hauthorizes

/-- Whatever the message, the peer is one of the two in the call. -/
theorem ClientMessage.Authorizes.participant {call : CallEntry} {peer_id : String} {msg : ClientMessage}
    (hauthorizes : msg.Authorizes call peer_id) : peer_id = call.caller_id ∨ peer_id = call.callee_id := by
  cases msg with
  | PeerRegister _ | PeerUnregister _ => exact hauthorizes.elim
  | CallRequest _ => exact .inl hauthorizes
  | CallAccept _ | CallReject _ => exact .inr hauthorizes
  | CallFailed _ | CallEnded _ => exact hauthorizes

/-- A session acts as the peer it was opened for. -/
def Acting (s : SessionId) (peer_id : String) (server : Server) : Prop :=
  ∃ session, server.sessions s = some session ∧ session.peer_id = peer_id ∧
    session.peer_id_holder = some peer_id

/-- While a session handles a message about call `c`, others leave the identity of the
session alone, and do not put another call in the place of `c`. -/
def CallRely (s : SessionId) (c : String) (before after : Server) : Prop :=
  (∀ peer_id, Acting s peer_id before → Acting s peer_id after) ∧
    ∀ call', after.inner.calls.peek c = some call' →
      ∃ call, before.inner.calls.peek c = some call ∧ call.SameParticipants call'

theorem CallRely.refl (s : SessionId) (c : String) (server : Server) : CallRely s c server server :=
  ⟨fun _ h => h, fun call' hcall' => ⟨call', hcall', rfl, rfl⟩⟩

theorem CallRely.of_agrees {s : SessionId} {c : String} {server after : Server}
    (hagrees : server.Agrees after) : CallRely s c server after := by
  refine ⟨fun peer_id hacting => ?_, fun call' hcall' => ⟨call', ?_, rfl, rfl⟩⟩
  · simpa only [Acting, hagrees.sessions] using hacting
  · rwa [hagrees.calls] at hcall'

theorem CallRely.trans {s : SessionId} {c : String} {a b d : Server} (hab : CallRely s c a b)
    (hbd : CallRely s c b d) : CallRely s c a d := by
  refine ⟨fun peer_id h => hbd.1 peer_id (hab.1 peer_id h), fun call' hcall' => ?_⟩
  obtain ⟨middle, hmiddle, hsame'⟩ := hbd.2 call' hcall'
  obtain ⟨call, hcall, hsame⟩ := hab.2 middle hmiddle
  exact ⟨call, hcall, hsame.1.trans hsame'.1, hsame.2.trans hsame'.2⟩

/-- An action of a session concerns only calls in which the session's peer has the role
that the message requires. -/
def Allowed (s : SessionId) (msg : ClientMessage) (action : Action) (server : Server) : Prop :=
  ∀ op session call, action = .state op → server.sessions s = some session →
    op.Concerns server.inner call → msg.Authorizes call session.peer_id

/-- The session acts as a peer that has the required role in whatever call `c` is. -/
structure Settled (s : SessionId) (msg : ClientMessage) (c peer_id : String) (server : Server) : Prop where
  acting : Acting s peer_id server
  requests : ∀ request, msg = .CallRequest request → peer_id = request.caller_id
  entry : ∀ call, server.inner.calls.peek c = some call → msg.Authorizes call peer_id

def CallSafe (s : SessionId) (msg : ClientMessage) (c : String) (task : Async Unit) (server : Server) : Prop :=
  task.Safe (exec (.receive_loop s)) (CallRely s c) (Allowed s msg) (fun _ _ => True) server

section Steps

variable {s : SessionId} {msg : ClientMessage} {c peer_id : String} {server after : Server}
  {actor : Actor} {action : Action} {answer : action.Answer}

theorem Acting.exec (hacting : Acting s peer_id server)
    (hkeeps : ∀ assigned, action ≠ .write_holder s assigned)
    (hexec : exec actor action server = some (answer, after)) : Acting s peer_id after := by
  obtain ⟨session, hsession, hpeer, hholder⟩ := hacting
  obtain ⟨session', hsession', hpeer', hholder'⟩ := exec_keeps_holder hexec hkeeps hsession
  exact ⟨session', hsession', hpeer'.trans hpeer, hholder'.trans hholder⟩

theorem Observes.keeps_holder (hobserves : Observes s action) (assigned : Option String) :
    action ≠ .write_holder s assigned := by
  rintro rfl
  exact hobserves

theorem Allowed.of_observes (hobserves : Observes s action) : Allowed s msg action server := by
  rintro op session call rfl - hconcerns
  cases op <;> first | exact hobserves.elim | exact hconcerns.elim

/-- What a message about `c` writes is the entry of `c`, or the call it requests. -/
theorem ClientMessage.Writes.concerns {op : Op} (hwrites : msg.Writes s op) (hcall : msg.call_id = some c)
    {call : CallEntry} (hconcerns : op.Concerns server.inner call) :
    server.inner.calls.peek c = some call ∨
      ∃ request now, msg = .CallRequest request ∧ call = new_call request now := by
  cases op with
  | create_call created =>
    cases msg with
    | CallRequest request =>
      obtain ⟨now, rfl⟩ := hwrites
      exact .inr ⟨request, now, rfl, hconcerns⟩
    | _ => exact hwrites.elim
  | update_call_state call_id new_state =>
    cases msg with
    | CallAccept accept =>
      cases hcall
      obtain ⟨rfl, -⟩ := hwrites
      exact .inl hconcerns
    | _ => exact hwrites.elim
  | end_call call_id at_secs reason =>
    left
    cases msg with
    | CallReject _ | CallFailed _ | CallEnded _ =>
      cases hcall
      cases hwrites
      exact hconcerns
    | _ => exact hwrites.elim
  | remove_call call_id =>
    left
    cases msg with
    | CallRequest _ | CallReject _ | CallEnded _ =>
      cases hcall
      cases hwrites
      exact hconcerns
    | _ => exact hwrites.elim
  | _ => exact hconcerns.elim

/-- A message changes the call it names, unless it evicts another. -/
theorem ClientMessage.Writes.call_id {op : Op} (hwrites : msg.Writes s op) {inner : InnerState}
    {entry : Option CallEntry} (hop : op.ChangesCall inner c entry) :
    msg.call_id = some c ∨ inner.calls.Full ∧
      ∃ created, op = .create_call created ∧ inner.calls.peek created.call_id = none := by
  cases hop with
  | create hid habsent =>
    cases msg with
    | CallRequest request =>
      obtain ⟨now, rfl⟩ := hwrites
      exact .inl (congrArg some hid)
    | _ => exact hwrites.elim
  | evict habsent hfull hvictim => exact .inr ⟨hfull, _, rfl, habsent⟩
  | update hpresent =>
    cases msg with
    | CallAccept accept => exact .inl (congrArg some hwrites.1.symm)
    | _ => exact hwrites.elim
  | finish hpresent =>
    cases msg with
    | CallReject _ | CallFailed _ | CallEnded _ => exact .inl (congrArg some (Eq.symm hwrites))
    | _ => exact hwrites.elim
  | remove hpresent =>
    cases msg with
    | CallRequest _ | CallReject _ | CallEnded _ => exact .inl (congrArg some (Eq.symm hwrites))
    | _ => exact hwrites.elim

theorem Handles.keeps_holder (hhandles : Handles s (some msg) action) (hcall : msg.call_id = some c)
    (assigned : Option String) : action ≠ .write_holder s assigned := by
  obtain hobserves | ⟨msg', hmsg, ⟨peer_id, -, hassigns⟩ | ⟨op, rfl, -⟩⟩ := hhandles
  · exact hobserves.keeps_holder assigned
  · cases hmsg
    cases msg with
    | PeerRegister _ | PeerUnregister _ => contradiction
    | _ => exact hassigns.elim
  · simp

theorem Settled.allows (hsettled : Settled s msg c peer_id server) (hcall : msg.call_id = some c)
    (hhandles : Handles s (some msg) action) : Allowed s msg action server := by
  obtain hobserves | ⟨msg', hmsg, ⟨assigned, rfl, -⟩ | ⟨op, rfl, hwrites⟩⟩ := hhandles
  · exact Allowed.of_observes hobserves
  · rintro op session call ⟨⟩
  · rintro op session call ⟨⟩ hsession hconcerns
    cases hmsg
    obtain ⟨session', hsession', hpeer, -⟩ := hsettled.acting
    obtain rfl : session' = session := by simpa [hsession'] using hsession
    rw [hpeer]
    obtain hentry | ⟨request, now, rfl, rfl⟩ := hwrites.concerns hcall hconcerns
    · exact hsettled.entry call hentry
    · exact hsettled.requests request rfl

/-- A settled session stays settled by its own actions. -/
theorem Settled.exec (hsettled : Settled s msg c peer_id server) (hcall : msg.call_id = some c)
    (hhandles : Handles s (some msg) action) (hexec : exec actor action server = some (answer, after)) :
    Settled s msg c peer_id after where
  acting := hsettled.acting.exec (hhandles.keeps_holder hcall) hexec
  requests := hsettled.requests
  entry call hafter := by
    obtain hsame | ⟨op, rfl, hop⟩ := exec_calls hexec c
    · exact hsettled.entry call (by rwa [← hsame])
    · obtain ⟨concerned, hconcerns, hparticipants⟩ | ⟨-, hnone, -⟩ := hop.concerns (.inr hafter)
      · obtain ⟨session, hsession, rfl, -⟩ := hsettled.acting
        exact (hsettled.allows hcall hhandles op session concerned rfl hsession hconcerns).congr hparticipants
      · simp [hnone] at hafter

theorem Settled.rely (hsettled : Settled s msg c peer_id server) (hrely : CallRely s c server after) :
    Settled s msg c peer_id after where
  acting := hrely.1 peer_id hsettled.acting
  requests := hsettled.requests
  entry call' hafter := by
    obtain ⟨call, hcall, hsame⟩ := hrely.2 call' hafter
    exact (hsettled.entry call hcall).congr hsame

end Steps

section Safety

variable {s : SessionId} {msg : ClientMessage} {c peer_id : String} {server : Server} {task : Async Unit}

theorem CallSafe.of_observes (huses : task.Uses (Handles s none)) : CallSafe s msg c task server := by
  refine Task.Safe.weaken (Task.Safe.of_uses (I := fun _ => True) (fun _ _ _ _ => trivial) ?_ trivial)
    fun _ _ _ => trivial
  refine huses.mono fun action hhandles before answer after _ _ => ⟨?_, trivial⟩
  obtain hobserves | ⟨msg', hmsg, -⟩ := hhandles
  · exact Allowed.of_observes hobserves
  · contradiction

theorem CallSafe.of_settled (hcall : msg.call_id = some c) (huses : task.Uses (Handles s (some msg)))
    (hsettled : Settled s msg c peer_id server) : CallSafe s msg c task server := by
  refine Task.Safe.weaken (Task.Safe.of_uses (I := Settled s msg c peer_id)
    (fun _ _ h hrely => h.rely hrely) ?_ hsettled) fun _ _ _ => trivial
  refine huses.mono fun action hhandles before answer after hbefore hexec => ?_
  exact ⟨hbefore.allows hcall hhandles, hbefore.exec hcall hhandles hexec⟩

end Safety

end voip_signaling.session
