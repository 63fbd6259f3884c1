import Voip.Async.Settles
import Voip.Signaling.Discipline
import Voip.Signaling.Subject

namespace voip_signaling.session

open async state voip_core.proto.signaling

/-- Actions that touch no limits and no entry of a peer, and that assign nothing to what the
tasks of a session share. -/
def Incidental : Action → Prop
  | .write_holder .. | .claim_disconnect _ => False
  | .state op => op.incidental = true
  | _ => True

/-- The actions of a task that works in the name of a peer, for one of its sessions if any. -/
def InName (own : Option SessionId) (q : String) : Action → Prop
  | .lock_holder s | .unlock_holder s | .read_holder s | .write_holder s _ | .claim_disconnect s =>
    own = some s
  | .now_secs => True
  | .state op => op.subject = some q
  | _ => False

/-- A session that acts as a given peer or as none. -/
def ActsAs (q : String) : (action : Action) → action.Answer → Prop
  | .lock_holder _, holder | .read_holder _, holder => holder = none ∨ holder = some q
  | _, _ => True

/-- The peers that a message asks the server to limit or to register are the given one. -/
def ClientMessage.names (q : String) : ClientMessage → Bool
  | .PeerRegister msg => msg.peer_id = q
  | .PeerUnregister msg => msg.peer_id = q
  | .CallRequest msg => msg.caller_id = q
  | _ => true

section Messages

variable {state : AppState} {s : SessionId} {payload : wire.Bytes} {q : String}

theorem send_error_incidental (code : Nat) (text : String) : (send_error s code text).Uses Incidental :=
  Task.Uses.perform_bind trivial fun _ => trivial

theorem send_to_peer_incidental (peer_id : String) (framed : FramedMessage) :
    (send_to_peer peer_id framed).Uses Incidental := by
  refine Task.Uses.perform_bind trivial fun found => ?_
  cases found with
  | error e => trivial
  | ok sender => exact Task.Uses.perform_bind trivial fun _ => trivial

private theorem ws_handle_peer_register_in_name
    (hnames : ∀ msg, state.prost.peer_register payload = some msg → msg.peer_id = q) :
    (ws_handle_peer_register state s payload).Settles (ActsAs q) (InName (some s) q) Incidental := by
  unfold ws_handle_peer_register
  cases hdecoded : state.prost.peer_register payload with
  | none => exact .of_uses (send_error_incidental _ _)
  | some msg =>
    obtain rfl := hnames msg hdecoded
    refine .perform_bind rfl fun allowed _ => ?_
    cases allowed with
    | false => exact .of_uses (send_error_incidental _ _)
    | true =>
      refine .perform_bind trivial fun now _ => ?_
      refine .perform_bind rfl fun _ _ => ?_
      refine .perform_bind rfl fun registered _ => ?_
      cases registered with
      | ok _ => trivial
      | error e => exact .of_uses (send_error_incidental _ _)

private theorem ws_handle_peer_unregister_in_name
    (hnames : ∀ msg, state.prost.peer_unregister payload = some msg → msg.peer_id = q) :
    (ws_handle_peer_unregister state s payload).Settles (ActsAs q) (InName (some s) q) Incidental := by
  unfold ws_handle_peer_unregister
  cases hdecoded : state.prost.peer_unregister payload with
  | none => trivial
  | some msg =>
    obtain rfl := hnames msg hdecoded
    refine .perform_bind rfl fun _ _ => ?_
    exact .inr ⟨rfl, fun _ _ => trivial⟩

/-- Once a call request has passed the limit of its caller, nothing else is limited. -/
private theorem ws_handle_call_request_in_name
    (hnames : ∀ msg, state.prost.call_request payload = some msg → msg.caller_id = q) :
    (ws_handle_call_request state s payload).Settles (ActsAs q) (InName (some s) q) Incidental := by
  unfold ws_handle_call_request
  cases hdecoded : state.prost.call_request payload with
  | none => exact .of_uses (send_error_incidental _ _)
  | some msg =>
    obtain rfl := hnames msg hdecoded
    refine .perform_bind rfl fun allowed _ => .of_uses ?_
    cases allowed with
    | false => exact send_error_incidental _ _
    | true =>
      refine Task.Uses.perform_bind trivial fun session_peer => ?_
      split
      · exact (send_error_incidental _ _).bind fun _ => Task.uses_perform.mpr trivial
      · refine Task.Uses.perform_bind trivial fun _ => ?_
        refine Task.Uses.perform_bind trivial fun now => ?_
        refine Task.Uses.perform_bind rfl fun created => ?_
        cases created with
        | error e => exact send_error_incidental _ _
        | ok _ =>
          refine (send_to_peer_incidental _ _).bind fun sent => ?_
          cases sent with
          | ok _ => trivial
          | error e => exact (send_error_incidental _ _).bind fun _ => Task.uses_perform.mpr rfl

/-- The handlers of all other messages touch calls only. -/
private theorem Acts.incidental {M : FramedMessage → Prop} {message : Option ClientMessage}
    (hmessage : ∀ msg, message = some msg → (∀ peer_id, ¬ msg.Assigns peer_id) ∧ ∀ kind p, ¬ msg.Limits kind p)
    (action : Action) (hacts : Acts M s message action) : Incidental action := by
  obtain ⟨hhandles, -, hchecks⟩ := hacts
  cases action with
  | write_holder s' peer_id =>
    obtain hobserves | ⟨msg, hmsg, ⟨assigned, heq, hassigns⟩ | ⟨op, heq, -⟩⟩ := hhandles
    · exact hobserves
    · exact (hmessage msg hmsg).1 _ hassigns
    · contradiction
  | claim_disconnect s' =>
    obtain hobserves | ⟨msg, -, ⟨assigned, heq, -⟩ | ⟨op, heq, -⟩⟩ := hhandles
    · exact hobserves
    · contradiction
    · contradiction
  | state op =>
    cases op with
    | check kind p =>
      obtain ⟨msg, hmsg, hlimits⟩ := hchecks
      exact absurd hlimits ((hmessage msg hmsg).2 kind p)
    | register_peer info sender | unregister_peer peer_id | disconnect_peer peer_id =>
      obtain hobserves | ⟨msg, hmsg, ⟨assigned, heq, -⟩ | ⟨op, heq, hwrites⟩⟩ := hhandles
      · exact hobserves.elim
      · contradiction
      · cases heq
        cases msg with
        | PeerRegister msg => exact absurd rfl ((hmessage _ hmsg).1 _)
        | PeerUnregister msg => exact absurd rfl ((hmessage _ hmsg).1 _)
        | _ => exact hwrites.elim
    | _ => rfl
  | _ => trivial

private theorem dispatch_ws_message_in_name {framed : FramedMessage}
    (hnames : ∀ msg, client_message state framed = some msg → msg.names q = true) :
    (dispatch_ws_message state s framed).Settles (ActsAs q) (InName (some s) q) Incidental := by
  have hother (hmessage : ∀ msg, client_message state framed = some msg →
      (∀ peer_id, ¬ msg.Assigns peer_id) ∧ ∀ kind p, ¬ msg.Limits kind p) :
      (dispatch_ws_message state s framed).Settles (ActsAs q) (InName (some s) q) Incidental :=
    .of_uses ((dispatch_ws_message_acts (M := fun _ => True) (fun _ _ => trivial) s
      fun _ _ _ _ _ => trivial).mono (Acts.incidental hmessage))
  cases hmsg : client_message state framed with
  | none => exact hother fun msg h => by simp [hmsg] at h
  | some msg =>
    have hnamed := hnames msg hmsg
    have hdispatched := dispatch_ws_message_dispatched s hmsg
    generalize dispatch_ws_message state s framed = task at hdispatched hother ⊢
    cases hdispatched with
    | PeerRegister hdecoded =>
      exact ws_handle_peer_register_in_name fun msg' h => by
        rw [hdecoded] at h
        cases h
        exact of_decide_eq_true hnamed
    | PeerUnregister hdecoded =>
      exact ws_handle_peer_unregister_in_name fun msg' h => by
        rw [hdecoded] at h
        cases h
        exact of_decide_eq_true hnamed
    | CallRequest hdecoded =>
      exact ws_handle_call_request_in_name fun msg' h => by
        rw [hdecoded] at h
        cases h
        exact of_decide_eq_true hnamed
    | _ =>
      refine hother fun msg' h => ?_
      rw [hmsg] at h
      cases h
      exact ⟨fun _ h => h, fun _ _ h => h⟩

/-- A session that acts as its own peer handles a message about that peer in the peer's name,
until nothing but its calls and its answers are left to settle. -/
theorem receive_message_in_name {framed : FramedMessage}
    (hnames : ∀ msg, client_message state framed = some msg → msg.names q = true) :
    (receive_message state s framed).Settles (ActsAs q) (InName (some s) q) Incidental := by
  unfold receive_message
  refine .perform_bind rfl fun holder hholder => ?_
  obtain rfl | rfl := hholder
  · exact dispatch_ws_message_in_name hnames
  · refine .perform_bind rfl fun allowed _ => ?_
    cases allowed with
    | false => exact .of_uses (send_error_incidental _ _)
    | true => exact dispatch_ws_message_in_name hnames

theorem cleanup_in_name : (cleanup s).Settles (ActsAs q) (InName (some s) q) Incidental := by
  unfold cleanup
  refine .perform_bind rfl fun won _ => ?_
  cases won with
  | false => trivial
  | true =>
    refine .perform_bind rfl fun holder hholder => ?_
    obtain rfl | rfl := hholder
    · exact .inr ⟨rfl, fun _ _ => trivial⟩
    · exact .perform_bind rfl fun _ _ => .inr ⟨rfl, fun _ _ => trivial⟩

end Messages

end voip_signaling.session

namespace voip_signaling.handlers

open async state session auth

/-- The peer in whose name a handler changes limits or the registry. -/
def Endpoint.key : Endpoint → Option String
  | .register_peer body => some body.peer_id
  | .update_peer peer_id _ | .unregister_peer peer_id => some peer_id
  | _ => none

/-- A handler works in the name of its endpoint's peer, and touches nothing of other peers. -/
theorem handle_in_name (state : AppState) (auth : AuthenticatedPeer) (endpoint : Endpoint) :
    match endpoint.key with
    | none => (handle state auth endpoint).Uses Incidental
    | some key => (handle state auth endpoint).Uses (InName none key) := by
  cases endpoint with
  | register_peer body =>
    change (register_peer state body).Uses _
    unfold register_peer
    split
    · trivial
    · refine Task.Uses.perform_bind rfl fun allowed => ?_
      cases allowed with
      | false => trivial
      | true =>
        refine Task.Uses.perform_bind trivial fun now => ?_
        refine Task.Uses.perform_bind rfl fun registered => ?_
        cases registered with
        | error e => trivial
        | ok _ =>
          refine Task.Uses.perform_bind trivial fun now => ?_
          dsimp only
          split <;> trivial
  | update_peer peer_id body =>
    change (update_peer auth peer_id body).Uses _
    unfold update_peer
    split
    · trivial
    · refine Task.Uses.perform_bind rfl fun existing => ?_
      cases existing with
      | none => trivial
      | some existing =>
        refine Task.Uses.perform_bind trivial fun now => ?_
        refine Task.Uses.perform_bind rfl fun registered => ?_
        cases registered <;> trivial
  | unregister_peer peer_id =>
    change (unregister_peer auth peer_id).Uses _
    unfold unregister_peer
    split
    · trivial
    · refine Task.Uses.perform_bind rfl fun removed => ?_
      cases removed <;> trivial
  | get_peer _ | get_peer_status _ | lookup_peer _ =>
    refine Task.Uses.perform_bind rfl fun found => ?_
    cases found <;> trivial
  | get_proxies | dht_bootstrap => exact Task.Uses.perform_bind rfl fun _ => trivial
  | issue_proxy_token peer_id target_peer_id =>
    refine Task.Uses.perform_bind rfl fun caller => ?_
    cases caller with
    | none => trivial
    | some _ =>
      refine Task.Uses.perform_bind rfl fun target => ?_
      cases target with
      | none => trivial
      | some _ => exact Task.Uses.perform_bind trivial fun now => trivial

end voip_signaling.handlers
