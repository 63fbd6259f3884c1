import Voip.Signaling.Deadlock
import Voip.Signaling.Filling

namespace voip_signaling.server

open async state session wire

variable {state : AppState} {sys : System} {s : SessionId}

theorem step_forward_task {action : session.Action} {resume : action.Answer → Async Unit}
    {answer : action.Answer} {server : Server}
    (hrunning : sys.forward s = .finishing (.act action resume))
    (hdone : session.exec (.forward_task s) action sys.server = some (answer, server)) :
    step state sys (.forward_task s) = some ({ sys with server }.finish s (resume answer)) := by
  simp only [step, hrunning, hdone, Option.map_some]

/-- A receive loop is about to look up a peer, whose session writes a message to its client. -/
structure Poised (s s' : SessionId) (p : String) (sys : System) : Prop where
  looks_up : sys.looks_up (.receive_loop s) = some p
  unlocked : sys.server.peers_lock = none
  leads : (sys.server.inner.peers.peek p).bind PeerEntry.sender = some s'
  idle : sys.receive s' matches .idle
  writing : sys.forward s' matches .writing _
  session : sys.server.sessions s' = some (Session.new p)
  receiver_open : (sys.server.channels s').receiver_open = true

variable {s' : SessionId} {p : String}

instance : Decidable (Poised s s' p sys) :=
  decidable_of_iff (sys.looks_up (.receive_loop s) = some p ∧ sys.server.peers_lock = none ∧
    (sys.server.inner.peers.peek p).bind PeerEntry.sender = some s' ∧ (sys.receive s' matches .idle) ∧
    (sys.forward s' matches .writing _) ∧ sys.server.sessions s' = some (Session.new p) ∧
    (sys.server.channels s').receiver_open = true)
    ⟨fun ⟨h1, h2, h3, h4, h5, h6, h7⟩ => ⟨h1, h2, h3, h4, h5, h6, h7⟩,
      fun ⟨h1, h2, h3, h4, h5, h6, h7⟩ => ⟨h1, h2, h3, h4, h5, h6, h7⟩⟩

/-- The lookup takes the peers lock, and leaves it to the send. -/
private theorem Poised.find_sender (state : AppState) (hsys : Poised s s' p sys) :
    ∃ next, step state sys (.receive_loop s) = some next ∧
      next.server.peers_lock = some (.receive_loop s, s') ∧ next.forward = sys.forward ∧
      next.server.sessions = sys.server.sessions ∧ next.server.channels = sys.server.channels := by
  obtain ⟨entry, hentry, hsender⟩ := Option.bind_eq_some_iff.mp hsys.leads
  have hfind : session.exec (.receive_loop s) (.find_sender p) sys.server =
      some (.ok s', { sys.server with
        inner := (sys.server.inner.find_sender p).2, peers_lock := some (.receive_loop s, s') }) := by
    simp [session.exec, hsys.unlocked, InnerState.find_sender, hentry, hsender, Except.toOption]
  have hlooks := hsys.looks_up
  simp only [System.looks_up] at hlooks
  split at hlooks
  next framed q resume hrunning =>
    cases hlooks
    exact ⟨_, step_receive_loop hrunning hfind, rfl, rfl, rfl, rfl⟩
  next => contradiction

/-- Once the forward task knows whom to disconnect, it waits for the peers lock. -/
private theorem lock_deadlocks (state : AppState) (sys : System) {holder : Actor}
    (hlock : sys.server.peers_lock = some (holder, s'))
    (hfull : (sys.server.channels s').Full) {conn : Session}
    (hforward : sys.forward s' = .finishing (do
      let peer_id ← lock_holder s'
      disconnect_holder peer_id
      unlock_holder s'))
    (hsession : sys.server.sessions s' = some conn) (hfree : conn.holder_lock = none)
    (hholder : conn.peer_id_holder = some p) :
    ∃ next, step state sys (.forward_task s') = some next ∧ next.Deadlocked := by
  have hread : session.exec (.forward_task s') (.lock_holder s') sys.server = some (conn.peer_id_holder,
      sys.server.set_session s' { conn with holder_lock := some (.forward_task s') }) := by
    simp [session.exec, Server.with_holder, hsession, hfree]
  rw [hholder] at hread
  exact ⟨_, step_forward_task hforward hread, holder, s', .state (.disconnect_peer p), _, hlock, hfull,
    Function.update_self .., rfl⟩

/-- A forward task that cleans up claims the flag first. -/
private theorem cleanup_deadlocks (state : AppState) (sys : System) {holder : Actor}
    (hlock : sys.server.peers_lock = some (holder, s'))
    (hfull : (sys.server.channels s').Full) (hforward : sys.forward s' = .finishing (cleanup s'))
    (hsession : sys.server.sessions s' = some (Session.new p)) :
    ∃ middle next, step state sys (.forward_task s') = some middle ∧
      step state middle (.forward_task s') = some next ∧ next.Deadlocked := by
  have hclaim : session.exec (.forward_task s') (.claim_disconnect s') sys.server =
      some (true, sys.server.set_session s' { Session.new p with disconnected := true }) := by
    simp [session.exec, hsession, Session.new]
  obtain ⟨next, hnext⟩ := lock_deadlocks state (System.set_forward
    { sys with server := sys.server.set_session s' { Session.new p with disconnected := true } } s' _)
    hlock hfull (Function.update_self ..) (Function.update_self ..) rfl rfl
  exact ⟨_, next, step_forward_task hforward hclaim, hnext⟩

/-- The peer is found while its channel is full, and the write to its client fails. -/
theorem Poised.deadlocks (state : AppState) (hsys : Poised s s' p sys) (hfull : (sys.server.channels s').Full) :
    ∃ middle next, async.exec (step state) sys [.receive_loop s, .write_fails s', .forward_task s'] =
      some middle ∧ step state middle (.forward_task s') = some next ∧ next.Deadlocked := by
  obtain ⟨found, hfind, hlock, hforward, hsessions, hchannels⟩ := hsys.find_sender state
  obtain ⟨message, hwriting⟩ : ∃ message, found.forward s' = .writing message := by
    have hwriting := hsys.writing
    rw [hforward]
    split at hwriting
    next message hrunning => exact ⟨message, hrunning⟩
    next => contradiction
  have hfails : step state found (.write_fails s') =
      some (found.set_forward s' (.finishing (cleanup s'))) := by
    simp only [step, hwriting]
  obtain ⟨middle, next, hclaims, hstep, hnext⟩ := cleanup_deadlocks state
    (found.set_forward s' (.finishing (cleanup s'))) hlock (hchannels ▸ hfull)
    (Function.update_self ..) (hsessions ▸ hsys.session)
  refine ⟨middle, next, ?_, hstep, hnext⟩
  rw [exec_cons_of_step hfind, exec_cons_of_step hfails, exec_cons_of_step hclaims]
  rfl

/-- The session fills its own channel while nothing is taken out of it. -/
theorem Poised.fills (state : AppState) (hsys : Poised s s' p sys)
    (hempty : (sys.server.channels s').queue = []) :
    ∃ next, async.exec (step state) sys (List.replicate SESSION_CHANNEL_CAPACITY
      (exchange s' unknown_message.type_id unknown_message.payload 3)).flatten = some next ∧
      Poised s s' p next ∧ (next.server.channels s').Full := by
  have hidle : sys.receive s' = .idle := by
    have hidle := hsys.idle
    split at hidle
    next hrunning => exact hrunning
    next => contradiction
  obtain ⟨next, hexec, hfills⟩ := fill SESSION_CHANNEL_CAPACITY hidle hsys.session hsys.receiver_open
    (by simp [hempty])
  refine ⟨next, hexec, ?_, hfills.receiver_open.trans hsys.receiver_open, ?_⟩
  · have hreceive : next.receive = sys.receive := by
      rw [hfills.receive, ← hidle, Function.update_eq_self]
    constructor
    · simpa [System.looks_up, hreceive] using hsys.looks_up
    · exact hfills.peers_lock.trans hsys.unlocked
    · exact hfills.peers ▸ hsys.leads
    · exact hreceive ▸ hsys.idle
    · exact hfills.forward ▸ hsys.writing
    · exact hfills.sessions ▸ hsys.session
    · exact hfills.receiver_open.trans hsys.receiver_open
  · rw [hfills.length, hempty, List.length_nil, Nat.zero_add]

/-- Alice and bob register, and alice calls bob while an error is being written
to bob's client. -/
def alice_calls_bob : List Event :=
  exchange 1 type_id.PEER_REGISTER (proto.string 1 "alice") 6 ++
    exchange 2 type_id.PEER_REGISTER (proto.string 1 "bob") 6 ++
    exchange 2 unknown_message.type_id unknown_message.payload 3 ++ [.take 2] ++
    exchange 1 type_id.CALL_REQUEST_CS
      (proto.string 1 "call" ++ proto.string 2 "alice" ++ proto.string 3 "bob") 7

private theorem poised_alice_calls_bob :
    (async.exec (step .reference) .alice_and_bob alice_calls_bob).any fun sys =>
      Poised 1 2 "bob" sys ∧ (sys.server.channels 2).queue = [] := by
  decide +kernel

/-- The server deadlocks: bob's channel fills up, alice's request finds it full and waits
there with the peers lock, and the write to bob's client fails. -/
theorem not_deadlock_free_of_failed_write :
    ¬ Along (step .reference) (fun _ _ next => ¬ next.Deadlocked) (System.init .default .reference)
      ((alice_and_bob_connect ++ (alice_calls_bob ++ ((List.replicate SESSION_CHANNEL_CAPACITY
        (exchange 2 unknown_message.type_id unknown_message.payload 3)).flatten ++
        [.receive_loop 1, .write_fails 2, .forward_task 2]))) ++ [.forward_task 2]) := by
  intro hrun
  obtain ⟨sys, hsys, hpoised⟩ := (Option.any_eq_true _ _).mp poised_alice_calls_bob
  obtain ⟨hpoised, hempty⟩ := of_decide_eq_true hpoised
  obtain ⟨full, hfill, hpoised, hfull⟩ := hpoised.fills .reference hempty
  obtain ⟨middle, next, hexec, hstep, hdeadlocked⟩ := hpoised.deadlocks .reference hfull
  refine hrun.at_prefix ?_ hstep hdeadlocked
  rw [show System.init .default .reference = System.reference from rfl, exec_alice_and_bob_connect,
    exec_append, hsys, Option.bind_some, exec_append, hfill]
  exact hexec

end voip_signaling.server
