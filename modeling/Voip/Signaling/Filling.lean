import Voip.Signaling.Reference

namespace voip_signaling.server

open async state session wire

variable {state : AppState} {sys : System} {s : SessionId}

theorem step_message {data : Bytes} {framed : FramedMessage} (hidle : sys.receive s = .idle)
    (hdecoded : FramedMessage.from_bytes data = some framed) :
    step state sys (.message s data) =
      some (sys.set_receive s (.handling framed (receive_message state s framed))) := by
  simp only [step, hidle, hdecoded]

theorem step_receive_loop {framed : FramedMessage} {action : session.Action}
    {resume : action.Answer → Async Unit} {answer : action.Answer} {server : Server}
    (hrunning : sys.receive s = .handling framed (.act action resume))
    (hdone : session.exec (.receive_loop s) action sys.server = some (answer, server)) :
    step state sys (.receive_loop s) =
      some ({ sys with server }.set_receive s (.handled framed (resume answer))) := by
  simp only [step, hrunning, hdone, Option.map_some]

/-- A message of a type that no handler takes. -/
def unknown_message : FramedMessage := ⟨0x7777, []⟩

/-- What a session's messages of unknown type change: each leaves one more error in the
session's own channel. -/
structure Fills (s : SessionId) (n : Nat) (running : Receive) (sys next : System) : Prop where
  peers : next.server.inner.peers = sys.server.inner.peers
  peers_lock : next.server.peers_lock = sys.server.peers_lock
  sessions : next.server.sessions = sys.server.sessions
  receive : next.receive = Function.update sys.receive s running
  forward : next.forward = sys.forward
  receiver_open : (next.server.channels s).receiver_open = (sys.server.channels s).receiver_open
  length : (next.server.channels s).queue.length = (sys.server.channels s).queue.length + n

theorem Fills.running {n : Nat} {running : Receive} {next : System}
    (hfills : Fills s n running sys next) : next.receive s = running := by
  rw [hfills.receive, Function.update_self]

theorem Fills.trans {n m : Nat} {running running' : Receive} {middle next : System}
    (hfirst : Fills s n running sys middle) (hsecond : Fills s m running' middle next) :
    Fills s (n + m) running' sys next where
  peers := hsecond.peers.trans hfirst.peers
  peers_lock := hsecond.peers_lock.trans hfirst.peers_lock
  sessions := hsecond.sessions.trans hfirst.sessions
  receive := by rw [hsecond.receive, hfirst.receive, Function.update_idem]
  forward := hsecond.forward.trans hfirst.forward
  receiver_open := hsecond.receiver_open.trans hfirst.receiver_open
  length := by rw [hsecond.length, hfirst.length, Nat.add_assoc]

/-- What the receive loop does with a message of unknown type after it has read its
holder. -/
private def answer_unknown (state : AppState) (s : SessionId) (peer_id : String) : Async Unit := do
  if ← check_ws_message peer_id then dispatch_ws_message state s unknown_message
  else send_error s error.codes.RATE_LIMITED "WebSocket message rate limit exceeded"

private theorem fill_message (hidle : sys.receive s = .idle) :
    ∃ next, step state sys (.message s unknown_message.to_bytes) = some next ∧
      Fills s 0 (.handling unknown_message (receive_message state s unknown_message)) sys next :=
  ⟨_, step_message hidle rfl, rfl, rfl, rfl, rfl, rfl, rfl, rfl⟩

private theorem fill_read {conn : Session} {peer_id : String}
    (hrunning : sys.receive s = .handling unknown_message (receive_message state s unknown_message))
    (hsession : sys.server.sessions s = some conn) (hfree : conn.holder_lock = none)
    (hholder : conn.peer_id_holder = some peer_id) :
    ∃ next, step state sys (.receive_loop s) = some next ∧
      Fills s 0 (.handling unknown_message (answer_unknown state s peer_id)) sys next := by
  have hread : session.exec (.receive_loop s) (.read_holder s) sys.server =
      some (conn.peer_id_holder, sys.server.set_session s conn) := by
    simp [session.exec, Server.with_holder, hsession, hfree]
  have hkept : sys.server.set_session s conn = sys.server := by
    simp [Server.set_session, ← hsession]
  rw [hholder, hkept] at hread
  exact ⟨_, step_receive_loop hrunning hread, rfl, rfl, rfl, rfl, rfl, rfl, rfl⟩

/-- A message of unknown type is answered with an error, limited or not. -/
private theorem answers_error (state : AppState) (s : SessionId) (allowed : Bool) :
    ∃ code text, (if allowed then dispatch_ws_message state s unknown_message
      else send_error s error.codes.RATE_LIMITED "WebSocket message rate limit exceeded") =
        send_error s code text := by
  cases allowed with
  | true => exact ⟨_, _, rfl⟩
  | false => exact ⟨_, _, rfl⟩

private theorem fill_check {framed : FramedMessage} {peer_id : String}
    (hrunning : sys.receive s = .handling framed (answer_unknown state s peer_id)) :
    ∃ next code text, step state sys (.receive_loop s) = some next ∧
      Fills s 0 (.handling framed (send_error s code text)) sys next := by
  have hcheck : session.exec (.receive_loop s) (.state (.check .WsMessage peer_id)) sys.server = some _ :=
    exec_state_eq_some.mpr ⟨fun hlocks => by contradiction, rfl, rfl⟩
  obtain ⟨code, text, hanswers⟩ := answers_error state s
    (Op.run sys.server.instant sys.server.inner (.check .WsMessage peer_id)).1
  have hstep : step state sys (.receive_loop s) = some (System.set_receive _ s (.handled framed
    (if _ then dispatch_ws_message state s unknown_message else _))) := step_receive_loop hrunning hcheck
  rw [hanswers] at hstep
  exact ⟨_, code, text, hstep, rfl, rfl, rfl, rfl, rfl, rfl, rfl⟩

private theorem fill_send {framed : FramedMessage} {code : Nat} {text : String}
    (hrunning : sys.receive s = .handling framed (send_error s code text))
    (hopen : (sys.server.channels s).receiver_open = true)
    (hroom : (sys.server.channels s).queue.length < SESSION_CHANNEL_CAPACITY) :
    ∃ next, step state sys (.receive_loop s) = some next ∧ Fills s 1 .idle sys next := by
  have hsend : session.exec (.receive_loop s) (.send s (FramedMessage.error code text)) sys.server =
      some (true, sys.server.set_channel s
        ⟨(sys.server.channels s).queue ++ [FramedMessage.error code text], true⟩) := by
    simp [session.exec, Server.channel_send, hopen, hroom]
  refine ⟨_, step_receive_loop hrunning hsend, rfl, rfl, rfl, rfl, rfl, ?_, ?_⟩
  · simp [System.set_receive, Server.set_channel, hopen]
  · simp [System.set_receive, Server.set_channel]

/-- Three actions of the receive loop answer a message of unknown type. -/
theorem fill_once (hidle : sys.receive s = .idle) {conn : Session} {peer_id : String}
    (hsession : sys.server.sessions s = some conn) (hfree : conn.holder_lock = none)
    (hholder : conn.peer_id_holder = some peer_id)
    (hopen : (sys.server.channels s).receiver_open = true)
    (hroom : (sys.server.channels s).queue.length < SESSION_CHANNEL_CAPACITY) :
    ∃ next, async.exec (step state) sys
      (exchange s unknown_message.type_id unknown_message.payload 3) = some next ∧
      Fills s 1 .idle sys next := by
  obtain ⟨arrived, harrives, hfills⟩ := fill_message hidle
  obtain ⟨read, hreads, hread⟩ := fill_read hfills.running
    (hfills.sessions ▸ hsession) hfree hholder
  replace hfills := hfills.trans hread
  obtain ⟨checked, code, text, hchecks, hchecked⟩ := fill_check hfills.running
  replace hfills := hfills.trans hchecked
  have hlength := hfills.length
  obtain ⟨next, hsends, hsent⟩ := fill_send hfills.running
    (hfills.receiver_open.trans hopen) (by omega)
  refine ⟨next, ?_, hfills.trans hsent⟩
  rw [exchange, exec_cons_of_step harrives, List.replicate_succ, exec_cons_of_step hreads,
    List.replicate_succ, exec_cons_of_step hchecks, List.replicate_succ, exec_cons_of_step hsends]
  rfl

/-- Messages of unknown type fill the channel as long as its forward task takes nothing out. -/
theorem fill (n : Nat) (hidle : sys.receive s = .idle) {peer_id : String}
    (hsession : sys.server.sessions s = some (Session.new peer_id))
    (hopen : (sys.server.channels s).receiver_open = true)
    (hroom : (sys.server.channels s).queue.length + n ≤ SESSION_CHANNEL_CAPACITY) :
    ∃ next, async.exec (step state) sys (List.replicate n
      (exchange s unknown_message.type_id unknown_message.payload 3)).flatten = some next ∧
      Fills s n .idle sys next := by
  induction n generalizing sys with
  | zero =>
    refine ⟨sys, rfl, rfl, rfl, rfl, ?_, rfl, rfl, rfl⟩
    rw [← hidle, Function.update_eq_self]
  | succ n ih =>
    obtain ⟨middle, hfirst, hfills⟩ := fill_once hidle hsession rfl rfl hopen (by omega)
    have hlength := hfills.length
    obtain ⟨next, hrest, hmore⟩ := ih hfills.running (hfills.sessions ▸ hsession)
      (hfills.receiver_open.trans hopen) (by omega)
    refine ⟨next, ?_, ?_⟩
    · rw [List.replicate_succ, List.flatten_cons, exec_append, hfirst]
      exact hrest
    · rw [Nat.add_comm]
      exact hfills.trans hmore

end voip_signaling.server
