import Voip.Signaling.Discipline

namespace voip_signaling.server

open async state session auth handlers voip_core.proto.signaling

variable {state : AppState} {sys next : System} {event : Event}

/-- A REST handler does not touch sessions. -/
theorem Serves.update_eq {auth : AuthenticatedPeer} {endpoint : Endpoint} {action : session.Action}
    (hserves : Serves auth endpoint action) (actor : Actor) (s : SessionId) (session : Session) :
    action.update actor s session = session := by
  cases action with
  | state op => rfl
  | now_secs => rfl
  | find_sender _ => rfl
  | send _ _ => rfl
  | send_holding_peers _ => rfl
  | read_holder _ => rfl
  | _ => cases endpoint <;> exact hserves.elim

/-- Where the record of a session comes from: the session opened, nothing happened to
it, or a running task acted on it. -/
theorem Move.session (hmove : Move state sys event next) (hsys : Disciplined state sys)
    {s : SessionId} {after : Session} (hafter : next.server.sessions s = some after) :
    (sys.server.sessions s = none ∧ ∃ peer_id, after = Session.new peer_id) ∨
      ∃ before, sys.server.sessions s = some before ∧
        (after = before ∨ ∃ role action resume, event = role.event ∧
          sys.Runs role (.act action resume) ∧ after = action.update role.actor s before) := by
  cases hmove with
  | started hagrees _ => exact .inr ⟨after, by rwa [← hagrees.sessions], .inl rfl⟩
  | @opened s' token peer_id _ hfresh hserver _ =>
    by_cases hs : s = s'
    · subst hs
      refine .inl ⟨hfresh, peer_id, ?_⟩
      simpa [hserver, System.open_session, Server.set_session, Server.set_channel, eq_comm] using hafter
    · refine .inr ⟨after, ?_, .inl rfl⟩
      simpa [hserver, System.open_session, Server.set_session, Server.set_channel, hs] using hafter
  | acted role hlabel hrunning hdone hagrees _ =>
    rw [hagrees.sessions, exec_sessions hdone] at hafter
    obtain ⟨before, hbefore, rfl⟩ := Option.map_eq_some_iff.mp hafter
    exact .inr ⟨before, hbefore, .inr ⟨role, _, _, hlabel, hrunning, rfl⟩⟩
  | served hlabel hrunning htask hdone _ =>
    rw [exec_sessions hdone] at hafter
    obtain ⟨before, hbefore, rfl⟩ := Option.map_eq_some_iff.mp hafter
    have hserves := hsys.serves hrunning
    rw [htask] at hserves
    exact .inr ⟨before, hbefore, .inl (Serves.update_eq hserves.1 _ _ _)⟩

/-- A session that is open stays open as the same peer. -/
theorem Move.peer_id (hmove : Move state sys event next)
    {s : SessionId} {before : Session} (hbefore : sys.server.sessions s = some before) :
    ∃ after, next.server.sessions s = some after ∧ after.peer_id = before.peer_id := by
  cases hmove with
  | started hagrees _ => exact ⟨before, by rwa [hagrees.sessions], rfl⟩
  | @opened s' token peer_id _ hfresh hserver _ =>
    have hs : s ≠ s' := by
      rintro rfl
      simp [hfresh] at hbefore
    refine ⟨before, ?_, rfl⟩
    simpa [hserver, System.open_session, Server.set_session, Server.set_channel, hs] using hbefore
  | acted role hlabel hrunning hdone hagrees _ =>
    exact ⟨_, by rw [hagrees.sessions, exec_sessions hdone, hbefore]; rfl, Action.update_peer_id ..⟩
  | served hlabel hrunning htask hdone _ =>
    exact ⟨_, by rw [exec_sessions hdone, hbefore]; rfl, Action.update_peer_id ..⟩

/-- Only its own upgrade opens a session. -/
theorem Move.unopened (hmove : Move state sys event next) {s : SessionId}
    (hlabel : ∀ token, event ≠ .upgrade s token) (hbefore : sys.server.sessions s = none) :
    next.server.sessions s = none := by
  cases hmove with
  | started hagrees _ => rwa [hagrees.sessions]
  | @opened s' token peer_id hopens _ hserver _ =>
    have hs : s ≠ s' := by
      rintro rfl
      exact hlabel token hopens
    simpa [hserver, System.open_session, Server.set_session, Server.set_channel, hs] using hbefore
  | acted role _ _ hdone hagrees _ => rw [hagrees.sessions, exec_sessions hdone, hbefore, Option.map_none]
  | served _ _ _ hdone _ => rw [exec_sessions hdone, hbefore, Option.map_none]

/-- A message being handled was being handled before the step, or has just arrived. -/
theorem Move.handling (hmove : Move state sys event next) {s : SessionId} {framed : FramedMessage}
    {task : Async Unit} (hruns : next.Runs (.handling s framed) task) :
    (∃ task', sys.Runs (.handling s framed) task') ∨
      ∃ data, event = .message s data ∧ FramedMessage.from_bytes data = some framed ∧
        sys.receive s = .idle := by
  cases hmove with
  | started _ hbefore =>
    obtain hruns | hstart := hbefore hruns
    · exact .inl ⟨task, hruns⟩
    · cases hstart with
      | message hidle hdecoded => exact .inr ⟨_, rfl, hdecoded, hidle⟩
  | opened _ _ _ hbefore => exact .inl ⟨task, hbefore hruns⟩
  | acted role _ hrunning _ _ hbefore =>
    obtain ⟨rfl, rfl⟩ | ⟨hruns, -⟩ := hbefore hruns
    · exact .inl ⟨_, hrunning⟩
    · exact .inl ⟨task, hruns⟩
  | served _ _ _ _ hbefore => exact .inl ⟨task, hbefore hruns⟩

/-- A fact about a message and the peer id of its session that holds when the message
arrives holds as long as the message is being handled. -/
theorem Move.handling_fact (hmove : Move state sys event next) (hsys : Disciplined state sys)
    (Fact : FramedMessage → String → Prop)
    (hbefore : ∀ {s framed task session}, sys.Runs (.handling s framed) task →
      sys.server.sessions s = some session → Fact framed session.peer_id)
    (harrives : ∀ {s data framed session}, event = .message s data →
      FramedMessage.from_bytes data = some framed → sys.server.sessions s = some session →
      Fact framed session.peer_id)
    {s : SessionId} {framed : FramedMessage} {task : Async Unit} {session : Session}
    (hruns : next.Runs (.handling s framed) task) (hsession : next.server.sessions s = some session) :
    Fact framed session.peer_id := by
  have hopen : sys.receive s ≠ .ended := by
    obtain ⟨task', hruns⟩ | ⟨data, -, -, hidle⟩ := hmove.handling hruns
    · simp [show sys.receive s = .handling framed task' from hruns]
    · simp [hidle]
  obtain ⟨before, hopened⟩ := hsys.opened (.inl hopen)
  obtain ⟨after, hafter, hpeer⟩ := hmove.peer_id hopened
  obtain rfl : after = session := by simpa [hafter] using hsession
  rw [hpeer]
  obtain ⟨task', hruns⟩ | ⟨data, hlabel, hdecoded, -⟩ := hmove.handling hruns
  · exact hbefore hruns hopened
  · exact harrives hlabel hdecoded hopened

/-- What can change the entry of a peer. -/
theorem Move.peer_change (hmove : Move state sys event next) {p : String}
    (hchange : next.server.inner.peers.peek p ≠ sys.server.inner.peers.peek p) :
    ∃ op, op.ChangesPeer sys.server.inner p (next.server.inner.peers.peek p) ∧
      ((∃ role resume, event = role.event ∧ sys.Runs role (.act (.state op) resume)) ∨
        ∃ r pending resume, event = .handler r ∧ sys.requests r = some pending ∧
          pending.task = .act (.state op) resume) := by
  cases hmove with
  | started hagrees _ => exact absurd (by rw [hagrees.peers]) hchange
  | opened _ _ hserver _ => exact absurd (by rw [hserver]; rfl) hchange
  | acted role hlabel hrunning hdone hagrees _ =>
    rw [hagrees.peers] at hchange ⊢
    obtain hsame | ⟨op, rfl, hop⟩ := exec_peers hdone p
    · exact absurd hsame hchange
    · exact ⟨op, hop, .inl ⟨role, _, hlabel, hrunning⟩⟩
  | served hlabel hrunning htask hdone _ =>
    obtain hsame | ⟨op, rfl, hop⟩ := exec_peers hdone p
    · exact absurd hsame hchange
    · exact ⟨op, hop, .inr ⟨_, _, _, hlabel, hrunning, htask⟩⟩

/-- What can change the entry of a call. -/
theorem Move.call_change (hmove : Move state sys event next) {c : String}
    (hchange : next.server.inner.calls.peek c ≠ sys.server.inner.calls.peek c) :
    ∃ op, op.ChangesCall sys.server.inner c (next.server.inner.calls.peek c) ∧
      ((∃ role resume answer after, event = role.event ∧ sys.Runs role (.act (.state op) resume) ∧
        exec role.actor (.state op) sys.server = some (answer, after)) ∨
        ∃ r pending resume, event = .handler r ∧ sys.requests r = some pending ∧
          pending.task = .act (.state op) resume) := by
  cases hmove with
  | started hagrees _ => exact absurd (by rw [hagrees.calls]) hchange
  | opened _ _ hserver _ => exact absurd (by rw [hserver]; rfl) hchange
  | acted role hlabel hrunning hdone hagrees _ =>
    rw [hagrees.calls] at hchange ⊢
    obtain hsame | ⟨op, rfl, hop⟩ := exec_calls hdone c
    · exact absurd hsame hchange
    · exact ⟨op, hop, .inl ⟨role, _, _, _, hlabel, hrunning, hdone⟩⟩
  | served hlabel hrunning htask hdone _ =>
    obtain hsame | ⟨op, rfl, hop⟩ := exec_calls hdone c
    · exact absurd hsame hchange
    · exact ⟨op, hop, .inr ⟨_, _, _, hlabel, hrunning, htask⟩⟩

/-- The task that changes a call handles a message that asks for it. -/
theorem Disciplined.call_writer (hsys : Disciplined state sys) {role : Role} {op : Op}
    {resume : op.Answer → Async Unit} (hrunning : sys.Runs role (.act (.state op) resume))
    {inner : InnerState} {c : String} {entry : Option CallEntry} (hop : op.ChangesCall inner c entry) :
    ∃ s framed msg, role = .handling s framed ∧ client_message state framed = some msg ∧
      msg.Writes s op := by
  have hkeeps := (hsys.keeps hrunning).1
  cases role with
  | handling s framed =>
    obtain hreads | ⟨msg, hmsg, ⟨assigned, heq, -⟩ | ⟨written, heq, hwrites⟩⟩ := hkeeps
    · exact absurd hop (reads.not_changes_call hreads)
    · contradiction
    · cases heq
      exact ⟨s, framed, msg, rfl, hmsg, hwrites⟩
  | closing s => exact absurd hop (Cleans.not_changes_call hkeeps)
  | finishing s => exact absurd hop (Cleans.not_changes_call hkeeps)

/-- Another task does not assign the holder of a session that is handling a message. -/
theorem Disciplined.keeps_holder (hsys : Disciplined state sys) {role : Role}
    {action : session.Action} {resume : action.Answer → Async Unit}
    (hrunning : sys.Runs role (.act action resume)) {s : SessionId} (hother : .receive_loop s ≠ role.actor)
    (assigned : Option String) : action ≠ .write_holder s assigned := by
  rintro rfl
  have hkeeps := (hsys.keeps hrunning).1
  cases role with
  | handling s' framed =>
    obtain hobserves | ⟨msg, -, ⟨peer_id, heq, -⟩ | ⟨op, heq, -⟩⟩ := hkeeps
    · exact hobserves
    · cases heq
      exact hother rfl
    · contradiction
  | closing s' => exact hkeeps
  | finishing s' => exact hkeeps

end voip_signaling.server
