import Voip.Signaling.Snapshot

namespace voip_signaling.session

open state error async

variable {actor : Actor} {α : Type} {post : α → Logged → Prop} {server : Server}
  {sent : List (SessionId × FramedMessage)}

/-- Sending into a channel depends on whether its receiver is there, and leaves it so. -/
theorem Server.channel_send_answer {after : Server} {s : SessionId} {message : FramedMessage} {answer : Bool}
    (hsend : server.channel_send s message = some (answer, after)) :
    answer = (server.channels s).receiver_open ∧ after = { server with channels := after.channels } ∧
      ∀ s', (after.channels s').receiver_open = (server.channels s').receiver_open := by
  unfold Server.channel_send at hsend
  dsimp only at hsend
  split at hsend
  next hclosed =>
    cases hsend
    exact ⟨by simpa using hclosed, rfl, fun _ => rfl⟩
  next hopen =>
    split at hsend
    next =>
      cases hsend
      refine ⟨by simpa using hopen, rfl, fun s' => ?_⟩
      by_cases hs : s' = s
      · subst hs
        simp [Server.set_channel]
      · simp [Server.set_channel, hs]
    next => contradiction

/-- The channel of a session with nothing in it. -/
def Server.drain (server : Server) (s : SessionId) : Server :=
  server.set_channel s { server.channels s with queue := [] }

theorem steady_drain (s : SessionId) : Steady actor ⟨server, sent⟩ ⟨server.drain s, sent⟩ where
  sent := rfl
  peers _ := rfl
  calls := rfl
  rate_limiter := rfl
  proxies := rfl
  sessions := rfl
  receiver_open s' := by
    by_cases hs : s' = s
    · subst hs
      simp [Server.drain, Server.set_channel]
    · simp [Server.drain, Server.set_channel, hs]
  lock _ := Iff.rfl
  now_secs := rfl
  instant := rfl

theorem channel_send_drain (s : SessionId) (message : FramedMessage) :
    ((server.drain s).channel_send s message).isSome = true := by
  simp only [Server.channel_send, Server.drain, Server.set_channel, Function.update_self]
  split <;> simp [SESSION_CHANNEL_CAPACITY]

/-- What a send changes is the log and the queue of its channel. -/
theorem Steady.channel_send {middle after : Server} {s : SessionId} {message : FramedMessage} {answer : Bool}
    (hmiddle : Steady actor ⟨server, sent⟩ ⟨middle, sent⟩)
    (hsend : middle.channel_send s message = some (answer, after)) (log : List (SessionId × FramedMessage)) :
    Steady actor ⟨server, log⟩ ⟨after, log⟩ := by
  obtain ⟨-, hafter, hopen⟩ := Server.channel_send_answer hsend
  rw [hafter] at hopen ⊢
  exact { hmiddle with
    sent := rfl
    receiver_open := fun s' => (hopen s').trans (hmiddle.receiver_open s') }

/-- The log of a send into the channel of a session. -/
def Server.log_send (server : Server) (s : SessionId) (message : FramedMessage) :
    List (SessionId × FramedMessage) :=
  if (server.channels s).receiver_open then [(s, message)] else []

theorem Steady.log_send {middle : Server} (hmiddle : Steady actor ⟨server, sent⟩ ⟨middle, sent⟩)
    (s : SessionId) (message : FramedMessage) : middle.log_send s message = server.log_send s message := by
  have hopen := hmiddle.receiver_open s
  simp only at hopen
  rw [Server.log_send, Server.log_send, hopen]

theorem ensures_send {s : SessionId} {message : FramedMessage} {f : Bool → Async α} :
    Ensures actor (send s message >>= f) post ⟨server, sent⟩ ↔
      Ensures actor (f (server.channels s).receiver_open) post ⟨server, sent ++ server.log_send s message⟩ := by
  apply ensures_perform
  · rintro ⟨middle, log⟩ result after hmiddle hexec
    obtain rfl : log = sent := hmiddle.sent
    obtain ⟨⟨result, server'⟩, hrun, hafter⟩ := Option.map_eq_some_iff.mp hexec
    cases hafter
    refine ⟨(Server.channel_send_answer hrun).1.trans (hmiddle.receiver_open s), ?_⟩
    rw [← hmiddle.log_send]
    exact hmiddle.channel_send hrun _
  · refine ⟨_, steady_drain s, ?_⟩
    simpa [exec_logged, exec] using channel_send_drain s _

theorem ensures_send_error {s : SessionId} {code : Nat} {text : String} {f : Unit → Async α} :
    Ensures actor (send_error s code text >>= f) post ⟨server, sent⟩ ↔
      Ensures actor (f ()) post ⟨server, sent ++ server.log_send s (.error code text)⟩ := by
  rw [send_error, bind_assoc]
  exact ensures_send

/-- What `send_to_peer` comes to on a snapshot. -/
def Server.send_outcome (server : Server) (peer_id : String) (message : FramedMessage) :
    Except SignalingError Unit × List (SessionId × FramedMessage) :=
  match (server.inner.find_sender peer_id).1 with
  | .error e => (.error e, [])
  | .ok s =>
    (if (server.channels s).receiver_open then .ok () else .error (.PeerOffline peer_id),
      server.log_send s message)

theorem find_sender_congr {inner inner' : InnerState} {peer_id : String}
    (hpeer : inner'.peers.peek peer_id = inner.peers.peek peer_id) :
    (inner'.find_sender peer_id).1 = (inner.find_sender peer_id).1 := by
  simp only [InnerState.find_sender, lru.LruCache.get_fst, hpeer]
  split
  · rfl
  · split <;> rfl

/-- A send depends on nothing but the registry of peers and the channels. -/
theorem send_outcome_congr {server' : Server} (hpeers : server'.inner.peers = server.inner.peers)
    (hchannels : server'.channels = server.channels) : server'.send_outcome = server.send_outcome := by
  funext peer_id message
  have hfound := find_sender_congr (congrArg (lru.LruCache.peek · peer_id) hpeers)
  simp only [Server.send_outcome, hfound, Server.log_send, hchannels]

theorem find_sender_inner (inner : InnerState) (peer_id : String) :
    (inner.find_sender peer_id).2 = { inner with peers := (inner.peers.get peer_id).2 } := by
  simp only [InnerState.find_sender]
  split
  · rfl
  · split <;> rfl

theorem ensures_find_sender (hleaves : server.LeavesPeers actor) {peer_id : String}
    {f : Except SignalingError SessionId → Async α} :
    Ensures actor (perform (.find_sender peer_id) >>= f) post ⟨server, sent⟩ ↔
      Ensures actor (f (server.inner.find_sender peer_id).1) post
        ⟨{ server with
            peers_lock := (server.inner.find_sender peer_id).1.toOption.map fun s => (actor, s) }, sent⟩ := by
  apply ensures_perform
  · rintro ⟨middle, log⟩ result after hmiddle hexec
    obtain rfl : log = sent := hmiddle.sent
    obtain ⟨⟨result, server'⟩, hrun, hafter⟩ := Option.map_eq_some_iff.mp hexec
    simp only [exec] at hrun
    split at hrun
    · cases hrun
      cases hafter
      have hfound := find_sender_congr (hmiddle.peers peer_id)
      refine ⟨hfound, ?_⟩
      rw [find_sender_inner]
      exact { hmiddle with
        sent := by simp [Action.sends]
        peers := fun query => by simpa using hmiddle.peers query
        lock := fun s => by simp only at hfound; simp only [hfound] }
    · contradiction
  · refine ⟨_, steady_unlocked hleaves, ?_⟩
    simp [exec_logged, exec]

theorem ensures_send_holding_peers {s : SessionId} (hlock : server.peers_lock = some (actor, s))
    {message : FramedMessage} {f : Bool → Async α} :
    Ensures actor (perform (.send_holding_peers message) >>= f) post ⟨server, sent⟩ ↔
      Ensures actor (f (server.channels s).receiver_open) post
        ⟨{ server with peers_lock := none }, sent ++ server.log_send s message⟩ := by
  apply ensures_perform
  · rintro ⟨middle, log⟩ result after hmiddle hexec
    obtain rfl : log = sent := hmiddle.sent
    have hheld : middle.peers_lock = some (actor, s) := (hmiddle.lock s).mpr hlock
    obtain ⟨⟨result, server'⟩, hrun, hafter⟩ := Option.map_eq_some_iff.mp hexec
    simp only [exec, hheld, if_true, Option.map_eq_some_iff] at hrun
    obtain ⟨⟨result', server''⟩, hsend, hrun⟩ := hrun
    cases hrun
    cases hafter
    refine ⟨(Server.channel_send_answer hsend).1.trans (hmiddle.receiver_open s), ?_⟩
    have hsteady := hmiddle.channel_send hsend (log ++ server.log_send s message)
    rw [← hmiddle.log_send] at hsteady ⊢
    simp only [Action.sends, hheld]
    exact { hsteady with lock := fun _ => by simp }
  · refine ⟨_, steady_drain s, ?_⟩
    have hheld : (server.drain s).peers_lock = some (actor, s) := hlock
    simpa [exec_logged, exec, hheld] using channel_send_drain s message

theorem ensures_send_to_peer (hleaves : server.LeavesPeers actor) {peer_id : String}
    {message : FramedMessage} {f : Except SignalingError Unit → Async α} :
    Ensures actor (send_to_peer peer_id message >>= f) post ⟨server, sent⟩ ↔
      Ensures actor (f (server.send_outcome peer_id message).1) post
        ⟨server, sent ++ (server.send_outcome peer_id message).2⟩ := by
  rw [send_to_peer, bind_assoc, ensures_find_sender hleaves, Server.send_outcome]
  cases hfound : (server.inner.find_sender peer_id).1 with
  | error e =>
    rw [List.append_nil]
    exact (steady_unlocked hleaves).ensures_iff.symm
  | ok s =>
    simp only [bind_assoc, Except.toOption, Option.map_some]
    rw [ensures_send_holding_peers rfl]
    exact (steady_unlocked hleaves).ensures_iff.symm

/-- The peer is registered with a session whose channel still has its receiver. -/
def Server.Reachable (server : Server) (peer_id : String) : Prop :=
  ∃ entry s, server.inner.peers.peek peer_id = some entry ∧ entry.sender = some s ∧
    (server.channels s).receiver_open = true

/-- A message in the log went to the session that a peer is registered with. -/
def Server.SentTo (server : Server) (log : List (SessionId × FramedMessage)) (peer_id : String)
    (message : FramedMessage) : Prop :=
  ∃ entry s, server.inner.peers.peek peer_id = some entry ∧ entry.sender = some s ∧ (s, message) ∈ log

theorem Server.SentTo.mono {log log' : List (SessionId × FramedMessage)} {peer_id : String}
    {message : FramedMessage} (hsent : server.SentTo log peer_id message) (hlog : log ⊆ log') :
    server.SentTo log' peer_id message := by
  obtain ⟨entry, s, hentry, hsender, hmem⟩ := hsent
  exact ⟨entry, s, hentry, hsender, hlog hmem⟩

theorem find_sender_eq_ok {inner : InnerState} {peer_id : String} {s : SessionId} :
    (inner.find_sender peer_id).1 = .ok s ↔
      ∃ entry, inner.peers.peek peer_id = some entry ∧ entry.sender = some s := by
  simp only [InnerState.find_sender, lru.LruCache.get_fst]
  cases inner.peers.peek peer_id with
  | none => simp
  | some entry =>
    cases hsender : entry.sender with
    | none => simp [hsender]
    | some s' => simp [hsender]

theorem send_outcome_of_reachable {peer_id : String} (hreach : server.Reachable peer_id)
    (message : FramedMessage) :
    ∃ s, server.send_outcome peer_id message = (.ok (), [(s, message)]) ∧
      server.SentTo [(s, message)] peer_id message := by
  obtain ⟨entry, s, hentry, hsender, hopen⟩ := hreach
  have hfound : (server.inner.find_sender peer_id).1 = .ok s := find_sender_eq_ok.mpr ⟨entry, hentry, hsender⟩
  refine ⟨s, ?_, entry, s, hentry, hsender, by simp⟩
  simp [Server.send_outcome, hfound, Server.log_send, hopen]

theorem send_outcome_of_unreachable {peer_id : String} (hunreach : ¬ server.Reachable peer_id)
    (message : FramedMessage) : ∃ e, server.send_outcome peer_id message = (.error e, []) := by
  rw [Server.send_outcome]
  cases hfound : (server.inner.find_sender peer_id).1 with
  | error e => exact ⟨e, rfl⟩
  | ok s =>
    obtain ⟨entry, hentry, hsender⟩ := find_sender_eq_ok.mp hfound
    have hclosed : (server.channels s).receiver_open = false :=
      Bool.eq_false_iff.mpr fun hopen => hunreach ⟨entry, s, hentry, hsender, hopen⟩
    exact ⟨.PeerOffline peer_id, by simp [Server.log_send, hclosed]⟩

end voip_signaling.session
