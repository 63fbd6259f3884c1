import Voip.Signaling.Steady

namespace voip_signaling.session

open state error async

variable {actor : Actor} {α : Type} {post : α → Logged → Prop} {server : Server}
  {sent : List (SessionId × FramedMessage)} {s : SessionId}

theorem ensures_now_secs {f : Nat → Async α} :
    Ensures actor (now_secs >>= f) post ⟨server, sent⟩ ↔ Ensures actor (f server.now_secs) post ⟨server, sent⟩ := by
  apply ensures_perform
  · rintro ⟨middle, log⟩ result after hmiddle hexec
    obtain rfl : log = sent := hmiddle.sent
    cases hexec
    exact ⟨hmiddle.now_secs, by simpa [Action.sends] using hmiddle⟩
  · exact ⟨_, Steady.equivalence.refl _, rfl⟩

theorem ensures_get_proxies (hleaves : server.LeavesPeers actor) {f : List ProxyInfo → Async α} :
    Ensures actor (get_proxies >>= f) post ⟨server, sent⟩ ↔
      Ensures actor (f server.inner.proxies) post ⟨server, sent⟩ :=
  ensures_state hleaves fun _ hmiddle => ⟨hmiddle.proxies, hmiddle⟩

theorem ensures_get_peer (hleaves : server.LeavesPeers actor) {peer_id : String}
    {f : Option PeerInfo → Async α} :
    Ensures actor (get_peer peer_id >>= f) post ⟨server, sent⟩ ↔
      Ensures actor (f ((server.inner.peers.peek peer_id).map PeerEntry.info)) post ⟨server, sent⟩ :=
  ensures_state hleaves fun middle hmiddle => by
    refine ⟨congrArg (Option.map PeerEntry.info) (hmiddle.peers peer_id), ?_⟩
    exact { hmiddle with peers := fun query => by simpa [Op.run, InnerState.get_peer] using hmiddle.peers query }

/-- A critical section on the registry of calls. -/
theorem ensures_calls (op : Op) (on_calls : lru.LruCache String CallEntry → op.Answer × lru.LruCache String CallEntry)
    (hrun : ∀ now inner, op.run now inner =
      ((on_calls inner.calls).1, { inner with calls := (on_calls inner.calls).2 }))
    (hleaves : server.LeavesPeers actor) {f : op.Answer → Async α} :
    Ensures actor (perform (.state op) >>= f) post ⟨server, sent⟩ ↔
      Ensures actor (f (on_calls server.inner.calls).1) post
        ⟨{ server with inner := { server.inner with calls := (on_calls server.inner.calls).2 } }, sent⟩ :=
  ensures_state hleaves fun middle hmiddle => by
    have hcalls : middle.inner.calls = server.inner.calls := hmiddle.calls
    rw [hrun, hcalls]
    exact ⟨rfl, { hmiddle with calls := rfl }⟩

theorem ensures_get_call (hleaves : server.LeavesPeers actor) {call_id : String}
    {f : Option CallEntry → Async α} :
    Ensures actor (get_call call_id >>= f) post ⟨server, sent⟩ ↔
      Ensures actor (f (server.inner.calls.peek call_id)) post
        ⟨{ server with inner := { server.inner with calls := (server.inner.calls.get call_id).2 } }, sent⟩ :=
  ensures_calls (.get_call call_id) (fun calls => calls.get call_id) (fun _ _ => rfl) hleaves

theorem ensures_remove_call (hleaves : server.LeavesPeers actor) {call_id : String} {f : Unit → Async α} :
    Ensures actor (remove_call call_id >>= f) post ⟨server, sent⟩ ↔
      Ensures actor (f ()) post
        ⟨{ server with inner := { server.inner with calls := (server.inner.calls.pop call_id).2 } }, sent⟩ :=
  ensures_calls (.remove_call call_id) (fun calls => ((), (calls.pop call_id).2)) (fun _ _ => rfl) hleaves

theorem ensures_check_call (hleaves : server.LeavesPeers actor) {peer_id : String} {f : Bool → Async α} :
    Ensures actor (check_call peer_id >>= f) post ⟨server, sent⟩ ↔
      Ensures actor (f (server.inner.rate_limiter.check_call peer_id server.instant server.instant).1) post
        ⟨{ server with inner := { server.inner with
            rate_limiter :=
              (server.inner.rate_limiter.check_call peer_id server.instant server.instant).2 } }, sent⟩ :=
  ensures_state hleaves fun middle hmiddle => by
    have hlimiter : middle.inner.rate_limiter = server.inner.rate_limiter := hmiddle.rate_limiter
    have hinstant : middle.instant = server.instant := hmiddle.instant
    simp only [Op.run, rate_limit.RateLimiter.check, hlimiter, hinstant]
    exact ⟨trivial, { hmiddle with rate_limiter := rfl, instant := rfl }⟩

theorem ensures_create_call (hleaves : server.LeavesPeers actor) {call : CallEntry}
    {f : Except SignalingError Unit → Async α} :
    Ensures actor (create_call call >>= f) post ⟨server, sent⟩ ↔
      Ensures actor (f (server.inner.create_call call).1) post
        ⟨{ server with inner := (server.inner.create_call call).2 }, sent⟩ :=
  ensures_state hleaves fun middle hmiddle => by
    have hcalls : middle.inner.calls = server.inner.calls := hmiddle.calls
    have hpeers : ∀ peer_id, middle.inner.peers.contains peer_id = server.inner.peers.contains peer_id :=
      fun peer_id => congrArg Option.isSome (hmiddle.peers peer_id)
    simp only [Op.run, InnerState.create_call, hpeers, hcalls]
    split
    · exact ⟨rfl, hmiddle⟩
    · split
      · exact ⟨rfl, hmiddle⟩
      · split
        · exact ⟨rfl, hmiddle⟩
        · exact ⟨rfl, { hmiddle with calls := rfl }⟩

theorem exec_logged_with_holder (action : Action) (on_holder : Session → action.Answer × Session)
    (hexec : ∀ server, exec actor action server = server.with_holder s on_holder)
    (hsends : ∀ server, action.sends server = []) (before : Logged) :
    exec_logged actor action before = (before.server.with_holder s on_holder).map fun (answer, server) =>
      (answer, { server, sent := before.sent }) := by
  simp [exec_logged, hexec, hsends]

/-- A task that needs the holder of a session waits while its mutex is held. -/
theorem ensures_holder_blocked (action : Action) (on_holder : Session → action.Answer × Session)
    (hexec : ∀ server, exec actor action server = server.with_holder s on_holder)
    {f : action.Answer → Async α}
    (hblocked : ∀ session, server.sessions s = some session → session.holder_lock ≠ none) :
    Ensures actor (perform action >>= f) post ⟨server, sent⟩ := by
  refine Task.Safe.of_blocked fun middle hmiddle => ?_
  have hsessions : middle.server.sessions s = server.sessions s := congrFun hmiddle.sessions s
  rw [exec_logged, hexec, Server.with_holder, hsessions]
  cases hsession : server.sessions s with
  | none => rfl
  | some session => simp [hblocked session hsession]

theorem ensures_with_holder (action : Action) (on_holder : Session → action.Answer × Session)
    (hexec : ∀ server, exec actor action server = server.with_holder s on_holder)
    (hsends : ∀ server, action.sends server = []) {f : action.Answer → Async α} {session : Session}
    (hsession : server.sessions s = some session) (hfree : session.holder_lock = none) :
    Ensures actor (perform action >>= f) post ⟨server, sent⟩ ↔
      Ensures actor (f (on_holder session).1) post ⟨server.set_session s (on_holder session).2, sent⟩ := by
  have hwith : ∀ middle : Logged, Steady actor ⟨server, sent⟩ middle →
      exec_logged actor action middle =
        some ((on_holder session).1, ⟨middle.server.set_session s (on_holder session).2, sent⟩) := by
    intro middle hmiddle
    have hsessions : middle.server.sessions s = some session :=
      (congrFun hmiddle.sessions s).trans hsession
    have hsent : middle.sent = sent := hmiddle.sent
    simp [exec_logged_with_holder action on_holder hexec hsends, Server.with_holder, hsessions, hfree, hsent]
  apply ensures_perform
  · intro middle result after hmiddle hrun
    rw [hwith middle hmiddle] at hrun
    cases hrun
    have hsessions : middle.server.sessions = server.sessions := hmiddle.sessions
    exact ⟨rfl, { hmiddle with sent := rfl, sessions := by simp [Server.set_session, hsessions] }⟩
  · exact ⟨_, Steady.equivalence.refl _, by rw [hwith _ (Steady.equivalence.refl _)]; rfl⟩

theorem ensures_read_holder {f : Option String → Async α} {session : Session}
    (hsession : server.sessions s = some session) (hfree : session.holder_lock = none) :
    Ensures actor (read_holder s >>= f) post ⟨server, sent⟩ ↔
      Ensures actor (f session.peer_id_holder) post ⟨server, sent⟩ := by
  have hsame : server.set_session s session = server := by
    simp only [Server.set_session, ← hsession, Function.update_eq_self]
  have hread : Ensures actor (read_holder s >>= f) post ⟨server, sent⟩ ↔
      Ensures actor (f session.peer_id_holder) post ⟨server.set_session s session, sent⟩ :=
    ensures_with_holder (.read_holder s) (fun session => (session.peer_id_holder, session))
      (fun _ => rfl) (fun _ => rfl) hsession hfree
  rwa [hsame] at hread

/-- A handler that reads the holder first can be checked for every value it may have. -/
theorem ensures_of_read_holder {f : Option String → Async α}
    (hread : ∀ session, server.sessions s = some session →
      Ensures actor (f session.peer_id_holder) post ⟨server, sent⟩) :
    Ensures actor (read_holder s >>= f) post ⟨server, sent⟩ := by
  by_cases hfree : ∃ session, server.sessions s = some session ∧ session.holder_lock = none
  · obtain ⟨session, hsession, hfree⟩ := hfree
    exact (ensures_read_holder hsession hfree).mpr (hread session hsession)
  · exact ensures_holder_blocked (.read_holder s) (fun session => (session.peer_id_holder, session))
      (fun _ => rfl) fun session hsession hlock => hfree ⟨session, hsession, hlock⟩

/-- A check of the holder under its mutex leaves the session as it was. -/
theorem ensures_lock_holder {f : Option String → Async α} {session : Session}
    (hsession : server.sessions s = some session) (hfree : session.holder_lock = none) :
    Ensures actor (lock_holder s >>= f) post ⟨server, sent⟩ ↔
      Ensures actor (f session.peer_id_holder) post
        ⟨server.set_session s { session with holder_lock := some actor }, sent⟩ :=
  ensures_with_holder (.lock_holder s)
    (fun session => (session.peer_id_holder, { session with holder_lock := some actor }))
    (fun _ => rfl) (fun _ => rfl) hsession hfree

theorem ensures_unlock_holder {f : Unit → Async α} {session : Session}
    (hsession : server.sessions s = some session) (hfree : session.holder_lock = none) :
    Ensures actor (unlock_holder s >>= f) post
        ⟨server.set_session s { session with holder_lock := some actor }, sent⟩ ↔
      Ensures actor (f ()) post ⟨server, sent⟩ := by
  have hsame : (some { session with holder_lock := none } : Option Session) = server.sessions s := by
    rw [hsession, ← hfree]
  have hunlock : ∀ middle : Logged,
      Steady actor ⟨server.set_session s { session with holder_lock := some actor }, sent⟩ middle →
      exec_logged actor (.unlock_holder s) middle =
        some ((), ⟨middle.server.set_session s { session with holder_lock := none }, sent⟩) := by
    intro middle hmiddle
    have hsessions : middle.server.sessions s = some { session with holder_lock := some actor } :=
      (congrFun hmiddle.sessions s).trans (by simp [Server.set_session])
    have hsent : middle.sent = sent := hmiddle.sent
    simp [exec_logged, exec, hsessions, Action.sends, hsent]
  apply ensures_perform
  · intro middle result after hmiddle hrun
    rw [hunlock middle hmiddle] at hrun
    cases hrun
    have hsessions : middle.server.sessions = (server.set_session s _).sessions := hmiddle.sessions
    refine ⟨rfl, { hmiddle with sent := rfl, sessions := ?_ }⟩
    simp only [Server.set_session, hsessions, Function.update_idem, hsame, Function.update_eq_self]
  · exact ⟨_, Steady.equivalence.refl _, by rw [hunlock _ (Steady.equivalence.refl _)]; rfl⟩

end voip_signaling.session
