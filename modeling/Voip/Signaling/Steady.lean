import Voip.Async.RelyGuarantee
import Voip.Signaling.AppState
import Voip.Signaling.Exec

namespace voip_signaling.session

open state error async

/-- The messages that an action puts into a channel. -/
def Action.sends : Action → Server → List (SessionId × FramedMessage)
  | .send s message, server => if (server.channels s).receiver_open then [(s, message)] else []
  | .send_holding_peers message, server =>
    match server.peers_lock with
    | some (_, s) => if (server.channels s).receiver_open then [(s, message)] else []
    | none => []
  | _, _ => []

/-- The shared state together with the messages that one task has sent so far. -/
structure Logged where
  server : Server
  sent : List (SessionId × FramedMessage)

def exec_logged (actor : Actor) (action : Action) (before : Logged) : Option (action.Answer × Logged) :=
  (exec actor action before.server).map fun (answer, server) =>
    (answer, { server, sent := before.sent ++ action.sends before.server })

/-- The states that a task on one snapshot of the registries need not tell apart: others fill
and drain the channels, lock and unlock the registry of peers, and use its entries. -/
structure Steady (actor : Actor) (before after : Logged) : Prop where
  sent : after.sent = before.sent
  peers : ∀ peer_id, after.server.inner.peers.peek peer_id = before.server.inner.peers.peek peer_id
  calls : after.server.inner.calls = before.server.inner.calls
  rate_limiter : after.server.inner.rate_limiter = before.server.inner.rate_limiter
  proxies : after.server.inner.proxies = before.server.inner.proxies
  sessions : after.server.sessions = before.server.sessions
  receiver_open : ∀ s, (after.server.channels s).receiver_open = (before.server.channels s).receiver_open
  lock : ∀ s, after.server.peers_lock = some (actor, s) ↔ before.server.peers_lock = some (actor, s)
  now_secs : after.server.now_secs = before.server.now_secs
  instant : after.server.instant = before.server.instant

/-- Whenever the task returns from a snapshot, its value and the messages sent satisfy `post`. -/
def Ensures {α : Type} (actor : Actor) (task : Async α) (post : α → Logged → Prop) (before : Logged) : Prop :=
  task.Safe (exec_logged actor) (Steady actor) (fun _ _ => True) post before

/-- The task has not locked the registry of peers. -/
def Server.LeavesPeers (server : Server) (actor : Actor) : Prop := ∀ s, server.peers_lock ≠ some (actor, s)

theorem exists_leaves_peers (server : Server) : ∃ r, server.LeavesPeers (.request r) := by
  cases hlock : server.peers_lock with
  | none => exact ⟨0, fun s => by simp [hlock]⟩
  | some held =>
    obtain ⟨holder, s⟩ := held
    by_cases hholder : holder = .request 0
    · exact ⟨1, fun s' => by simp [hlock, hholder]⟩
    · exact ⟨0, fun s' => by simp [hlock, hholder]⟩

section

variable {actor : Actor}

theorem Steady.equivalence : Equivalence (Steady actor) where
  refl before := by constructor <;> intros <;> rfl
  symm h :=
    { sent := h.sent.symm
      peers := fun peer_id => (h.peers peer_id).symm
      calls := h.calls.symm
      rate_limiter := h.rate_limiter.symm
      proxies := h.proxies.symm
      sessions := h.sessions.symm
      receiver_open := fun s => (h.receiver_open s).symm
      lock := fun s => (h.lock s).symm
      now_secs := h.now_secs.symm
      instant := h.instant.symm }
  trans h h' :=
    { sent := h'.sent.trans h.sent
      peers := fun peer_id => (h'.peers peer_id).trans (h.peers peer_id)
      calls := h'.calls.trans h.calls
      rate_limiter := h'.rate_limiter.trans h.rate_limiter
      proxies := h'.proxies.trans h.proxies
      sessions := h'.sessions.trans h.sessions
      receiver_open := fun s => (h'.receiver_open s).trans (h.receiver_open s)
      lock := fun s => (h'.lock s).trans (h.lock s)
      now_secs := h'.now_secs.trans h.now_secs
      instant := h'.instant.trans h.instant }

variable {α : Type} {post : α → Logged → Prop} {server : Server} {sent : List (SessionId × FramedMessage)}

/-- The symbolic execution of one action on a snapshot. -/
theorem ensures_perform {action : Action} {answer : action.Answer} {f : action.Answer → Async α}
    {before next : Logged}
    (heffect : ∀ middle result after, Steady actor before middle →
      exec_logged actor action middle = some (result, after) → result = answer ∧ Steady actor next after)
    (henabled : ∃ middle, Steady actor before middle ∧ (exec_logged actor action middle).isSome = true) :
    Ensures actor (perform action >>= f) post before ↔ Ensures actor (f answer) post next :=
  Task.Safe.perform_bind_iff Steady.equivalence (fun _ _ => trivial) heffect henabled

/-- Nobody holds the lock of the peers in an equivalent state. -/
theorem steady_unlocked (hleaves : server.LeavesPeers actor) :
    Steady actor ⟨server, sent⟩ ⟨{ server with peers_lock := none }, sent⟩ where
  sent := rfl
  peers _ := rfl
  calls := rfl
  rate_limiter := rfl
  proxies := rfl
  sessions := rfl
  receiver_open _ := rfl
  lock s := by simpa using hleaves s
  now_secs := rfl
  instant := rfl

/-- A critical section that depends on nothing but the snapshot. -/
theorem ensures_state {op : Op} {answer : op.Answer} {f : op.Answer → Async α} {inner : InnerState}
    (hleaves : server.LeavesPeers actor)
    (heffect : ∀ middle, Steady actor ⟨server, sent⟩ ⟨middle, sent⟩ →
      (op.run middle.instant middle.inner).1 = answer ∧
        Steady actor ⟨{ server with inner }, sent⟩
          ⟨{ middle with inner := (op.run middle.instant middle.inner).2 }, sent⟩) :
    Ensures actor (perform (.state op) >>= f) post ⟨server, sent⟩ ↔
      Ensures actor (f answer) post ⟨{ server with inner }, sent⟩ := by
  apply ensures_perform
  · rintro ⟨middle, log⟩ result after hmiddle hexec
    obtain rfl : log = sent := hmiddle.sent
    obtain ⟨⟨result, server'⟩, hrun, hafter⟩ := Option.map_eq_some_iff.mp hexec
    obtain ⟨-, rfl, rfl⟩ := exec_state_eq_some.mp hrun
    cases hafter
    obtain ⟨hanswer, hsteady⟩ := heffect middle hmiddle
    exact ⟨hanswer, by simpa [Action.sends] using hsteady⟩
  · refine ⟨_, steady_unlocked hleaves, ?_⟩
    rw [exec_logged, exec_state_eq_some.mpr ⟨fun _ => rfl, rfl, rfl⟩]
    rfl

theorem Steady.ensures_iff {before after : Logged} (h : Steady actor before after) {task : Async α} :
    Ensures actor task post before ↔ Ensures actor task post after := by
  have htrans : ∀ a b c : Logged, Steady actor a b → Steady actor b c → Steady actor a c :=
    fun _ _ _ hab hbc => Steady.equivalence.trans hab hbc
  exact ⟨fun hsafe => hsafe.interfere htrans h,
    fun hsafe => hsafe.interfere htrans (Steady.equivalence.symm h)⟩

theorem ensures_pure {value : α} {claim : α → Prop} {before : Logged} :
    Ensures actor (pure value) (fun result _ => claim result) before ↔ claim value :=
  ⟨fun hensures => hensures before (Steady.equivalence.refl before), fun hclaim _ _ => hclaim⟩

theorem ensures_of_forall {task : Async α} {before : Logged} (hpost : ∀ value after, post value after) :
    Ensures actor task post before := by
  induction task generalizing before with
  | done value => exact fun after _ => hpost value after
  | act action resume ih => exact fun _ _ answer _ _ => ⟨trivial, ih answer⟩

/-- What does not depend on anything but the messages sent survives a task that sends none. -/
theorem ensures_of_silent {task : Async α}
    (hsilent : task.Uses fun action : Action => ∀ server, action.sends server = [])
    (hpost : ∀ value after, after.sent = sent → post value after) :
    Ensures actor task post ⟨server, sent⟩ := by
  have hsafe : Ensures actor task (fun _ after => after.sent = sent) ⟨server, sent⟩ := by
    refine Task.Safe.of_uses (I := fun after : Logged => after.sent = sent)
      (fun before after hbefore hsteady => hsteady.sent.trans hbefore) ?_ rfl
    refine hsilent.mono fun action haction before answer after hbefore hexec => ⟨trivial, ?_⟩
    obtain ⟨⟨result, server'⟩, -, hafter⟩ := Option.map_eq_some_iff.mp hexec
    cases hafter
    simp [haction, hbefore]
  exact hsafe.weaken hpost

end

end voip_signaling.session
