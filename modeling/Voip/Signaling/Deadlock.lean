import Voip.Signaling.Continuation
import Voip.Signaling.Reference
import Voip.Signaling.Registration

namespace voip_signaling.session

open async state lru

/-- Whether an action has to wait for the lock of the peer registry. -/
def Action.locks_peers : Action → Bool
  | .find_sender _ => true
  | .state op => op.locks_peers
  | _ => false

/-- A channel that is open and has no room. -/
def Channel.Full (channel : Channel) : Prop :=
  channel.receiver_open = true ∧ SESSION_CHANNEL_CAPACITY ≤ channel.queue.length

section Lock

variable {actor : Actor} {action : Action} {server after : Server} {answer : action.Answer}

/-- Entries of peers change only under the lock. -/
private theorem locks_peers_of_changes {inner : InnerState} {p : String} {op : Op}
    {entry : Option PeerEntry} (hop : op.ChangesPeer inner p entry) : op.locks_peers = true := by
  cases hop <;> rfl

theorem find_sender_ok {inner : InnerState} {p : String} {s : SessionId}
    (hfound : (inner.find_sender p).1.toOption = some s) :
    ∃ entry, inner.peers.peek p = some entry ∧ entry.sender = some s := by
  unfold InnerState.find_sender at hfound
  dsimp only at hfound
  split at hfound
  next => contradiction
  next entry hentry =>
    split at hfound
    next => contradiction
    next sender hsender =>
      cases hfound
      exact ⟨entry, hentry, hsender⟩

/-- While the lock is held across a suspension, no entry of a peer changes; and the lock
is taken on the way to a session that an entry leads to. -/
theorem exec_peers_lock (hexec : exec actor action server = some (answer, after)) {holder : Actor}
    {s : SessionId} (hlock : after.peers_lock = some (holder, s)) :
    (∀ p, after.inner.peers.peek p = server.inner.peers.peek p) ∧
      (server.peers_lock = some (holder, s) ∨
        ∃ p, action = .find_sender p ∧ Leads s p server) := by
  cases action with
  | lock_holder s' | read_holder s' | write_holder s' peer_id =>
    obtain ⟨session, hsession, -, -, rfl⟩ := Server.with_holder_eq_some hexec
    exact ⟨fun _ => rfl, .inl hlock⟩
  | unlock_holder s' | claim_disconnect s' =>
    simp only [exec] at hexec
    split at hexec
    next => contradiction
    next session hsession =>
      cases hexec
      exact ⟨fun _ => rfl, .inl hlock⟩
  | send s' message =>
    obtain ⟨channels, rfl⟩ := Server.channel_send_eq_some hexec
    exact ⟨fun _ => rfl, .inl hlock⟩
  | find_sender p =>
    obtain ⟨-, rfl, rfl⟩ := exec_find_sender_eq_some.mp hexec
    obtain ⟨found, hfound, heq⟩ := Option.map_eq_some_iff.mp hlock
    cases heq
    refine ⟨fun q => ?_, .inr ⟨p, rfl, find_sender_ok hfound⟩⟩
    obtain ⟨-, ⟨op, hop, -⟩ | ⟨-, -, -, hpeers⟩⟩ := exec_registries hexec
    · contradiction
    · exact hpeers q
  | send_holding_peers message =>
    obtain ⟨s', channels, -, rfl⟩ := exec_send_holding_peers_eq_some hexec
    contradiction
  | now_secs =>
    cases hexec
    exact ⟨fun _ => rfl, .inl hlock⟩
  | state op =>
    obtain ⟨hfree, -, rfl⟩ := exec_state_eq_some.mp hexec
    refine ⟨fun p => ?_, .inl hlock⟩
    obtain hsame | hop := Op.run_peers op p
    · exact hsame
    · have hnone := hfree (locks_peers_of_changes hop)
      rw [show server.peers_lock = some (holder, s) from hlock] at hnone
      contradiction

end Lock

end voip_signaling.session

namespace voip_signaling.server

open async state session handlers wire

variable {state : AppState} {sys next : System} {event : Event}

namespace System

variable (sys : System)

/-- The holder of the peers lock waits for room in a channel, and the task that drains
the channel waits for the peers lock. -/
def Deadlocked : Prop :=
  ∃ holder s action resume, sys.server.peers_lock = some (holder, s) ∧ (sys.server.channels s).Full ∧
    sys.forward s = .finishing (.act action resume) ∧ Action.locks_peers action = true

/-- The peer that an event is about to look up in order to send it a message. -/
def looks_up : Event → Option String
  | .receive_loop s =>
    match sys.receive s with
    | .handling _ (.act (.find_sender p) _) => some p
    | _ => none
  | _ => none

end System

def Forward.cleaning : Forward → Bool
  | .finishing _ => true
  | _ => false

/-- A write to a WebSocket fails only while nobody holds the peers lock on the way into
the session's channel. -/
def fails_unawaited (sys : System) : Event → Bool
  | .write_fails s => sys.server.peers_lock.all fun lock => lock.2 ≠ s
  | _ => true

/-- A peer that is looked up to be sent a message is not reached through a session whose
forward task is cleaning up. -/
def looks_up_live (sys : System) (event : Event) : Bool :=
  match sys.looks_up event with
  | some p => ((sys.server.inner.peers.peek p).bind PeerEntry.sender).all fun s =>
      !(sys.forward s).cleaning
  | none => true

/-- The invariant behind the absence of deadlocks: the session that the holder of the
peers lock is on its way to is registered, and its forward task is not cleaning up. -/
structure Unblocked (state : AppState) (sys : System) : Prop where
  disciplined : Disciplined state sys
  live : ∀ {holder s}, sys.server.peers_lock = some (holder, s) → ∀ task, sys.forward s ≠ .finishing task
  registered : ∀ {holder s}, sys.server.peers_lock = some (holder, s) → ∃ p, Leads s p sys.server

theorem Unblocked.init (rate_limits : rate_limit.RateLimitConfig) :
    Unblocked state (System.init rate_limits state) where
  disciplined := .init rate_limits
  live := by simp [System.init]
  registered := by simp [System.init]

theorem Unblocked.not_deadlocked (hsys : Unblocked state sys) : ¬ sys.Deadlocked := by
  rintro ⟨holder, s, action, resume, hlock, -, hfinishing, -⟩
  exact hsys.live hlock _ hfinishing

/-- The lock was held before the step, or the step takes it on the way to a session that
an entry leads to. -/
private theorem Move.peers_lock (hmove : Move state sys event next) (hsys : Disciplined state sys)
    {holder : Actor} {s : SessionId} (hlock : next.server.peers_lock = some (holder, s)) :
    (∀ p, next.server.inner.peers.peek p = sys.server.inner.peers.peek p) ∧
      (sys.server.peers_lock = some (holder, s) ∨
        ∃ p, sys.looks_up event = some p ∧ Leads s p sys.server) := by
  cases hmove with
  | started hagrees _ =>
    rw [hagrees.peers_lock] at hlock
    exact ⟨fun p => by rw [hagrees.peers], .inl hlock⟩
  | opened _ _ hserver _ =>
    rw [hserver] at hlock ⊢
    exact ⟨fun _ => rfl, .inl hlock⟩
  | acted role hlabel hrunning hdone hagrees _ =>
    rw [hagrees.peers_lock] at hlock
    obtain ⟨hpeers, hheld⟩ := exec_peers_lock hdone hlock
    refine ⟨fun p => by rw [hagrees.peers, hpeers], hheld.imp_right ?_⟩
    rintro ⟨p, rfl, hleads⟩
    refine ⟨p, ?_, hleads⟩
    have hkeeps := (hsys.keeps hrunning).1
    cases role with
    | handling s' framed =>
      simp [hlabel, Role.event, System.looks_up, show sys.receive s' = .handling framed _ from hrunning]
    | closing s' => exact hkeeps.elim
    | finishing s' => exact hkeeps.elim
  | @served r pending action resume answer hlabel hrunning htask hdone _ =>
    obtain ⟨hpeers, hheld⟩ := exec_peers_lock hdone hlock
    refine ⟨hpeers, hheld.imp_right ?_⟩
    rintro ⟨p, rfl, -⟩
    have hserves := hsys.serves hrunning
    rw [htask] at hserves
    replace hserves := hserves.1
    cases hendpoint : pending.endpoint <;> rw [hendpoint] at hserves <;> exact hserves.elim

private theorem System.no_entry_of_unregistered {s : SessionId} (hunregistered : sys.unregistered s = true) :
    NoEntry s sys.server := by
  rintro p ⟨entry, hentry, hsender⟩
  have hmem : (⟨p, entry⟩ : Sigma fun _ : String => PeerEntry) ∈ sys.server.inner.peers.entries.entries :=
    AList.mem_lookup_iff.mp hentry
  have hne := List.all_eq_true.mp hunregistered _ hmem
  simp [hsender] at hne

/-- A forward task starts to clean up only in its own two ways. -/
private theorem Move.finishing (hmove : Move state sys event next) {s : SessionId} {task : Async Unit}
    (hfinishing : next.forward s = .finishing task) (hbefore : ∀ task, sys.forward s ≠ .finishing task) :
    event = .write_fails s ∨ event = .drained s ∧ NoEntry s sys.server := by
  have hruns : next.Runs (.finishing s) task := hfinishing
  cases hmove with
  | started _ hstarted =>
    obtain hold | hstart := hstarted hruns
    · exact absurd hold (hbefore task)
    · cases hstart with
      | write_fails _ => exact .inl rfl
      | drained _ hunregistered => exact .inr ⟨rfl, System.no_entry_of_unregistered hunregistered⟩
  | opened _ _ _ hold => exact absurd (hold hruns) (hbefore task)
  | acted role _ hrunning _ _ hold =>
    obtain ⟨rfl, -⟩ | ⟨hold, -⟩ := hold hruns
    · exact absurd hrunning (hbefore _)
    · exact absurd hold (hbefore task)
  | served _ _ _ _ hold => exact absurd (hold hruns) (hbefore task)

theorem Unblocked.step (hsys : Unblocked state sys) (hfails : fails_unawaited sys event = true)
    (hlooks : looks_up_live sys event = true) (hstep : server.step state sys event = some next) :
    Unblocked state next where
  disciplined := hsys.disciplined.step hstep
  live {holder s} hlock task hfinishing := by
    obtain ⟨-, hheld | ⟨p, hlookup, entry, hentry, hsender⟩⟩ :=
      (move_of_step hstep).peers_lock hsys.disciplined hlock
    · obtain rfl | ⟨rfl, hno⟩ := (move_of_step hstep).finishing hfinishing (hsys.live hheld)
      · simp [fails_unawaited, hheld] at hfails
      · obtain ⟨p, hleads⟩ := hsys.registered hheld
        exact hno p hleads
    · have hcleaning : (sys.forward s).cleaning = false := by
        simpa [looks_up_live, hlookup, hentry, hsender] using hlooks
      have hbefore : ∀ task, sys.forward s ≠ .finishing task := by
        intro task hfinishing
        simp [hfinishing, Forward.cleaning] at hcleaning
      obtain rfl | ⟨rfl, -⟩ := (move_of_step hstep).finishing hfinishing hbefore
      · contradiction
      · contradiction
  registered {holder s} hlock := by
    obtain ⟨hpeers, hheld⟩ := (move_of_step hstep).peers_lock hsys.disciplined hlock
    have hleads : ∃ p, Leads s p sys.server := by
      obtain hheld | ⟨p, -, hleads⟩ := hheld
      · exact hsys.registered hheld
      · exact ⟨p, hleads⟩
    obtain ⟨p, entry, hentry, hsender⟩ := hleads
    exact ⟨p, entry, by rw [hpeers, hentry], hsender⟩

/-- In every run in which writes to a session fail only while nobody is on the way into
its channel with the peers lock, and messages are sent only to sessions whose forward
task is not cleaning up, no state is deadlocked. -/
theorem not_deadlocked_of_live_receivers (state : AppState) (rate_limits : rate_limit.RateLimitConfig)
    (events : List Event)
    (hlive : Along (step state) (fun sys event _ => fails_unawaited sys event ∧
      looks_up_live sys event) (System.init rate_limits state) events) :
    Along (step state) (fun _ _ next => ¬ next.Deadlocked) (System.init rate_limits state) events := by
  refine Along.of_invariant (I := Unblocked state) ?_ (.init rate_limits) hlive
  intro sys event next hsys hcond hstep
  have hnext := hsys.step hcond.1 hcond.2 hstep
  exact ⟨hnext.not_deadlocked, hnext⟩

/-- The condition of the theorem is met when alice calls bob, whose forward task first
delivers the message and then fails to write another one. -/
theorem not_deadlocked_of_alice_and_bob :
    Along (step .reference) (fun _ _ next => ¬ next.Deadlocked) (System.init .default .reference)
      (alice_and_bob_connect ++ (exchange 1 type_id.PEER_REGISTER (proto.string 1 "alice") 6 ++
        exchange 2 type_id.PEER_REGISTER (proto.string 1 "bob") 6 ++
        exchange 1 type_id.CALL_REQUEST_CS
          (proto.string 1 "call" ++ proto.string 2 "alice" ++ proto.string 3 "bob") 9 ++
        [.take 2, .wrote 2] ++ exchange 1 type_id.CALL_ENDED (proto.string 1 "call") 9 ++
        [.take 2, .write_fails 2] ++ List.replicate 4 (.forward_task 2))) := by
  apply not_deadlocked_of_live_receivers
  apply along_alice_and_bob_connect
  · intro sys s token next
    exact ⟨rfl, rfl⟩
  · decide +kernel

end voip_signaling.server
