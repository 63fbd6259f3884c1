import Voip.Signaling.Delivery
import Voip.Signaling.Pacing
import Voip.Signaling.Reference

namespace voip_signaling.state

open lru

variable {now : Nat} {inner : InnerState}

/-- The call that a critical section removes. -/
def Op.removes_call : Op → Option String
  | .remove_call call_id => some call_id
  | _ => none

/-- The peer that a critical section removes. -/
def Op.removes_peer : Op → Option String
  | .unregister_peer peer_id => some peer_id
  | _ => none

/-- A critical section uses at most one call, and only `remove_call` removes one. -/
theorem Op.run_touches_calls (op : Op) :
    inner.calls.Touched (fun c => op.removes_call = some c) (op.run now inner).2.calls := by
  cases op with
  | create_call call =>
    simp only [Op.run, InnerState.create_call]
    split
    · exact .same
    · split
      · exact .same
      · split
        · exact .same
        · exact .put ..
  | update_call_state call_id _ | end_call call_id _ _ =>
    simp only [Op.run, InnerState.update_call_state, InnerState.end_call, InnerState.modify_call]
    split
    · exact .modify ..
    · exact .same
  | remove_call call_id => exact .pop rfl
  | get_call call_id => exact .modify ..
  | register_peer info sender =>
    simp only [Op.run, InnerState.register_peer]
    split <;> exact .same
  | unregister_peer peer_id =>
    simp only [Op.run, InnerState.unregister_peer]
    split <;> exact .same
  | disconnect_peer peer_id =>
    simp only [Op.run, InnerState.disconnect_peer]
    split
    · split <;> exact .same
    · exact .same
  | check _ _ | get_peer _ | find_peer _ | get_proxies | get_dht_bootstrap => exact .same

/-- A critical section uses at most one peer, and only `unregister_peer` removes one. -/
theorem Op.run_touches_peers (op : Op) :
    inner.peers.Touched (fun p => op.removes_peer = some p) (op.run now inner).2.peers := by
  cases op with
  | register_peer info sender =>
    simp only [Op.run, InnerState.register_peer]
    split
    · exact .modify ..
    · exact .put ..
  | unregister_peer peer_id =>
    simp only [Op.run, InnerState.unregister_peer]
    split <;> exact .pop rfl
  | disconnect_peer peer_id =>
    simp only [Op.run, InnerState.disconnect_peer]
    split
    · split <;> exact .modify ..
    · exact .same
  | get_peer peer_id => exact .modify ..
  | create_call call =>
    simp only [Op.run, InnerState.create_call]
    split
    · exact .same
    · split
      · exact .same
      · split <;> exact .same
  | update_call_state call_id _ | end_call call_id _ _ =>
    simp only [Op.run, InnerState.update_call_state, InnerState.end_call, InnerState.modify_call]
    split <;> exact .same
  | check _ _ | find_peer _ | remove_call _ | get_call _ | get_proxies | get_dht_bootstrap => exact .same

end voip_signaling.state

namespace voip_signaling.session

open state

variable {actor : Actor} {action : Action} {server after : Server} {answer : action.Answer}

def Action.removes_call : Action → Option String
  | .state op => op.removes_call
  | _ => none

def Action.removes_peer : Action → Option String
  | .state op => op.removes_peer
  | _ => none

/-- What an action makes of the part of the shared state behind locks: a critical section runs,
the entry of a peer is used, or nothing changes. -/
theorem exec_inner (hexec : exec actor action server = some (answer, after)) :
    (∃ op, action = .state op ∧ after.inner = (op.run server.instant server.inner).2) ∨
      (∃ peer_id, after.inner = { server.inner with peers := (server.inner.peers.get peer_id).2 }) ∨
      after.inner = server.inner := by
  cases action with
  | lock_holder _ | read_holder _ | write_holder _ _ =>
    obtain ⟨session, -, -, -, rfl⟩ := Server.with_holder_eq_some hexec
    exact .inr (.inr rfl)
  | unlock_holder _ | claim_disconnect _ =>
    simp only [exec] at hexec
    split at hexec
    next => contradiction
    next =>
      cases hexec
      exact .inr (.inr rfl)
  | send s message =>
    obtain ⟨channels, rfl⟩ := Server.channel_send_eq_some hexec
    exact .inr (.inr rfl)
  | find_sender peer_id =>
    obtain ⟨-, -, rfl⟩ := exec_find_sender_eq_some.mp hexec
    exact .inr (.inl ⟨peer_id, find_sender_inner server.inner peer_id⟩)
  | send_holding_peers message =>
    obtain ⟨s, channels, -, rfl⟩ := exec_send_holding_peers_eq_some hexec
    exact .inr (.inr rfl)
  | now_secs =>
    cases hexec
    exact .inr (.inr rfl)
  | state op =>
    obtain ⟨-, -, rfl⟩ := exec_state_eq_some.mp hexec
    exact .inl ⟨op, rfl, rfl⟩

theorem exec_touches_calls (hexec : exec actor action server = some (answer, after)) :
    server.inner.calls.Touched (fun c => action.removes_call = some c) after.inner.calls := by
  obtain ⟨op, rfl, hinner⟩ | ⟨peer_id, hinner⟩ | hinner := exec_inner hexec
  · rw [hinner]
    exact Op.run_touches_calls op
  · rw [hinner]
    exact .same
  · rw [hinner]
    exact .same

theorem exec_touches_peers (hexec : exec actor action server = some (answer, after)) :
    server.inner.peers.Touched (fun p => action.removes_peer = some p) after.inner.peers := by
  obtain ⟨op, rfl, hinner⟩ | ⟨peer_id, hinner⟩ | hinner := exec_inner hexec
  · rw [hinner]
    exact Op.run_touches_peers op
  · rw [hinner]
    exact .modify ..
  · rw [hinner]
    exact .same

end voip_signaling.session

namespace voip_signaling.server

open async lru lru.LruCache state session handlers wire

variable {state : AppState} {sys next last : System} {event : Event} {events : List Event}

def System.calls (sys : System) : LruCache String CallEntry := sys.server.inner.calls

def System.peers (sys : System) : LruCache String PeerEntry := sys.server.inner.peers

/-- The call that a step removes. -/
def System.removes_call (sys : System) (event : Event) : Option String :=
  (sys.performs event).bind Action.removes_call

/-- The peer that a step removes. -/
def System.removes_peer (sys : System) (event : Event) : Option String :=
  (sys.performs event).bind Action.removes_peer

/-- A step changes the registries by the action that its task performs, and not otherwise. -/
theorem step_registries (hstep : step state sys event = some next) :
    (next.server.inner.calls = sys.server.inner.calls ∧ next.server.inner.peers = sys.server.inner.peers) ∨
      ∃ (actor : Actor) (action : session.Action) (answer : action.Answer) (after : Server),
        sys.performs event = some action ∧ session.exec actor action sys.server = some (answer, after) ∧
        next.server.inner.calls = after.inner.calls ∧ next.server.inner.peers = after.inner.peers := by
  cases step_taken hstep with
  | quiet hagrees => exact .inl ⟨hagrees.calls, hagrees.peers⟩
  | handling hrunning hdone =>
    exact .inr ⟨_, _, _, _, by simp [System.performs, hrunning], hdone, rfl, rfl⟩
  | closing hrunning hdone =>
    exact .inr ⟨_, _, _, _, by simp [System.performs, hrunning], hdone, rfl, rfl⟩
  | @finishing s action resume answer server hrunning hdone =>
    have hagrees := System.agrees_finish { sys with server } s (resume answer)
    exact .inr ⟨_, _, _, _, by simp [System.performs, hrunning], hdone, hagrees.calls, hagrees.peers⟩
  | handler hrunning hdone =>
    exact .inr ⟨_, _, _, _, by simp [System.performs, hrunning], hdone, rfl, rfl⟩
  | _ => exact .inl ⟨rfl, rfl⟩

theorem step_touches_calls (hstep : step state sys event = some next) :
    sys.calls.Touched (fun c => sys.removes_call event = some c) next.calls := by
  obtain ⟨hcalls, -⟩ | ⟨actor, action, answer, after, hperforms, hdone, hcalls, -⟩ := step_registries hstep
  · rw [System.calls, System.calls, hcalls]
    exact .same
  · rw [System.calls, System.calls, hcalls]
    simpa [System.removes_call, hperforms] using exec_touches_calls hdone

theorem step_touches_peers (hstep : step state sys event = some next) :
    sys.peers.Touched (fun p => sys.removes_peer event = some p) next.peers := by
  obtain ⟨-, hpeers⟩ | ⟨actor, action, answer, after, hperforms, hdone, -, hpeers⟩ := step_registries hstep
  · rw [System.peers, System.peers, hpeers]
    exact .same
  · rw [System.peers, System.peers, hpeers]
    simpa [System.removes_peer, hperforms] using exec_touches_peers hdone

section Registry

variable {ν : Type} (registry : System → LruCache String ν)

/-- The keys that were the most recently used ones of a registry after some step of a run. -/
def used (state : AppState) (sys : System) (events : List Event) : List String :=
  gather (step state) (fun _ _ next => (registry next).newest.toList) sys events

variable {registry} {removes : System → Event → String → Prop}

/-- An entry that has just been used stays in a registry until it is removed, or as many others
have been used as there is room for. -/
theorem retained_of_touched
    (htouches : ∀ {sys event next}, step state sys event = some next →
      (registry sys).Touched (removes sys event) (registry next))
    {key : String} {others : Finset String} (hrecent : (registry sys).Recent key others)
    (hexec : async.exec (step state) sys events = some last)
    (hkept : Along (step state) (fun sys event _ => ¬ removes sys event key) sys events)
    (hused : ∀ other ∈ used registry state sys events, other = key ∨ other ∈ others)
    (hothers : others.card < (registry sys).cap) : (registry last).Recent key others := by
  induction events generalizing sys with
  | nil =>
    cases hexec
    exact hrecent
  | cons event events ih =>
    obtain ⟨next, hstep, hrest⟩ := Option.bind_eq_some_iff.mp hexec
    obtain ⟨hkeeps, hkept⟩ := hkept next hstep
    rw [used, gather_cons_of_step hstep] at hused
    have hnewest : (registry next).UsedAmong key others := fun other hother =>
      hused other (List.mem_append_left _ (by simp [hother]))
    have htouched := htouches hstep
    refine ih (hrecent.touched htouched hkeeps hnewest hothers) hrest hkept
      (fun other hother => hused other (List.mem_append_right _ hother)) ?_
    rw [htouched.cap_eq]
    exact hothers

theorem cap_of_touched
    (htouches : ∀ {sys event next}, step state sys event = some next →
      (registry sys).Touched (removes sys event) (registry next))
    (hexec : async.exec (step state) sys events = some last) : (registry last).cap = (registry sys).cap :=
  exec_invariant (I := fun other => (registry other).cap = (registry sys).cap)
    (fun _ _ _ hcap hstep => (htouches hstep).cap_eq.trans hcap) rfl hexec

end Registry

/-- In every run a call that has just been used keeps its entry until it is removed or 1000 other
calls have been used, and a peer until it is unregistered or 10000 other peers have been used. -/
theorem entries_retained (rate_limits : rate_limit.RateLimitConfig) {before : List Event}
    (hbefore : async.exec (step state) (System.init rate_limits state) before = some sys)
    (hexec : async.exec (step state) sys events = some last) :
    (∀ call_id, sys.calls.newest = some call_id →
      Along (step state) (fun sys event _ => sys.removes_call event ≠ some call_id) sys events →
      ((used System.calls state sys events).toFinset.erase call_id).card < 1000 →
      last.calls.contains call_id = true) ∧
    ∀ peer_id, sys.peers.newest = some peer_id →
      Along (step state) (fun sys event _ => sys.removes_peer event ≠ some peer_id) sys events →
      ((used System.peers state sys events).toFinset.erase peer_id).card < 10000 →
      last.peers.contains peer_id = true := by
  constructor
  · intro call_id hnewest hkept hothers
    have hcap : sys.calls.cap = 1000 := cap_of_touched step_touches_calls hbefore
    refine (retained_of_touched step_touches_calls (recent_of_newest hnewest) hexec hkept
      (fun other hother => ?_) (hcap ▸ hothers)).contains
    by_cases heq : other = call_id
    · exact .inl heq
    · exact .inr (Finset.mem_erase.mpr ⟨heq, List.mem_toFinset.mpr hother⟩)
  · intro peer_id hnewest hkept hothers
    have hcap : sys.peers.cap = 10000 := cap_of_touched step_touches_peers hbefore
    refine (retained_of_touched step_touches_peers (recent_of_newest hnewest) hexec hkept
      (fun other hother => ?_) (hcap ▸ hothers)).contains
    by_cases heq : other = peer_id
    · exact .inl heq
    · exact .inr (Finset.mem_erase.mpr ⟨heq, List.mem_toFinset.mpr hother⟩)

/-- Alice and bob register, and alice calls bob. -/
def alice_rings_bob : List Event :=
  exchange 1 type_id.PEER_REGISTER (proto.string 1 "alice") 6 ++
    exchange 2 type_id.PEER_REGISTER (proto.string 1 "bob") 6 ++
    exchange 1 type_id.CALL_REQUEST_CS
      (proto.string 1 "call" ++ proto.string 2 "alice" ++ proto.string 3 "bob") 9

/-- The call outlives its acceptance. -/
theorem accepted_call_retained :
    ∃ sys last, async.exec (step .reference) .reference (alice_and_bob_connect ++ alice_rings_bob) = some sys ∧
      async.exec (step .reference) sys (exchange 2 type_id.CALL_ACCEPT_CS (proto.string 1 "call") 9) = some last ∧
      last.calls.contains "call" = true := by
  have hruns : ((async.exec (step .reference) .alice_and_bob alice_rings_bob).map fun sys =>
      (async.exec (step .reference) sys (exchange 2 type_id.CALL_ACCEPT_CS (proto.string 1 "call") 9)).isSome &&
        decide (sys.calls.newest = some "call" ∧
          Along (step .reference) (fun sys event _ => sys.removes_call event ≠ some "call") sys
            (exchange 2 type_id.CALL_ACCEPT_CS (proto.string 1 "call") 9) ∧
          ((used System.calls .reference sys
            (exchange 2 type_id.CALL_ACCEPT_CS (proto.string 1 "call") 9)).toFinset.erase "call").card < 1000)) =
      some true := by
    decide +kernel
  obtain ⟨sys, hsys, htest⟩ := Option.map_eq_some_iff.mp hruns
  simp only [Bool.and_eq_true, decide_eq_true_eq] at htest
  obtain ⟨hsome, hnewest, hkept, hothers⟩ := htest
  obtain ⟨last, hlast⟩ := Option.isSome_iff_exists.mp hsome
  rw [← exec_alice_and_bob_connect] at hsys
  exact ⟨sys, last, hsys, hlast, (entries_retained .default hsys hlast).1 "call" hnewest hkept hothers⟩

end voip_signaling.server
