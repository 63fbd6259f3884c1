import Voip.Signaling.Action

namespace voip_signaling.state

open lru

variable {inner : InnerState} {now : Nat}

/-- The change that an operation makes to the entry of a call. -/
inductive Op.ChangesCall (inner : InnerState) (c : String) : Op → Option CallEntry → Prop where
  | create {call : CallEntry} (id : call.call_id = c) (absent : inner.calls.peek c = none) :
      ChangesCall inner c (.create_call call) (some call)
  | evict {call : CallEntry} (absent : inner.calls.peek call.call_id = none)
      (full : inner.calls.Full) (victim : inner.calls.victim = some c) :
      ChangesCall inner c (.create_call call) none
  | update {entry : CallEntry} {new_state : Int} (present : inner.calls.peek c = some entry) :
      ChangesCall inner c (.update_call_state c new_state) (some { entry with state := new_state })
  | finish {entry : CallEntry} {at_secs : Nat} {reason : Option String}
      (present : inner.calls.peek c = some entry) :
      ChangesCall inner c (.end_call c at_secs reason)
        (some { entry with state := 4, ended_at := some at_secs, failure_reason := reason })
  | remove {entry : CallEntry} (present : inner.calls.peek c = some entry) :
      ChangesCall inner c (.remove_call c) none

/-- The entry of a peer whose connection has ended. -/
def PeerEntry.offline (entry : PeerEntry) : PeerEntry where
  info := { entry.info with status := 1 }
  sender := none

theorem PeerEntry.offline_eq_self {entry : PeerEntry} (hsender : entry.sender = none)
    (hstatus : entry.info.status = 1) : entry.offline = entry := by
  rw [PeerEntry.offline, ← hstatus, ← hsender]

/-- The change that an operation makes to the entry of a peer. -/
inductive Op.ChangesPeer (inner : InnerState) (p : String) : Op → Option PeerEntry → Prop where
  | register {info : PeerInfo} {sender : Option SessionSender} (id : info.peer_id = p) :
      ChangesPeer inner p (.register_peer info sender)
        (some { info, sender := sender.or ((inner.peers.peek p).bind PeerEntry.sender) })
  | evict {info : PeerInfo} {sender : Option SessionSender} (absent : inner.peers.peek info.peer_id = none)
      (full : inner.peers.Full) (victim : inner.peers.victim = some p) :
      ChangesPeer inner p (.register_peer info sender) none
  | unregister {entry : PeerEntry} (present : inner.peers.peek p = some entry) :
      ChangesPeer inner p (.unregister_peer p) none
  | disconnect {entry : PeerEntry} (present : inner.peers.peek p = some entry) :
      ChangesPeer inner p (.disconnect_peer p) (some entry.offline)

/-- The peer whose entry an operation is about. -/
def Op.names : Op → Option String
  | .register_peer info _ => some info.peer_id
  | .unregister_peer peer_id | .disconnect_peer peer_id => some peer_id
  | _ => none

/-- An operation changes the entry it is about, or evicts the least recently used one. -/
theorem Op.ChangesPeer.names_or_evicts {op : Op} {p : String} {after : Option PeerEntry}
    (hop : op.ChangesPeer inner p after) :
    op.names = some p ∨ inner.peers.Full ∧ inner.peers.victim = some p ∧ after = none := by
  cases hop with
  | register hid => exact .inl (congrArg some hid)
  | evict habsent hfull hvictim => exact .inr ⟨hfull, hvictim, rfl⟩
  | unregister hpresent => exact .inl rfl
  | disconnect hpresent => exact .inl rfl

namespace InnerState

private theorem peek_create_call (call : CallEntry) (c : String) :
    (inner.create_call call).2.calls.peek c = inner.calls.peek c ∨
      Op.ChangesCall inner c (.create_call call) ((inner.create_call call).2.calls.peek c) := by
  unfold create_call
  split
  · exact .inl rfl
  split
  · exact .inl rfl
  split
  · exact .inl rfl
  next hcontains =>
    have habsent : inner.calls.peek call.call_id = none := by
      simpa [LruCache.contains] using hcontains
    by_cases hc : c = call.call_id
    · subst hc
      rw [LruCache.peek_put_self]
      exact .inr (.create rfl habsent)
    · obtain hsame | ⟨hfull, -, hvictim, hnone⟩ := inner.calls.peek_put_ne call.call_id call hc
      · exact .inl hsame
      · rw [hnone]
        exact .inr (.evict habsent hfull hvictim)

private theorem peek_modify_call (inner : InnerState) (call_id c : String) (write : CallEntry → CallEntry) :
    (inner.modify_call call_id write).2.calls.peek c = inner.calls.peek c ∨
      c = call_id ∧ ∃ entry, inner.calls.peek c = some entry ∧
        (inner.modify_call call_id write).2.calls.peek c = some (write entry) := by
  unfold modify_call
  split
  next hcontains =>
    obtain ⟨entry, hentry⟩ := (inner.calls.contains_iff call_id).mp hcontains
    by_cases hc : c = call_id
    · subst hc
      exact .inr ⟨rfl, entry, hentry, by simp [hentry]⟩
    · exact .inl (by simp [hc])
  next => exact .inl rfl

private theorem peek_register_peer (info : PeerInfo) (sender : Option SessionSender) (p : String) :
    (inner.register_peer info sender).peers.peek p = inner.peers.peek p ∨
      Op.ChangesPeer inner p (.register_peer info sender)
        ((inner.register_peer info sender).peers.peek p) := by
  unfold register_peer
  split
  next hcontains =>
    obtain ⟨entry, hentry⟩ := (inner.peers.contains_iff info.peer_id).mp hcontains
    by_cases hp : p = info.peer_id
    · subst hp
      refine .inr ?_
      have hregister : Op.ChangesPeer inner info.peer_id (.register_peer info sender) _ := .register rfl
      cases sender <;> simpa [hentry] using hregister
    · exact .inl (by simp [hp])
  next hcontains =>
    have habsent : inner.peers.peek info.peer_id = none := by
      simpa [LruCache.contains] using hcontains
    by_cases hp : p = info.peer_id
    · subst hp
      refine .inr ?_
      have hregister : Op.ChangesPeer inner info.peer_id (.register_peer info sender) _ := .register rfl
      simpa [habsent] using hregister
    · obtain hsame | ⟨hfull, -, hvictim, hnone⟩ :=
        inner.peers.peek_put_ne info.peer_id { info, sender } hp
      · exact .inl hsame
      · rw [hnone]
        exact .inr (.evict habsent hfull hvictim)

/-- A registration replaces the information about its peer, and the session if it has one. -/
theorem peek_register_peer_self (info : PeerInfo) (sender : Option SessionSender) :
    (inner.register_peer info sender).peers.peek info.peer_id =
      some { info, sender := sender.or ((inner.peers.peek info.peer_id).bind PeerEntry.sender) } := by
  unfold register_peer
  split
  next hcontains =>
    obtain ⟨entry, hentry⟩ := (inner.peers.contains_iff _).mp hcontains
    cases sender <;> simp [hentry]
  next hcontains =>
    have hnone : inner.peers.peek info.peer_id = none := by
      simpa [LruCache.contains] using hcontains
    simp [hnone]

theorem peek_unregister_peer (peer_id p : String) :
    (inner.unregister_peer peer_id).peers.peek p = if p = peer_id then none else inner.peers.peek p := by
  unfold unregister_peer
  dsimp only
  split <;> exact LruCache.peek_pop ..

/-- Disconnecting takes a peer offline and touches no other entry. -/
theorem peek_disconnect_peer_eq (peer_id p : String) :
    (inner.disconnect_peer peer_id).peers.peek p =
      if p = peer_id then (inner.peers.peek p).map PeerEntry.offline else inner.peers.peek p := by
  unfold disconnect_peer
  split
  next entry hentry =>
    split
    next hoffline =>
      obtain ⟨hsender, hstatus⟩ := hoffline
      rw [LruCache.peek_modify, Option.map_id]
      split
      next hp =>
        subst hp
        simp [hentry, PeerEntry.offline_eq_self hsender hstatus]
      next => rfl
    next =>
      rw [LruCache.peek_modify]
      split
      next hp =>
        subst hp
        rfl
      next => rfl
  next hentry =>
    split
    next hp =>
      subst hp
      simp [hentry]
    next => rfl

end InnerState

/-- An operation leaves the entry of a call as it is, or makes one of the listed changes. -/
theorem Op.run_calls (op : Op) (c : String) :
    (op.run now inner).2.calls.peek c = inner.calls.peek c ∨
      op.ChangesCall inner c ((op.run now inner).2.calls.peek c) := by
  cases op with
  | create_call call => exact InnerState.peek_create_call call c
  | update_call_state call_id new_state =>
    obtain hsame | ⟨rfl, entry, hentry, hafter⟩ := InnerState.peek_modify_call inner call_id c
      fun call => { call with state := new_state }
    · exact .inl hsame
    · refine .inr ?_
      rw [show (Op.run now inner (.update_call_state c new_state)).2.calls.peek c = _ from hafter]
      exact .update hentry
  | end_call call_id at_secs reason =>
    obtain hsame | ⟨rfl, entry, hentry, hafter⟩ := InnerState.peek_modify_call inner call_id c
      fun call => { call with state := 4, ended_at := some at_secs, failure_reason := reason }
    · exact .inl hsame
    · refine .inr ?_
      rw [show (Op.run now inner (.end_call c at_secs reason)).2.calls.peek c = _ from hafter]
      exact .finish hentry
  | remove_call call_id =>
    have hafter : (Op.run now inner (.remove_call call_id)).2.calls.peek c =
        if c = call_id then none else inner.calls.peek c := LruCache.peek_pop ..
    by_cases hc : c = call_id
    · subst hc
      rw [hafter, if_pos rfl]
      cases hentry : inner.calls.peek c with
      | none => exact .inl rfl
      | some entry => exact .inr (.remove hentry)
    · exact .inl (by rw [hafter, if_neg hc])
  | get_call call_id => exact .inl (LruCache.peek_get ..)
  | register_peer info sender =>
    left
    change (inner.register_peer info sender).calls.peek c = _
    unfold InnerState.register_peer
    split <;> rfl
  | unregister_peer peer_id =>
    left
    change (inner.unregister_peer peer_id).calls.peek c = _
    unfold InnerState.unregister_peer
    dsimp only
    split <;> rfl
  | disconnect_peer peer_id =>
    left
    change (inner.disconnect_peer peer_id).calls.peek c = _
    unfold InnerState.disconnect_peer
    split
    · split <;> rfl
    · rfl
  | check _ _ | get_peer _ | find_peer _ | get_proxies | get_dht_bootstrap => exact .inl rfl

/-- An operation leaves the entry of a peer as it is, or makes one of the listed changes. -/
theorem Op.run_peers (op : Op) (p : String) :
    (op.run now inner).2.peers.peek p = inner.peers.peek p ∨
      op.ChangesPeer inner p ((op.run now inner).2.peers.peek p) := by
  cases op with
  | register_peer info sender => exact InnerState.peek_register_peer info sender p
  | unregister_peer peer_id =>
    have hafter : (Op.run now inner (.unregister_peer peer_id)).2.peers.peek p =
        if p = peer_id then none else inner.peers.peek p := InnerState.peek_unregister_peer peer_id p
    by_cases hp : p = peer_id
    · subst hp
      rw [hafter, if_pos rfl]
      cases hentry : inner.peers.peek p with
      | none => exact .inl rfl
      | some entry => exact .inr (.unregister hentry)
    · exact .inl (by rw [hafter, if_neg hp])
  | disconnect_peer peer_id =>
    have hafter : (Op.run now inner (.disconnect_peer peer_id)).2.peers.peek p = _ :=
      InnerState.peek_disconnect_peer_eq peer_id p
    by_cases hp : p = peer_id
    · subst hp
      rw [hafter, if_pos rfl]
      cases hentry : inner.peers.peek p with
      | none => exact .inl rfl
      | some entry => exact .inr (.disconnect hentry)
    · exact .inl (by rw [hafter, if_neg hp])
  | get_peer peer_id => exact .inl (LruCache.peek_get ..)
  | create_call call =>
    left
    change (inner.create_call call).2.peers.peek p = _
    unfold InnerState.create_call
    split
    · rfl
    split
    · rfl
    split <;> rfl
  | update_call_state _ _ | end_call _ _ _ =>
    left
    change (inner.modify_call _ _).2.peers.peek p = _
    unfold InnerState.modify_call
    split <;> rfl
  | check _ _ | find_peer _ | remove_call _ | get_call _ | get_proxies | get_dht_bootstrap =>
    exact .inl rfl

end voip_signaling.state
