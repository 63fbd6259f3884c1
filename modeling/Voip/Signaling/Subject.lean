import Voip.Signaling.Pacing

namespace voip_signaling.state

open rate_limit lru

/-- The peer whose limits or whose entry a critical section is about. -/
def Op.subject : Op → Option String
  | .check _ peer_id | .unregister_peer peer_id | .disconnect_peer peer_id | .get_peer peer_id => some peer_id
  | .register_peer info _ => some info.peer_id
  | _ => none

/-- Critical sections that touch neither limits nor entries of peers, the order of use aside. -/
def Op.incidental : Op → Bool
  | .check .. | .register_peer .. | .unregister_peer _ | .disconnect_peer _ => false
  | _ => true

/-- A registration does not push another entry out of the full registry. -/
def Op.evicts_none (inner : InnerState) : Op → Bool
  | .register_peer info _ => inner.peers.len ≠ inner.peers.cap || inner.peers.contains info.peer_id
  | _ => true

/-- The entry belongs to a peer that is already disconnected. -/
def PeerEntry.is_offline (entry : PeerEntry) : Bool := entry.sender = none ∧ entry.info.status = 1

/-- What a critical section makes of the limits, given the entry of its subject. -/
def Op.limits (now : Nat) (limiter : RateLimiter) (entry : Option PeerEntry) : Op → RateLimiter
  | .check action peer_id => (limiter.check peer_id action now now).2
  | .unregister_peer peer_id => if entry.isSome then limiter.remove_peer peer_id else limiter
  | .disconnect_peer peer_id => if entry.any PeerEntry.is_offline then limiter else limiter.remove_peer peer_id
  | _ => limiter

/-- What a critical section makes of the entry of its subject. -/
def Op.entry (entry : Option PeerEntry) : Op → Option PeerEntry
  | .register_peer info sender => some { info, sender := sender.or (entry.bind PeerEntry.sender) }
  | .unregister_peer _ => none
  | .disconnect_peer _ => entry.map PeerEntry.offline
  | _ => entry

/-- A registration that evicts nothing changes no other entry. -/
theorem InnerState.peek_register_peer_ne {inner : InnerState} (info : PeerInfo)
    (sender : Option SessionSender) (hroom : inner.peers.Full → inner.peers.contains info.peer_id = true)
    {q : String} (hq : q ≠ info.peer_id) :
    (inner.register_peer info sender).peers.peek q = inner.peers.peek q := by
  unfold InnerState.register_peer
  split
  next => simp [hq]
  next habsent => rw [LruCache.peek_put_of_not_full _ _ (fun hfull => habsent (hroom hfull)), if_neg hq]

section Sections

variable {inner other : InnerState} {now : Nat} {op : Op} {q : String}

theorem Op.run_limits (op : Op) : (op.run now inner).2.rate_limiter =
    op.limits now inner.rate_limiter (op.subject.bind inner.peers.peek) := by
  cases op with
  | unregister_peer peer_id =>
    change (inner.unregister_peer peer_id).rate_limiter = _
    unfold InnerState.unregister_peer
    dsimp only
    split
    next hentry => exact (if_pos hentry).symm
    next hentry => exact (if_neg hentry).symm
  | disconnect_peer peer_id =>
    change (inner.disconnect_peer peer_id).rate_limiter =
      if (inner.peers.peek peer_id).any PeerEntry.is_offline then _ else _
    unfold InnerState.disconnect_peer
    split
    next entry hentry =>
      split
      next hoffline => rw [if_pos (by simpa [hentry, PeerEntry.is_offline] using hoffline)]
      next hoffline => rw [if_neg (by simpa [hentry, PeerEntry.is_offline] using hoffline)]
    next hentry => rw [if_neg (by simp [hentry])]
  | register_peer info sender =>
    simp only [Op.run, InnerState.register_peer]
    split <;> rfl
  | create_call call =>
    simp only [Op.run, InnerState.create_call]
    (repeat' split) <;> rfl
  | update_call_state call_id new_state =>
    simp only [Op.run, InnerState.update_call_state, InnerState.modify_call]
    split <;> rfl
  | end_call call_id now reason =>
    simp only [Op.run, InnerState.end_call, InnerState.modify_call]
    split <;> rfl
  | _ => rfl

/-- A section that evicts nothing changes at most the entry of its subject. -/
theorem Op.run_entry (hroom : op.evicts_none inner = true) (q : String) :
    (op.run now inner).2.peers.peek q =
      if op.subject = some q then op.entry (inner.peers.peek q) else inner.peers.peek q := by
  cases op with
  | register_peer info sender =>
    by_cases hq : info.peer_id = q
    · subst hq
      rw [if_pos (by rfl)]
      exact InnerState.peek_register_peer_self info sender
    · rw [if_neg (by simpa [Op.subject] using hq)]
      refine InnerState.peek_register_peer_ne info sender (fun hfull => ?_) (Ne.symm hq)
      have hlen : inner.peers.len = inner.peers.cap := hfull
      simpa [Op.evicts_none, hlen] using hroom
  | unregister_peer peer_id =>
    simp only [Op.subject, Option.some.injEq, Op.entry, eq_comm (a := peer_id)]
    exact InnerState.peek_unregister_peer peer_id q
  | disconnect_peer peer_id =>
    simp only [Op.subject, Option.some.injEq, Op.entry, eq_comm (a := peer_id)]
    exact InnerState.peek_disconnect_peer_eq peer_id q
  | _ =>
    obtain hsame | hchange := Op.run_peers _ q
    · simpa [Op.entry] using hsame
    · cases hchange

end Sections

/-- Two states that a peer cannot tell apart by its limits and its entry. -/
structure InnerState.Same (q : String) (inner after : InnerState) : Prop where
  config : after.rate_limiter.config = inner.rate_limiter.config
  bucket : ∀ kind, after.rate_limiter.bucket kind q = inner.rate_limiter.bucket kind q
  entry : after.peers.peek q = inner.peers.peek q

namespace InnerState.Same

variable {q : String} {inner after last : InnerState}

theorem refl (inner : InnerState) : Same q inner inner := ⟨rfl, fun _ => rfl, rfl⟩

theorem symm (hsame : Same q inner after) : Same q after inner :=
  ⟨hsame.config.symm, fun kind => (hsame.bucket kind).symm, hsame.entry.symm⟩

theorem trans (hfirst : Same q inner after) (hsecond : Same q after last) : Same q inner last :=
  ⟨hsecond.config.trans hfirst.config, fun kind => (hsecond.bucket kind).trans (hfirst.bucket kind),
    hsecond.entry.trans hfirst.entry⟩

/-- Limits that are the same answer the same. -/
theorem check (hsame : Same q inner after) (kind : Action) (now : Nat) :
    (after.rate_limiter.check q kind now now).1 = (inner.rate_limiter.check q kind now now).1 := by
  rw [check_fst, check_fst, hsame.bucket, hsame.config]

end InnerState.Same

section Limits

variable {q : String} {now : Nat} {limiter other : RateLimiter} {entry : Option PeerEntry} {op : Op}

theorem Op.limits_config : (op.limits now limiter entry).config = limiter.config := by
  cases op with
  | check action peer_id => exact (check_eq limiter now now .Call peer_id action).2.1
  | unregister_peer peer_id =>
    simp only [Op.limits]
    split <;> rfl
  | disconnect_peer peer_id =>
    simp only [Op.limits]
    split <;> rfl
  | _ => rfl

/-- A section leaves the limits of all peers alone that it is not about. -/
theorem Op.limits_of_ne (hop : op.incidental = true ∨ op.subject ≠ some q) (kind : Action) :
    (op.limits now limiter entry).bucket kind q = limiter.bucket kind q := by
  cases op with
  | check action peer_id =>
    have hne : peer_id ≠ q := by simpa [Op.incidental, Op.subject] using hop
    rw [Op.limits, bucket_check, if_neg fun h => hne h.2]
  | unregister_peer peer_id =>
    have hne : peer_id ≠ q := by simpa [Op.incidental, Op.subject] using hop
    simp only [Op.limits]
    split
    · rw [bucket_remove_peer, if_neg hne.symm]
    · rfl
  | disconnect_peer peer_id =>
    have hne : peer_id ≠ q := by simpa [Op.incidental, Op.subject] using hop
    simp only [Op.limits]
    split
    · rfl
    · rw [bucket_remove_peer, if_neg hne.symm]
  | _ => rfl

/-- What a section makes of the limits of its subject depends on them and on nothing else. -/
theorem Op.limits_congr (hop : op.subject = some q) (hconfig : other.config = limiter.config)
    (hbucket : ∀ kind, other.bucket kind q = limiter.bucket kind q) (kind : Action) :
    (op.limits now other entry).bucket kind q = (op.limits now limiter entry).bucket kind q := by
  cases op with
  | check action peer_id =>
    simp only [Op.limits, bucket_check, hbucket, hconfig]
  | unregister_peer peer_id =>
    simp only [Op.limits]
    split
    · simp only [bucket_remove_peer, hbucket]
    · exact hbucket kind
  | disconnect_peer peer_id =>
    simp only [Op.limits]
    split
    · exact hbucket kind
    · simp only [bucket_remove_peer, hbucket]
  | _ => exact hbucket kind

end Limits

section Frame

variable {q : String} {inner other : InnerState} {now : Nat} {op : Op}

theorem Op.entry_of_incidental (hop : op.incidental = true) :
    op.entry (inner.peers.peek q) = inner.peers.peek q := by
  cases op <;> first | rfl | contradiction

/-- A peer cannot tell that a section ran that is not about it. -/
theorem Op.run_same (hop : op.incidental = true ∨ op.subject ≠ some q) (hroom : op.evicts_none inner = true) :
    InnerState.Same q inner (op.run now inner).2 where
  config := by rw [Op.run_limits, Op.limits_config]
  bucket kind := by rw [Op.run_limits, Op.limits_of_ne hop]
  entry := by
    rw [Op.run_entry hroom]
    split
    next hsubject => exact Op.entry_of_incidental (hop.resolve_right (not_not.mpr hsubject))
    next => rfl

/-- A section about a peer answers by what the peer can tell, and changes it alike. -/
theorem Op.run_congr (hop : op.subject = some q) (hsame : InnerState.Same q inner other)
    (hroom : op.evicts_none inner = true) (hroom' : op.evicts_none other = true) :
    (op.run now other).1 = (op.run now inner).1 ∧
      InnerState.Same q (op.run now inner).2 (op.run now other).2 := by
  have hafter : InnerState.Same q (op.run now inner).2 (op.run now other).2 := by
    refine ⟨?_, fun kind => ?_, ?_⟩
    · rw [Op.run_limits, Op.run_limits, Op.limits_config, Op.limits_config, hsame.config]
    · rw [Op.run_limits, Op.run_limits, hop, Option.bind_some, Option.bind_some, hsame.entry]
      exact Op.limits_congr hop hsame.config hsame.bucket kind
    · rw [Op.run_entry hroom, Op.run_entry hroom', hsame.entry]
  refine ⟨?_, hafter⟩
  cases op with
  | check action peer_id =>
    cases hop
    exact hsame.check action now
  | get_peer peer_id =>
    cases hop
    exact congrArg (Option.map PeerEntry.info) hsame.entry
  | register_peer info sender => rfl
  | unregister_peer peer_id => rfl
  | disconnect_peer peer_id => rfl
  | _ => contradiction

/-- The cleanup drops a bucket for its age only, as long as all buckets fit. -/
theorem InnerState.Same.cleanup {next_key : Buckets → Option String} (hsame : InnerState.Same q inner other)
    (hfits : inner.rate_limiter.Fits now) (hfits' : other.rate_limiter.Fits now) :
    InnerState.Same q { inner with rate_limiter := inner.rate_limiter.cleanup next_key now }
      { other with rate_limiter := other.rate_limiter.cleanup next_key now } where
  config := hsame.config
  bucket kind := by
    rw [bucket_cleanup _ _ _ _ _ hfits, bucket_cleanup _ _ _ _ _ hfits', hsame.bucket]
  entry := hsame.entry

end Frame

end voip_signaling.state
