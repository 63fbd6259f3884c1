import Voip.Async.Interleave
import Voip.Signaling.Reference
import Voip.Signaling.Sequential
import Mathlib.Data.List.ReduceOption

namespace voip_signaling.session

open state lru

variable {server : Server} {peer_id : String}

/-- The operations on the entry of one peer that a `PUT` may meet. -/
inductive PeerOp where
  | unregister
  | disconnect
  | register (msg : voip_core.proto.signaling.PeerRegister) (now : Nat) (s : SessionId)

/-- The critical section of an operation on a given peer. -/
def PeerOp.op (peer_id : String) : PeerOp → Op
  | .unregister => .unregister_peer peer_id
  | .disconnect => .disconnect_peer peer_id
  | .register msg now s => .register_peer (peer_info { msg with peer_id } now) (some s)

def Server.apply (peer_id : String) (server : Server) (peer_op : PeerOp) : Server :=
  { server with inner := ((peer_op.op peer_id).run server.instant server.inner).2 }

def Server.entry (server : Server) (peer_id : String) : Option PeerEntry := server.inner.peers.peek peer_id

/-- What an operation does to the entry, whatever else the registry holds. -/
def PeerOp.on_entry (peer_id : String) (entry : Option PeerEntry) : PeerOp → Option PeerEntry
  | .unregister => none
  | .disconnect => entry.map fun entry => { info := { entry.info with status := 1 }, sender := none }
  | .register msg now s => some { info := peer_info { msg with peer_id } now, sender := some s }

theorem entry_apply (peer_op : PeerOp) :
    (server.apply peer_id peer_op).entry peer_id = peer_op.on_entry peer_id (server.entry peer_id) := by
  cases peer_op with
  | unregister =>
    simp only [Server.entry, Server.apply, PeerOp.op, Op.run, InnerState.unregister_peer, PeerOp.on_entry]
    split <;> simp
  | disconnect =>
    simp only [Server.entry, Server.apply, PeerOp.op, Op.run, InnerState.disconnect_peer, PeerOp.on_entry]
    cases hentry : server.inner.peers.peek peer_id with
    | none => simpa using hentry
    | some entry =>
      dsimp only
      split
      next hoffline =>
        obtain ⟨⟨_, _, _, _, _, status, _, _⟩, sender⟩ := entry
        obtain ⟨rfl, rfl⟩ := hoffline
        simp [hentry]
      next => simp [hentry]
  | register msg now s => exact InnerState.peek_register_peer_self _ _

theorem entry_foldl_apply (ops : List PeerOp) :
    (ops.foldl (Server.apply peer_id) server).entry peer_id =
      ops.foldl (PeerOp.on_entry peer_id) (server.entry peer_id) := by
  induction ops generalizing server with
  | nil => rfl
  | cons peer_op ops ih => rw [List.foldl_cons, ih, entry_apply, List.foldl_cons]

/-- Operations keep the lock of the peers and the clock. -/
theorem foldl_apply_fixed (server : Server) (peer_id : String) (ops : List PeerOp) :
    (ops.foldl (Server.apply peer_id) server).peers_lock = server.peers_lock ∧
      (ops.foldl (Server.apply peer_id) server).now_secs = server.now_secs := by
  induction ops generalizing server with
  | nil => exact ⟨rfl, rfl⟩
  | cons peer_op ops ih => exact ih (server.apply peer_id peer_op)

end voip_signaling.session

namespace voip_signaling.handlers

open state session error async lru auth

variable {server : Server} {actor : Actor} {peer_id : String} {body : RegisterPeerRequest}

/-- What a `PUT` does once it has looked the peer up. -/
def update_found (peer_id : String) (body : RegisterPeerRequest) : Option PeerInfo → Async Outcome
  | none => return .error (.UnknownPeer peer_id)
  | some existing => do
    let now ← now_secs
    let info := updated_info peer_id body existing now
    match ← session.register_peer info none with
    | .error e => return .error e
    | .ok () => return .ok (.Peer (peer_response info))

theorem update_peer_eq {auth : AuthenticatedPeer} (hauth : auth.peer_id = peer_id) :
    update_peer auth peer_id body = session.get_peer peer_id >>= update_found peer_id body := by
  simp only [update_peer, hauth, ne_eq, not_true_eq_false, if_false]
  congr 1

/-- The server after the write of a `PUT`. -/
def written (server : Server) (info : PeerInfo) : Server :=
  { server with inner := server.inner.register_peer info none }

theorem run_update_found (hfree : server.peers_lock = none) {existing : PeerInfo} :
    (update_found peer_id body (some existing)).run (session.exec actor) server =
      some (.ok (.Peer (peer_response (updated_info peer_id body existing server.now_secs))),
        written server (updated_info peer_id body existing server.now_secs)) := by
  rw [update_found, run_now_secs]
  exact run_state (.register_peer _ none) hfree _

theorem run_update_peer_eq {auth : AuthenticatedPeer} (hauth : auth.peer_id = peer_id)
    (hfree : server.peers_lock = none) :
    (update_peer auth peer_id body).run (session.exec actor) server =
      (update_found peer_id body ((server.entry peer_id).map PeerEntry.info)).run (session.exec actor)
        (server.use_peer peer_id) := by
  rw [update_peer_eq hauth]
  exact run_get_peer hfree peer_id _

/-- One `PUT` of a peer among operations on the same peer, one critical section at a time. -/
def put_step (peer_id : String) : Server × Async Outcome → Option PeerOp → Option (Server × Async Outcome) :=
  Task.interleave (exec (.request 0)) (Server.apply peer_id)

def ignoring_last_seen (entry : PeerEntry) : PeerEntry :=
  { entry with info := { entry.info with last_seen := 0 } }

/-- If the `PUT` answers in the given interleaving, then some serial order of the same operations
gives the same answer and the same entry. -/
def Serialisable (server : Server) (auth : AuthenticatedPeer) (peer_id : String) (body : RegisterPeerRequest)
    (labels : List (Option PeerOp)) : Prop :=
  ∀ last outcome,
    async.exec (put_step peer_id) (server, update_peer auth peer_id body) labels = some (last, .done outcome) →
    ∃ (before after : List PeerOp) (middle : Server), (before ++ after).Perm labels.reduceOption ∧
      (update_peer auth peer_id body).run (exec (.request 0)) (before.foldl (Server.apply peer_id) server) =
        some (outcome, middle) ∧
      ((after.foldl (Server.apply peer_id) middle).entry peer_id).map ignoring_last_seen =
        (last.entry peer_id).map ignoring_last_seen

/-- A `PUT` that is about to write would compute the same from the entry as it is now. -/
def writes_current (peer_id : String) (body : RegisterPeerRequest) :
    Server × Async Outcome → Option PeerOp → Bool
  | (server, .act (.state (.register_peer info _)) _), none =>
    (server.entry peer_id).any fun entry => updated_info peer_id body entry.info info.last_seen = info
  | _, _ => true

theorem serialisable_of_done {auth : AuthenticatedPeer} {outcome : Outcome} {labels : List (Option PeerOp)}
    (hdone : update_peer auth peer_id body = .done outcome) : Serialisable server auth peer_id body labels := by
  intro last outcome' hexec
  rw [hdone] at hexec ⊢
  obtain ⟨ops, rfl, hlast⟩ := Task.interleave_done hexec
  cases hlast
  exact ⟨[], ops, server, by simp [List.reduceOption], rfl, rfl⟩

/-- The next action of a `PUT` that has a critical section ahead of it. -/
theorem put_state {op : Op} {resume : op.Answer → Async Outcome} {labels : List (Option PeerOp)} {last : Server}
    {outcome : Outcome}
    (hrun : Along (put_step peer_id) (fun before label _ => writes_current peer_id body before label = true)
      (server, .act (.state op) resume) labels)
    (hexec : async.exec (put_step peer_id) (server, .act (.state op) resume) labels = some (last, .done outcome)) :
    ∃ (ops : List PeerOp) (rest : List (Option PeerOp)), labels = ops.map some ++ none :: rest ∧
      (op.locks_peers = true → server.peers_lock = none) ∧
      writes_current peer_id body (ops.foldl (Server.apply peer_id) server, .act (.state op) resume) none = true ∧
      let now := (ops.foldl (Server.apply peer_id) server).instant
      let inner := (ops.foldl (Server.apply peer_id) server).inner
      Along (put_step peer_id) (fun before label _ => writes_current peer_id body before label = true)
        ({ ops.foldl (Server.apply peer_id) server with inner := (op.run now inner).2 },
          resume (op.run now inner).1) rest ∧
      async.exec (put_step peer_id)
        ({ ops.foldl (Server.apply peer_id) server with inner := (op.run now inner).2 },
          resume (op.run now inner).1) rest = some (last, .done outcome) := by
  obtain ⟨ops, rest, answer, next, hlabels, haction, hcurrent, halong, hrest⟩ :=
    Task.interleave_act hrun hexec
  obtain ⟨hfree, rfl, rfl⟩ := exec_state_eq_some.mp haction
  rw [(foldl_apply_fixed server peer_id ops).1] at hfree
  exact ⟨ops, rest, hlabels, hfree, hcurrent, halong, hrest⟩

/-- A write without a session keeps the one the entry has. -/
theorem entry_written {info : PeerInfo} (hinfo : info.peer_id = peer_id) :
    (written server info).entry peer_id = some { info, sender := (server.entry peer_id).bind PeerEntry.sender } := by
  subst hinfo
  exact InnerState.peek_register_peer_self _ _

/-- The part of an interleaving that follows a lookup which found the peer. -/
theorem put_found {existing : PeerInfo} {labels : List (Option PeerOp)} {last : Server} {outcome : Outcome}
    (hrun : Along (put_step peer_id) (fun before label _ => writes_current peer_id body before label = true)
      (server, update_found peer_id body (some existing)) labels)
    (hexec : async.exec (put_step peer_id) (server, update_found peer_id body (some existing)) labels =
      some (last, .done outcome)) :
    ∃ (before after : List PeerOp) (entry : PeerEntry) (info : PeerInfo),
      labels.reduceOption = before ++ after ∧ info = updated_info peer_id body entry.info server.now_secs ∧
      (before.foldl (Server.apply peer_id) server).entry peer_id = some entry ∧
      outcome = .ok (.Peer (peer_response info)) ∧
      last = after.foldl (Server.apply peer_id) (written (before.foldl (Server.apply peer_id) server) info) := by
  obtain ⟨first, rest, now, next, rfl, hnow, -, hrun, hexec⟩ := Task.interleave_act hrun hexec
  cases hnow
  obtain ⟨second, rest, rfl, -, hcurrent, -, hexec⟩ := put_state hrun hexec
  obtain ⟨after, rfl, hlast⟩ := Task.interleave_done hexec
  cases hlast
  -- The clock stood still, so the write carries the time of the read.
  have hclock : (first.foldl (Server.apply peer_id) server).now_secs = server.now_secs :=
    (foldl_apply_fixed server peer_id first).2
  dsimp only at hclock hcurrent
  rw [hclock] at hcurrent ⊢
  simp only [writes_current] at hcurrent
  cases hentry : (second.foldl (Server.apply peer_id) (first.foldl (Server.apply peer_id) server)).entry
      peer_id with
  | none => simp [hentry] at hcurrent
  | some entry =>
    simp only [hentry, Option.any_some, decide_eq_true_eq] at hcurrent
    refine ⟨first ++ second, after, entry, _, by simp [List.reduceOption], hcurrent.symm, ?_, rfl, ?_⟩
    · rw [List.foldl_append, hentry]
    · rw [List.foldl_append]
      rfl

/-- A `PUT` at the moment of its write, with no lookup before, has the same result. -/
theorem serial_write {auth : AuthenticatedPeer} (hauth : auth.peer_id = peer_id) {before between after : List PeerOp}
    {current : PeerEntry} {info : PeerInfo} {labels : List (Option PeerOp)}
    (hread : (before.foldl (Server.apply peer_id) server).peers_lock = none)
    (hinfo : info = updated_info peer_id body current.info (before.foldl (Server.apply peer_id) server).now_secs)
    (hops : labels.reduceOption = between ++ after)
    (hcurrent : (between.foldl (Server.apply peer_id)
      ((before.foldl (Server.apply peer_id) server).use_peer peer_id)).entry peer_id = some current) :
    ∃ (before' after' : List PeerOp) (middle : Server),
      (before' ++ after').Perm (before.map some ++ none :: labels).reduceOption ∧
      (update_peer auth peer_id body).run (exec (.request 0)) (before'.foldl (Server.apply peer_id) server) =
        some (.ok (.Peer (peer_response info)), middle) ∧
      ((after'.foldl (Server.apply peer_id) middle).entry peer_id).map ignoring_last_seen =
        ((after.foldl (Server.apply peer_id) (written (between.foldl (Server.apply peer_id)
          ((before.foldl (Server.apply peer_id) server).use_peer peer_id)) info)).entry peer_id).map
            ignoring_last_seen := by
  have hserial : ((before ++ between).foldl (Server.apply peer_id) server).entry peer_id = some current := by
    rw [entry_foldl_apply] at hcurrent
    rw [List.foldl_append, entry_foldl_apply, ← hcurrent, Server.entry, Server.entry, Server.peek_use_peer]
  have hfixed := foldl_apply_fixed (before.foldl (Server.apply peer_id) server) peer_id between
  rw [← List.foldl_append] at hfixed
  have hid : info.peer_id = peer_id := by rw [hinfo]; rfl
  refine ⟨before ++ between, after, written (((before ++ between).foldl (Server.apply peer_id) server).use_peer
    peer_id) info, ?_, ?_, ?_⟩
  · rw [List.reduceOption, List.filterMap_append, List.append_assoc, ← hops]
    simp [List.reduceOption]
  · rw [run_update_peer_eq hauth (hfixed.1.trans hread), hserial, Option.map_some]
    rw [run_update_found ((Server.peers_lock_use_peer peer_id).trans (hfixed.1.trans hread)), hinfo,
      ← hfixed.2]
    rfl
  · rw [entry_foldl_apply, entry_foldl_apply, entry_written hid, entry_written hid, hcurrent]
    rw [Server.entry, Server.peek_use_peer, ← Server.entry, hserial]

/-- An interleaving in which the `PUT` writes what it would compute from the entry at that moment is
serialisable: the whole request can be moved to the moment of its write. -/
theorem serialisable_of_writes_current (server : Server) (auth : AuthenticatedPeer) (peer_id : String)
    (body : RegisterPeerRequest) (labels : List (Option PeerOp))
    (hrun : Along (put_step peer_id) (fun before label _ => writes_current peer_id body before label = true)
      (server, update_peer auth peer_id body) labels) :
    Serialisable server auth peer_id body labels := by
  by_cases hauth : auth.peer_id = peer_id
  · intro last outcome hexec
    rw [update_peer_eq hauth] at hrun hexec
    obtain ⟨before, rest, rfl, hfree, -, hrun, hexec⟩ := put_state hrun hexec
    have hread : (before.foldl (Server.apply peer_id) server).peers_lock = none :=
      (foldl_apply_fixed server peer_id before).1.trans (hfree rfl)
    cases hentry : (before.foldl (Server.apply peer_id) server).entry peer_id with
    | none =>
      have hfound : ((Op.get_peer peer_id).run (before.foldl (Server.apply peer_id) server).instant
          (before.foldl (Server.apply peer_id) server).inner).1 = none :=
        congrArg (Option.map PeerEntry.info) hentry
      rw [hfound] at hexec
      obtain ⟨after, rfl, hlast⟩ := Task.interleave_done hexec
      cases hlast
      refine ⟨before, after, _, by simp [List.reduceOption], ?_, rfl⟩
      rw [run_update_peer_eq hauth hread, hentry]
      rfl
    | some entry =>
      have hfound : ((Op.get_peer peer_id).run (before.foldl (Server.apply peer_id) server).instant
          (before.foldl (Server.apply peer_id) server).inner).1 = some entry.info :=
        congrArg (Option.map PeerEntry.info) hentry
      rw [hfound] at hrun hexec
      obtain ⟨between, after, current, info, hops, hinfo, hcurrent, rfl, rfl⟩ := put_found hrun hexec
      exact serial_write hauth hread hinfo hops hcurrent
  · have hdone : update_peer auth peer_id body =
        .done (.error (.Unauthorized "authenticated peer_id does not match target")) := by
      simp [update_peer, hauth]
    exact serialisable_of_done hdone

end voip_signaling.handlers

namespace voip_signaling.server

open state session handlers async

/-- An update that leaves everything but the status as it is. -/
def goes_online : RegisterPeerRequest where
  peer_id := "alice"
  display_name := ""
  ipv6_addresses := []
  ipv4_reflexive := []
  nat_type := none
  status := some "ONLINE"
  fcm_token := none

/-- An update that names the status may overlap with a disconnect. -/
theorem serialisable_with_disconnect :
    Serialisable (Server.with_peers [.named "alice" (some 1)]) ⟨"alice"⟩ "alice" goes_online
      [none, some .disconnect, none, none] :=
  serialisable_of_writes_current _ _ _ _ _ (by decide +kernel)

/-- An update that overlaps with an unregistration brings the peer back and reports success. -/
theorem not_serialisable_with_unregister :
    ¬ Serialisable (Server.with_peers [.named "alice" (some 1)]) ⟨"alice"⟩ "alice" goes_online
      [none, some .unregister, none, none] := by
  intro hserialisable
  obtain ⟨before, after, middle, hperm, hrun, hentry⟩ := hserialisable _ _ rfl
  obtain ⟨rfl, rfl⟩ | ⟨rfl, rfl⟩ := List.append_eq_singleton_iff.mp (List.perm_singleton.mp hperm)
  · -- After the update the peer would be gone.
    rw [entry_foldl_apply] at hentry
    change none = _ at hentry
    exact absurd hentry (by decide +kernel)
  · -- Before the update there would be nothing to update.
    cases hrun

end voip_signaling.server
