import Voip.Async.Outcome
import Voip.Signaling.AppState

namespace voip_signaling.session

open state error async lru

variable {α : Type} {actor : Actor} {server : Server}

/-- A critical section that gets its lock runs at once. -/
theorem run_state (op : Op) (hfree : server.peers_lock = none) (f : op.Answer → Async α) :
    (perform (.state op) >>= f).run (exec actor) server =
      (f (op.run server.instant server.inner).1).run (exec actor)
        { server with inner := (op.run server.instant server.inner).2 } := by
  have hexec : exec actor (.state op) server = some ((op.run server.instant server.inner).1,
      { server with inner := (op.run server.instant server.inner).2 }) := by
    simp [exec, hfree]
  exact (Task.run_act _ _ _).trans (by rw [hexec]; rfl)

/-- A lookup of a peer counts as a use of its entry. -/
def Server.use_peer (server : Server) (peer_id : String) : Server :=
  { server with inner := (server.inner.get_peer peer_id).2 }

@[simp] theorem Server.peers_lock_use_peer (peer_id : String) :
    (server.use_peer peer_id).peers_lock = server.peers_lock := rfl

@[simp] theorem Server.peek_use_peer (peer_id query : String) :
    (server.use_peer peer_id).inner.peers.peek query = server.inner.peers.peek query := by
  simp [Server.use_peer, InnerState.get_peer]

theorem run_get_peer (hfree : server.peers_lock = none) (peer_id : String) (f : Option PeerInfo → Async α) :
    (get_peer peer_id >>= f).run (exec actor) server =
      (f ((server.inner.peers.peek peer_id).map PeerEntry.info)).run (exec actor) (server.use_peer peer_id) :=
  run_state (.get_peer peer_id) hfree f

@[simp] theorem run_now_secs (f : Nat → Async α) :
    (now_secs >>= f).run (exec actor) server = (f server.now_secs).run (exec actor) server := rfl

end voip_signaling.session
