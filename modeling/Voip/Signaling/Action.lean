import Voip.Async.Task
import Voip.Signaling.State
import Mathlib.Logic.Function.Basic

namespace voip_signaling.state

open rate_limit error

/-- The critical sections on the shared state: each runs without suspension once it
has its locks. -/
inductive Op where
  | check (action : Action) (peer_id : String)
  | register_peer (info : PeerInfo) (sender : Option SessionSender)
  | unregister_peer (peer_id : String)
  | disconnect_peer (peer_id : String)
  | get_peer (peer_id : String)
  | find_peer (accepts : PeerEntry → Bool)
  | create_call (call : CallEntry)
  | update_call_state (call_id : String) (new_state : Int)
  | end_call (call_id : String) (now : Nat) (reason : Option String)
  | remove_call (call_id : String)
  | get_call (call_id : String)
  | get_proxies
  | get_dht_bootstrap

namespace Op

abbrev Answer : Op → Type
  | .check .. => Bool
  | .register_peer .. | .unregister_peer _ => Except SignalingError Unit
  | .disconnect_peer _ | .remove_call _ => Unit
  | .get_peer _ => Option PeerInfo
  | .find_peer _ => Option PeerEntry
  | .create_call _ | .update_call_state .. | .end_call .. => Except SignalingError Unit
  | .get_call _ => Option CallEntry
  | .get_proxies => List ProxyInfo
  | .get_dht_bootstrap => List String

/-- Whether the section runs under the lock of the peer registry. -/
def locks_peers : Op → Bool
  | .register_peer .. | .unregister_peer _ | .disconnect_peer _ | .get_peer _ | .find_peer _ => true
  | .create_call _ => true
  | _ => false

def run (now : Nat) (inner : InnerState) : (op : Op) → op.Answer × InnerState
  | .check action peer_id =>
    -- no time passes inside a critical section, so both readings of the clock are the same
    let (allowed, rate_limiter) := inner.rate_limiter.check peer_id action now now
    (allowed, { inner with rate_limiter })
  | .register_peer info sender => (.ok (), inner.register_peer info sender)
  | .unregister_peer peer_id => (.ok (), inner.unregister_peer peer_id)
  | .disconnect_peer peer_id => ((), inner.disconnect_peer peer_id)
  | .get_peer peer_id => inner.get_peer peer_id
  | .find_peer accepts => ((inner.peers.entries.entries.map Sigma.snd).find? accepts, inner)
  | .create_call call => inner.create_call call
  | .update_call_state call_id new_state => inner.update_call_state call_id new_state
  | .end_call call_id now reason => inner.end_call call_id now reason
  | .remove_call call_id => ((), inner.remove_call call_id)
  | .get_call call_id => inner.get_call call_id
  | .get_proxies => (inner.proxies, inner)
  | .get_dht_bootstrap => (inner.dht_bootstrap, inner)

end Op

end voip_signaling.state

namespace voip_signaling.session

open state error async

abbrev SessionId := SessionSender

def SESSION_CHANNEL_CAPACITY : Nat := 256

/-- The asynchronous tasks of the server: a session's receive loop and forward task,
and the handler of a REST request. -/
inductive Actor where
  | receive_loop (s : SessionId)
  | forward_task (s : SessionId)
  | request (r : Nat)
  deriving DecidableEq, Repr

/-- What the two tasks of a session share: the peer id the session was opened with, the
mutex-protected peer id it acts as, and the `disconnected` flag. -/
structure Session where
  peer_id : String
  peer_id_holder : Option String
  holder_lock : Option Actor
  disconnected : Bool
  deriving DecidableEq, Repr

def Session.new (peer_id : String) : Session where
  peer_id := peer_id
  peer_id_holder := some peer_id
  holder_lock := none
  disconnected := false

/-- The bounded channel into a session. -/
structure Channel where
  queue : List FramedMessage
  receiver_open : Bool

/-- Everything the tasks share. The lock of the peer registry is held across a
suspension only by `send_to_peer`, on its way into the channel of a session. -/
structure Server where
  inner : InnerState
  peers_lock : Option (Actor × SessionId)
  sessions : SessionId → Option Session
  channels : SessionId → Channel
  now_secs : Nat
  instant : Nat

/-- One of the tasks of the session has already disconnected its peer. -/
def Disconnected (s : SessionId) (server : Server) : Prop :=
  ∃ session, server.sessions s = some session ∧ session.disconnected = true

inductive Action where
  | lock_holder (s : SessionId)
  | unlock_holder (s : SessionId)
  | read_holder (s : SessionId)
  | write_holder (s : SessionId) (peer_id : Option String)
  | claim_disconnect (s : SessionId)
  | send (s : SessionId) (message : FramedMessage)
  | find_sender (peer_id : String)
  | send_holding_peers (message : FramedMessage)
  | now_secs
  | state (op : Op)

abbrev Action.Answer : Action → Type
  | .lock_holder _ | .read_holder _ => Option String
  | .unlock_holder _ | .write_holder .. => Unit
  | .claim_disconnect _ | .send .. | .send_holding_peers _ => Bool
  | .find_sender _ => Except SignalingError SessionId
  | .now_secs => Nat
  | .state op => op.Answer

namespace Server

variable (server : Server)

def set_session (s : SessionId) (session : Session) : Server :=
  { server with sessions := Function.update server.sessions s (some session) }

def set_channel (s : SessionId) (channel : Channel) : Server :=
  { server with channels := Function.update server.channels s channel }

/-- `Sender::send`: it fails once the receiver is gone, and waits while the channel is full. -/
def channel_send (s : SessionId) (message : FramedMessage) : Option (Bool × Server) :=
  let channel := server.channels s
  if !channel.receiver_open then some (false, server)
  else if channel.queue.length < SESSION_CHANNEL_CAPACITY then
    some (true, server.set_channel s { channel with queue := channel.queue ++ [message] })
  else none

/-- A critical section on the holder of a session, which waits while its mutex is held. -/
def with_holder {α : Type} (s : SessionId) (f : Session → α × Session) : Option (α × Server) :=
  match server.sessions s with
  | none => none
  | some session =>
    if session.holder_lock = none then
      some ((f session).1, server.set_session s (f session).2)
    else none

end Server

/-- One atomic action of a task, or `none` while the task has to wait. -/
def exec (actor : Actor) : (action : Action) → Server → Option (action.Answer × Server)
  | .lock_holder s, server => server.with_holder s fun session =>
      (session.peer_id_holder, { session with holder_lock := some actor })
  | .unlock_holder s, server =>
    match server.sessions s with
    | none => none
    | some session => some ((), server.set_session s { session with holder_lock := none })
  | .read_holder s, server => server.with_holder s fun session => (session.peer_id_holder, session)
  | .write_holder s peer_id, server => server.with_holder s fun session =>
      ((), { session with peer_id_holder := peer_id })
  | .claim_disconnect s, server =>
    match server.sessions s with
    | none => none
    | some session =>
      some (!session.disconnected, server.set_session s { session with disconnected := true })
  | .send s message, server => server.channel_send s message
  | .find_sender peer_id, server =>
    if server.peers_lock = none then
      let (found, inner) := server.inner.find_sender peer_id
      some (found, { server with inner, peers_lock := found.toOption.map fun s => (actor, s) })
    else none
  | .send_holding_peers message, server =>
    match server.peers_lock with
    | none => none
    | some (holder, s) =>
      if holder = actor then
        (server.channel_send s message).map fun (sent, server) => (sent, { server with peers_lock := none })
      else none
  | .now_secs, server => some (server.now_secs, server)
  | .state op, server =>
    if op.locks_peers ∧ server.peers_lock ≠ none then none
    else
      let (answer, inner) := op.run server.instant server.inner
      some (answer, { server with inner })

abbrev sig : Signature := ⟨Action, Action.Answer⟩

/-- Asynchronous code of the server. -/
abbrev Async (α : Type) := Task sig α

abbrev perform (action : Action) : Async action.Answer := Task.perform (S := sig) action

end voip_signaling.session
