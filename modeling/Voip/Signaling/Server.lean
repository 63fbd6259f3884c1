import Voip.Async.Trace
import Voip.Signaling.Handlers
import Voip.Signaling.Session

namespace voip_signaling.server

open async state session auth handlers error

/-- Where the receive loop of a session stands: waiting for the client, handling one
message, cleaning up, or returned. -/
inductive Receive where
  | idle
  | handling (framed : FramedMessage) (task : Async Unit)
  | closing (task : Async Unit)
  | ended

/-- Where the forward task of a session stands: waiting for its channel, writing one
message to the WebSocket, cleaning up, or returned. It owns the receiving end of the
channel until it returns. -/
inductive Forward where
  | receiving
  | writing (message : FramedMessage)
  | finishing (task : Async Unit)
  | ended

/-- A request that passed the middleware, with the identity its handler sees. -/
structure Pending where
  endpoint : Endpoint
  authorization : Option wire.Bytes
  auth : AuthenticatedPeer
  task : Async Outcome

/-- The token that a session was opened with, and the clock at which it was verified. -/
structure Credential where
  token : String
  now_secs : Nat

set_option linter.dupNamespace false in
/-- The server does not keep the credentials of its sessions; they are recorded here to speak of them. -/
structure System where
  server : Server
  receive : SessionId → Receive
  forward : SessionId → Forward
  requests : Nat → Option Pending
  credentials : SessionId → Option Credential

def System.init (rate_limits : rate_limit.RateLimitConfig) (state : AppState) : System where
  server :=
    { inner := InnerState.new rate_limits state.config
      peers_lock := none
      sessions := fun _ => none
      channels := fun _ => { queue := [], receiver_open := false }
      now_secs := 0
      instant := 0 }
  receive := fun _ => .ended
  forward := fun _ => .ended
  requests := fun _ => none
  credentials := fun _ => none

/-- The moves of clients, network, clocks and scheduler. -/
inductive Event where
  | upgrade (s : SessionId) (token : String)
  | message (s : SessionId) (data : wire.Bytes)
  | close (s : SessionId)
  | receive_loop (s : SessionId)
  | take (s : SessionId)
  | wrote (s : SessionId)
  | write_fails (s : SessionId)
  | drained (s : SessionId)
  | forward_task (s : SessionId)
  | request (r : Nat) (endpoint : Endpoint) (authorization : Option wire.Bytes)
  | handler (r : Nat)
  | cancel (r : Nat)
  | add_proxy (proxy : ProxyInfo)
  | set_clock (secs : Nat)
  | elapse (nanos : Nat)
  | cleanup

def Receive.handled (framed : FramedMessage) : Async Unit → Receive
  | .done _ => .idle
  | task => .handling framed task

def Receive.closed : Async Unit → Receive
  | .done _ => .ended
  | task => .closing task

namespace System

variable (sys : System)

def set_receive (s : SessionId) (receive : Receive) : System :=
  { sys with receive := Function.update sys.receive s receive }

def set_forward (s : SessionId) (forward : Forward) : System :=
  { sys with forward := Function.update sys.forward s forward }

/-- A new session with its channel and its two tasks. -/
def open_session (s : SessionId) (token peer_id : String) : System where
  server := (sys.server.set_session s (Session.new peer_id)).set_channel s
    { queue := [], receiver_open := true }
  receive := Function.update sys.receive s .idle
  forward := Function.update sys.forward s .receiving
  requests := sys.requests
  credentials := Function.update sys.credentials s (some ⟨token, sys.server.now_secs⟩)

/-- The receiving end of a session's channel is dropped, and with it what was queued. -/
def drop_receiver (s : SessionId) : System :=
  { sys with server := sys.server.set_channel s { queue := [], receiver_open := false } }

/-- The forward task goes on with its cleanup; when it returns, the channel closes. -/
def finish (s : SessionId) : Async Unit → System
  | .done _ => (sys.drop_receiver s).set_forward s .ended
  | task => sys.set_forward s (.finishing task)

/-- No registry entry holds the channel of a session. -/
def unregistered (s : SessionId) : Bool :=
  sys.server.inner.peers.entries.entries.all fun entry => entry.2.sender ≠ some s

end System

def step (state : AppState) (sys : System) : Event → Option System
  | .upgrade s token =>
    match sys.server.sessions s with
    | some _ => none
    | none =>
      match jwt.verify_jwt state.serde state.ed25519 state.verifying_key token sys.server.now_secs with
      | .error _ => some sys
      | .ok claims => some (sys.open_session s token claims.sub)
  | .message s data =>
    match sys.receive s with
    | .idle =>
      match FramedMessage.from_bytes data with
      | none => some sys
      | some framed => some (sys.set_receive s (.handling framed (receive_message state s framed)))
    | _ => none
  | .close s =>
    match sys.receive s with
    | .idle => some (sys.set_receive s (.closing (session.cleanup s)))
    | _ => none
  | .receive_loop s =>
    match sys.receive s with
    | .handling framed (.act action resume) =>
      (exec (.receive_loop s) action sys.server).map fun (answer, server) =>
        { sys with server }.set_receive s (.handled framed (resume answer))
    | .closing (.act action resume) =>
      (exec (.receive_loop s) action sys.server).map fun (answer, server) =>
        { sys with server }.set_receive s (.closed (resume answer))
    | _ => none
  | .take s =>
    match sys.forward s, (sys.server.channels s).queue with
    | .receiving, message :: queue =>
      let server := sys.server.set_channel s { sys.server.channels s with queue }
      some ({ sys with server }.set_forward s (.writing message))
    | _, _ => none
  | .wrote s =>
    match sys.forward s with
    | .writing _ => some (sys.set_forward s .receiving)
    | _ => none
  | .write_fails s =>
    match sys.forward s with
    | .writing _ => some (sys.set_forward s (.finishing (session.cleanup s)))
    | _ => none
  | .drained s =>
    match sys.forward s, sys.receive s with
    | .receiving, .ended =>
      if (sys.server.channels s).queue = [] ∧ sys.unregistered s then
        some (sys.set_forward s (.finishing (session.cleanup s)))
      else none
    | _, _ => none
  | .forward_task s =>
    match sys.forward s with
    | .finishing (.act action resume) =>
      (exec (.forward_task s) action sys.server).map fun (answer, server) =>
        { sys with server }.finish s (resume answer)
    | _ => none
  | .request r endpoint authorization =>
    match sys.requests r with
    | some _ => none
    | none =>
      match auth_middleware state sys.server.now_secs endpoint.path endpoint.method authorization with
      | .error _ => some sys
      | .ok auth =>
        let task := handle state auth endpoint
        some { sys with
          requests := Function.update sys.requests r (some { endpoint, authorization, auth, task }) }
  | .handler r =>
    match sys.requests r with
    | some { endpoint, authorization, auth, task := .act action resume } =>
      (exec (.request r) action sys.server).map fun (answer, server) =>
        let task := resume answer
        { sys with
          server
          requests := Function.update sys.requests r (some { endpoint, authorization, auth, task }) }
    | _ => none
  | .cancel r => some { sys with requests := Function.update sys.requests r none }
  | .add_proxy proxy =>
    let proxies := sys.server.inner.proxies ++ [proxy]
    some { sys with server := { sys.server with inner := { sys.server.inner with proxies } } }
  | .set_clock secs => some { sys with server := { sys.server with now_secs := secs } }
  | .elapse nanos =>
    some { sys with server := { sys.server with instant := sys.server.instant + nanos } }
  | .cleanup =>
    let rate_limiter := sys.server.inner.rate_limiter.cleanup state.next_key sys.server.instant
    some { sys with server := { sys.server with inner := { sys.server.inner with rate_limiter } } }

end voip_signaling.server
