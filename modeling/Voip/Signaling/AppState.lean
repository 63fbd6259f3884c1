import Voip.Signaling.Action

namespace voip_signaling.session

open state error async

def lock_holder (s : SessionId) : Async (Option String) := perform (.lock_holder s)
def unlock_holder (s : SessionId) : Async Unit := perform (.unlock_holder s)
def read_holder (s : SessionId) : Async (Option String) := perform (.read_holder s)
def write_holder (s : SessionId) (peer_id : Option String) : Async Unit :=
  perform (.write_holder s peer_id)
def claim_disconnect (s : SessionId) : Async Bool := perform (.claim_disconnect s)
def send (s : SessionId) (message : FramedMessage) : Async Bool := perform (.send s message)
def now_secs : Async Nat := perform .now_secs

/-- `tx.send` of an error message, whose result the handlers ignore. -/
def send_error (s : SessionId) (code : Nat) (message : String) : Async Unit := do
  let _ ← send s (FramedMessage.error code message)

def check_call (peer_id : String) : Async Bool := perform (.state (.check .Call peer_id))
def check_registration (peer_id : String) : Async Bool :=
  perform (.state (.check .Registration peer_id))
def check_ws_message (peer_id : String) : Async Bool :=
  perform (.state (.check .WsMessage peer_id))

def register_peer (info : PeerInfo) (sender : Option SessionSender) :
    Async (Except SignalingError Unit) := perform (.state (.register_peer info sender))
def unregister_peer (peer_id : String) : Async (Except SignalingError Unit) :=
  perform (.state (.unregister_peer peer_id))
def disconnect_peer (peer_id : String) : Async Unit := perform (.state (.disconnect_peer peer_id))
def get_peer (peer_id : String) : Async (Option PeerInfo) := perform (.state (.get_peer peer_id))
def find_peer (accepts : PeerEntry → Bool) : Async (Option PeerEntry) :=
  perform (.state (.find_peer accepts))

/-- The registry stays locked from the lookup until the message is in the channel. -/
def send_to_peer (peer_id : String) (message : FramedMessage) : Async (Except SignalingError Unit) := do
  let found : Except SignalingError SessionId ← perform (.find_sender peer_id)
  match found with
  | .error e => return .error e
  | .ok _ =>
    let sent : Bool ← perform (.send_holding_peers message)
    return if sent then .ok () else .error (.PeerOffline peer_id)

def create_call (call : CallEntry) : Async (Except SignalingError Unit) :=
  perform (.state (.create_call call))
def update_call_state (call_id : String) (new_state : Int) : Async (Except SignalingError Unit) :=
  perform (.state (.update_call_state call_id new_state))
def end_call (call_id : String) (reason : Option String) : Async (Except SignalingError Unit) := do
  let now ← now_secs
  perform (.state (.end_call call_id now reason))
def remove_call (call_id : String) : Async Unit := perform (.state (.remove_call call_id))
def get_call (call_id : String) : Async (Option CallEntry) := perform (.state (.get_call call_id))

def get_proxies : Async (List ProxyInfo) := perform (.state .get_proxies)
def get_dht_bootstrap : Async (List String) := perform (.state .get_dht_bootstrap)

end voip_signaling.session
