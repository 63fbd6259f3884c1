import Voip.Core.Config
import Voip.Core.Types
import Voip.Fallback.Chain
import Voip.Machine.Checked
import Mathlib.Data.List.MinMax

namespace voip_client.connection

open wire fallback checked voip_core.config voip_core.types voip_core.proto.signaling

inductive IpAddr where
  | V4 (octets : BitVec 32)
  | V6 (octets : BitVec 128)
  deriving DecidableEq

structure SocketAddr where
  ip : IpAddr
  port : UInt16
  deriving DecidableEq

def parse_number (bound : Nat) (digits : List Char) : Option Nat :=
  if digits.isEmpty || !digits.all Char.isDigit then none
  else
    let value := digits.foldl (fun value digit => value * 10 + (digit.toNat - '0'.toNat)) 0
    if value < bound then some value else none

/-- An octet has no leading zero. -/
def parse_octet (digits : List Char) : Option Nat :=
  if 1 < digits.length && digits.head? = some '0' then none else parse_number 256 digits

/-- What the parser of the standard library makes of an IPv4 address and a port; it reads IPv6
addresses as well. -/
def parse_v4 (text : String) : Option SocketAddr :=
  match text.toList.splitOn ':' with
  | [ip, port] =>
    match ip.splitOn '.' with
    | [a, b, c, d] => do
      let a ← parse_octet a
      let b ← parse_octet b
      let c ← parse_octet c
      let d ← parse_octet d
      let port ← parse_number 65536 port
      return ⟨.V4 (BitVec.ofNat 32 (((a * 256 + b) * 256 + c) * 256 + d)), UInt16.ofNat port⟩
    | _ => none
  | _ => none

def SocketAddr.is_ipv6 (addr : SocketAddr) : Bool :=
  match addr.ip with
  | .V4 _ => false
  | .V6 _ => true

/-- Of a QUIC connection only the address of the other side is looked at. -/
structure Connection where
  remote_address : SocketAddr
  deriving DecidableEq

inductive MasqueTransport where
  | Http3
  | Http2
  deriving DecidableEq

structure MasqueTunnel where
  proxy_url : String
  transport : MasqueTransport
  quic_conn : Connection
  call_id : String
  deriving DecidableEq

structure VoipConnection where
  quic_connection : Connection
  method : ConnectionMethod
  masque_tunnel : Option MasqueTunnel
  deriving DecidableEq

def VoipConnection.new_direct (method : ConnectionMethod) (connection : Connection) : VoipConnection where
  quic_connection := connection
  method := method
  masque_tunnel := none

def VoipConnection.new_masque (method : ConnectionMethod) (tunnel : MasqueTunnel) : VoipConnection where
  quic_connection := tunnel.quic_conn
  method := method
  masque_tunnel := some tunnel

/-- The stages of the fallback chain, in the documented order. -/
inductive Stage where
  | Ipv6
  | SimultaneousOpen
  | PortPrediction
  | MasqueHttp3
  | MasqueHttp2
  deriving DecidableEq, Repr

def Stage.rank : Stage → Nat
  | .Ipv6 => 1
  | .SimultaneousOpen => 2
  | .PortPrediction => 3
  | .MasqueHttp3 => 4
  | .MasqueHttp2 => 5

/-- Whether the stage goes to the peer and not to a proxy. -/
def Stage.is_direct : Stage → Bool
  | .Ipv6 | .SimultaneousOpen | .PortPrediction => true
  | .MasqueHttp3 | .MasqueHttp2 => false

/-- Whether the stage needs UDP. -/
def Stage.is_udp (stage : Stage) : Bool := stage ≠ .MasqueHttp2

inductive Target where
  | peer (addr : SocketAddr)
  | incoming
  | proxy (proxy_url : String)
  deriving DecidableEq

/-- An attempt and the connection that comes of it, if it is left to finish. -/
structure Attempt where
  target : Target
  conn : Option Connection
  deriving DecidableEq

/-- Attempts of a stage that run at the same time. -/
structure Batch where
  stage : Stage
  attempts : List Attempt
  nonempty : attempts ≠ []
  deriving DecidableEq

def Batch.Won (batch : Batch) : Prop := ∃ attempt ∈ batch.attempts, attempt.conn.isSome

/-- What comes of an attempt, and when. An error, a timeout and a task that is cancelled or
panics are all the same to the chain. -/
structure Trial where
  finished_at : Nat
  conn : Option Connection

inductive Side where
  | accept
  | connect
  deriving DecidableEq

/-- How the tasks of a simultaneous open meet the loop that waits for them. -/
structure Race where
  /-- the side whose result the first `select!` takes -/
  first : Side
  /-- whether the other task has finished when the loop looks at it the n-th time after that -/
  finished : Nat → Bool
  lasting : ∀ n, finished n → finished (n + 1)
  /-- whether the second `select!` polls the other side before the one that has finished -/
  polls_other_first : Bool
  /-- the attempts that the connect task has begun, should the race end before it does -/
  begun : Nat

/-- What the network and the scheduler make of the attempts. -/
structure Network where
  /-- what comes of the n-th attempt of a stage -/
  connect : Stage → Nat → Trial
  /-- the connection that comes in during the simultaneous open -/
  accept : Option Connection
  race : Race

structure ConnectionManager where
  config : TraversalConfig
  local_nat_info : Option NATInfo
  udp_blocked : Bool

def proto_nat_info_to_native (proto : Option NatInfo) : NATInfo :=
  (proto.map NATInfo.of_proto).getD NATInfo.no_nat

/-- Makes the attempts of a stage one after the other. -/
def in_turn {ι α : Type} (network : Network) (stage : Stage) (start : Nat) (candidates : List ι)
    (target : ι → Target) (wrap : ι → Connection → α) : Run Batch α :=
  .firstOf <| (candidates.zipIdx start).map fun (candidate, i) =>
    let conn := (network.connect stage i).conn
    (⟨stage, [⟨target candidate, conn⟩], List.cons_ne_nil _ _⟩, conn.map (wrap candidate))

/-- The first of some trials to succeed. -/
def first_success (trials : List Trial) : Option Connection :=
  ((trials.filter (·.conn.isSome)).argmin (·.finished_at)).bind (·.conn)

/-- Makes all attempts of a stage at the same time and takes the first that succeeds. -/
def at_once (network : Network) (stage : Stage) (addrs : List SocketAddr) : Run Batch Connection :=
  if haddrs : addrs = [] then .skip
  else
    .single
      ⟨stage, addrs.zipIdx.map fun (addr, i) => ⟨.peer addr, (network.connect stage i).conn⟩,
        by simpa using haddrs⟩
      (first_success (addrs.zipIdx.map fun (_, i) => network.connect stage i))

/-- The loop around `select!`, once it has taken the result of the first side. The handle of
that side must not be polled again. -/
def select_loop (race : Race) (first other : Option Connection) : Outcome Connection :=
  match first with
  | some conn => .ok conn
  | none =>
    -- the branch that took the error breaks if the other task has finished, whatever its result
    if race.finished 0 then .failed
    -- and so does the end of the loop
    else if race.finished 1 then .failed
    -- in the next round only a poll of the other side that finds it ready avoids the panic
    else if race.polls_other_first && race.finished 2 then .ofOption other
    else .panicked

def connect_task (network : Network) (peer_addrs : List SocketAddr) : Run Batch Connection :=
  in_turn network .SimultaneousOpen 0 peer_addrs .peer fun _ conn => conn

/-- Whether the connect task has run to its end when the loop is left. -/
def connect_finished (network : Network) : Bool :=
  let race := network.race
  race.first = .connect ||
    network.accept.isNone && (race.finished 0 || race.finished 1 || race.polls_other_first && race.finished 2)

/-- The attempts that the connect task makes before the loop is left. -/
def connects_made (network : Network) (peer_addrs : List SocketAddr) : List Attempt :=
  let connects := (connect_task network peer_addrs).batches.flatMap (·.attempts)
  if connect_finished network then connects else connects.take network.race.begun

def try_simultaneous_open_full (network : Network) (peer_addrs : List SocketAddr) : Run Batch Connection :=
  let connected := (connect_task network peer_addrs).outcome.toOption
  { batches :=
      [⟨.SimultaneousOpen, ⟨.incoming, network.accept⟩ :: connects_made network peer_addrs, List.cons_ne_nil _ _⟩]
    outcome :=
      match network.race.first with
      | .accept => select_loop network.race network.accept connected
      | .connect => select_loop network.race connected network.accept }

/-- The ports from one to another, both included. -/
def ports_between (port_start : UInt16) (effective_end : Nat) : List UInt16 :=
  (List.range (effective_end + 1 - port_start.toNat)).map fun i => port_start + UInt16.ofNat i

/-- The ports that `probe_range` tries. The size of the range is only logged. -/
def probe_ports (build : Build) (config : TraversalConfig) (port_start port_end : UInt16) :
    Except Fault (List UInt16) := do
  let _range_size ← build.word 32 ((← build.sub 32 port_end.toNat port_start.toNat) + 1)
  let max_probes := config.prediction_max_probes
  let last ← build.sub 16 (← build.word 16 (port_start.toNat + max_probes.toUInt16.toNat)) 1
  return ports_between port_start (min port_end.toNat last)

def hex_encode (bytes : Bytes) : String :=
  .ofList <| bytes.flatMap fun byte => [(byte.toNat / 16).digitChar, (byte.toNat % 16).digitChar]

def try_masque (stage : Stage) (transport : MasqueTransport) (method : ConnectionMethod) (network : Network)
    (config : TraversalConfig) (proxy_records : List ProxyRecord) (connection_id : Bytes) :
    Run Batch VoipConnection :=
  in_turn network stage 0 (proxy_records.take config.masque_max_proxy_attempts.toNat) (.proxy ·.proxy_url)
    fun proxy conn => .new_masque method
      { proxy_url := proxy.proxy_url, transport := transport, quic_conn := conn,
        call_id := hex_encode connection_id }

def try_masque_http3 := try_masque .MasqueHttp3 .Http3 .Masque

def try_masque_http2 := try_masque .MasqueHttp2 .Http2 .MasqueHttp2

section

-- the build of the client, and the parser of socket addresses of the standard library
variable (build : Build) (parse : String → Option SocketAddr)

def try_happy_eyeballs (network : Network) (peer : PeerRecord) : Run Batch VoipConnection :=
  let ipv6_addrs := peer.ipv6_addresses.filterMap parse
  let ipv4_addrs := peer.ipv4_reflexive.filterMap parse
  (at_once network .Ipv6 (ipv6_addrs ++ ipv4_addrs)).map fun conn =>
    .new_direct (if conn.remote_address.is_ipv6 then .Ipv6Direct else .Ipv4Cone) conn

def try_ipv6_direct (network : Network) (peer : PeerRecord) : Run Batch VoipConnection :=
  in_turn network .Ipv6 0 (peer.ipv6_addresses.filterMap parse) .peer fun _ => .new_direct .Ipv6Direct

def try_simultaneous_open (network : Network) (peer : PeerRecord) : Run Batch VoipConnection :=
  let peer_addrs := peer.ipv4_reflexive.filterMap parse
  if peer_addrs.isEmpty then .skip
  else
    ((try_simultaneous_open_full network peer_addrs).map (.new_direct .Ipv4Cone)).orElse
      (in_turn network .SimultaneousOpen peer_addrs.length peer_addrs .peer fun _ => .new_direct .Ipv4Cone)

def probe_range (network : Network) (config : TraversalConfig) (target_ip : String)
    (port_start port_end : UInt16) : Run Batch Connection :=
  match probe_ports build config port_start port_end with
  | .ok ports =>
    at_once network .PortPrediction <| ports.filterMap fun port =>
      parse (target_ip ++ ":" ++ toString port.toNat)
  | .error _ => .panic

def try_port_prediction (network : Network) (config : TraversalConfig) (peer : PeerRecord)
    (local_nat : Option NATInfo) : Run Batch VoipConnection :=
  let peer_prediction := (proto_nat_info_to_native peer.nat_info).prediction
  let local_prediction := local_nat.bind (·.prediction)
  if peer_prediction.isNone && local_prediction.isNone then .skip
  else
    match peer_prediction with
    | some prediction =>
      (probe_range build parse network config prediction.external_ip prediction.predicted_port_start.toUInt16
        prediction.predicted_port_end.toUInt16).map (.new_direct .Ipv4Prediction)
    | none => .skip

/-- The chain of fallbacks. A run that fails stands for the error `AllMethodsFailed`. -/
def ConnectionManager.establish_connection (manager : ConnectionManager) (network : Network)
    (peer : PeerRecord) (connection_id : Bytes) (proxy_records : List ProxyRecord) :
    Run Batch VoipConnection :=
  let config := manager.config
  let local_nat := manager.local_nat_info
  let udp_blocked := manager.udp_blocked
  let peer_nat := proto_nat_info_to_native peer.nat_info
  let ipv6 :=
    if !peer.ipv6_addresses.isEmpty && !udp_blocked then
      if !peer.ipv4_reflexive.isEmpty then try_happy_eyeballs parse network peer
      else try_ipv6_direct parse network peer
    else .skip
  let local_has_cone := local_nat.any (·.nat_type = .Cone)
  let peer_has_cone := peer_nat.nat_type = .Cone
  let simultaneous_open :=
    if (local_has_cone || peer_has_cone) && !udp_blocked then try_simultaneous_open parse network peer
    else .skip
  let local_predictable := local_nat.any (·.nat_type.is_predictable)
  let peer_predictable := peer_nat.nat_type.is_predictable
  let port_prediction :=
    if (local_predictable || peer_predictable) && !udp_blocked then
      try_port_prediction build parse network config peer local_nat
    else .skip
  let masque :=
    if config.masque_fallback_enabled && !proxy_records.isEmpty then
      (if !udp_blocked then try_masque_http3 network config proxy_records connection_id else .skip).orElse
        (try_masque_http2 network config proxy_records connection_id)
    else .skip
  ipv6.orElse (simultaneous_open.orElse (port_prediction.orElse masque))

end

end voip_client.connection
