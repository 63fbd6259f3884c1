import Voip.Wire.QuicVarint

namespace voip_client.moq

open wire

inductive MoqError where
  | InvalidState (expected got : String)
  | TransportError (text : String)
  | DatagramTooShort (got need : Nat)
  | InvalidDatagramType (datagram_type : UInt8)
  | UnexpectedMessageType (expected got : Nat)
  | VersionNegotiationFailed
  deriving DecidableEq, Repr

/-- How a call does not succeed: with an error of the session, or by a panic. -/
inductive Failure where
  | error (error : MoqError)
  | panic
  deriving DecidableEq, Repr

namespace msg_type

def CLIENT_SETUP : Nat := 0x01
def SERVER_SETUP : Nat := 0x02
def SUBSCRIBE : Nat := 0x06
def ANNOUNCE_CANCEL : Nat := 0x0D
def GOAWAY : Nat := 0x1A
def MAX_SUBSCRIBE_ID : Nat := 0x1B

end msg_type

def encode_varint (value : Nat) : Bytes :=
  if value < 0x40 then [UInt8.ofNat value]
  else if value < 0x4000 then be 2 (0x4000 ||| value)
  else if value < 0x40000000 then be 4 (0x80000000 ||| value)
  else be 8 (0xC000000000000000 ||| value)

/-- The number and the bytes it takes, or two zeros when the data ends too early. -/
def decode_varint (data : Bytes) : Nat × Nat :=
  match data with
  | [] => (0, 0)
  | first :: _ =>
    match first.toNat >>> 6 with
    | 0 => (first.toNat, 1)
    | 1 => if data.length < 2 then (0, 0) else (ofBe (data.take 2) &&& 0x3FFF, 2)
    | 2 => if data.length < 4 then (0, 0) else (ofBe (data.take 4) &&& 0x3FFFFFFF, 4)
    | _ => if data.length < 8 then (0, 0) else (ofBe (data.take 8) &&& 0x3FFFFFFFFFFFFFFF, 8)

/-- What `String::from_utf8_lossy` makes of bytes that are not UTF-8 is left open. -/
def from_utf8_lossy (replace : Bytes → String) (bytes : Bytes) : String :=
  (String.fromUTF8? ⟨bytes.toArray⟩).getD (replace bytes)

structure ClientSetup where
  versions : List Nat
  role : UInt8
  path : Option String

namespace ClientSetup

def DRAFT_17 : Nat := 0xff000011

def voip_default : ClientSetup where
  versions := [DRAFT_17]
  role := 0x03
  path := none

def encode (self : ClientSetup) : Bytes :=
  encode_varint msg_type.CLIENT_SETUP ++ encode_varint self.versions.length ++
    self.versions.flatMap encode_varint ++ encode_varint self.role.toNat ++
    match self.path with
    | some path => encode_varint (utf8 path).length ++ utf8 path
    | none => []

end ClientSetup

/-- The optional path at the end of both setup messages. -/
def read_path (replace : Bytes → String) (cursor : Bytes) : Option String :=
  if cursor = [] then none
  else
    let (path_len, pl_len) := decode_varint cursor
    let cursor := cursor.drop pl_len
    if path_len ≤ cursor.length then some (from_utf8_lossy replace (cursor.take path_len)) else none

structure ServerSetup where
  version : Nat
  role : UInt8
  path : Option String
  deriving DecidableEq

def ServerSetup.decode (replace : Bytes → String) (data : Bytes) : Except Failure ServerSetup :=
  let (msg_type_val, mt_len) := decode_varint data
  let cursor := data.drop mt_len
  if msg_type_val ≠ msg_type.SERVER_SETUP then
    .error (.error (.UnexpectedMessageType msg_type.SERVER_SETUP msg_type_val))
  else
    let (version, v_len) := decode_varint cursor
    let cursor := cursor.drop v_len
    let (role, r_len) := decode_varint cursor
    let cursor := cursor.drop r_len
    .ok ⟨version, UInt8.ofNat role, read_path replace cursor⟩

structure ClientSetupParams where
  versions : List Nat
  role : UInt8
  path : Option String
  deriving DecidableEq

/-- The loop over the versions: those read and the rest of the data. -/
def parse_versions : Nat → Bytes → List Nat × Bytes
  | 0, cursor => ([], cursor)
  | count + 1, cursor =>
    let (v, v_len) := decode_varint cursor
    let (versions, cursor) := parse_versions count (cursor.drop v_len)
    (v :: versions, cursor)

/-- `Vec::with_capacity` panics when the eight bytes of each version exceed `isize::MAX`. -/
def parse_client_setup (replace : Bytes → String) (data : Bytes) : Except Failure ClientSetupParams :=
  let (msg_type_val, mt_len) := decode_varint data
  let cursor := data.drop mt_len
  if msg_type_val ≠ msg_type.CLIENT_SETUP then
    .error (.error (.UnexpectedMessageType msg_type.CLIENT_SETUP msg_type_val))
  else
    let (num_versions, nv_len) := decode_varint cursor
    let cursor := cursor.drop nv_len
    if 2 ^ 63 ≤ num_versions * 8 then .error .panic
    else
      let (versions, cursor) := parse_versions num_versions cursor
      let (role, r_len) := decode_varint cursor
      let cursor := cursor.drop r_len
      .ok ⟨versions, UInt8.ofNat role, read_path replace cursor⟩

inductive SessionState where
  | Idle
  | SettingUp
  | Active
  | Closing
  | Closed
  deriving DecidableEq, Repr

def SessionState.debug : SessionState → String
  | .Idle => "Idle"
  | .SettingUp => "SettingUp"
  | .Active => "Active"
  | .Closing => "Closing"
  | .Closed => "Closed"

/-- A session, as far as its handshake goes: its state and what it has written to the control
stream. -/
structure MoqSession where
  state : SessionState
  sent : List Bytes

/-- What one read of the control stream comes to. -/
inductive Read where
  | timeout
  | failed (error : String)
  | finished
  | bytes (available : Bytes)

/-- The bytes that the buffer of 1024 bytes receives. -/
def Read.received : Read → Bytes
  | .bytes available => available.take 1024
  | _ => []

/-- What the connection answers to opening, writing and reading the control stream. -/
structure Transport where
  stream : Except String Unit
  write : Except String Unit
  read : Read

/-- Reads the first message of the peer. -/
def read_control (name : String) : Read → Except Failure Bytes
  | .timeout => .error (.error (.TransportError (name ++ " read timeout")))
  | .failed e => .error (.error (.TransportError ("read " ++ name ++ ": " ++ e)))
  | read =>
    if read.received.length = 0 then
      .error (.error (.TransportError ("control stream closed before " ++ name ++ " received")))
    else .ok read.received

/-- What `setup` does with the first message that it receives. -/
def check_server_setup (replace : Bytes → String) (buf : Bytes) : Except Failure Unit :=
  let (msg_type_val, _) := decode_varint buf
  if msg_type_val = 0x02 then do
    let server_setup ← ServerSetup.decode replace buf
    if server_setup.version ≠ ClientSetup.DRAFT_17 then throw (.error .VersionNegotiationFailed)
  else if msg_type_val = msg_type.ANNOUNCE_CANCEL ∨ msg_type_val = msg_type.GOAWAY ∨
      msg_type_val = msg_type.MAX_SUBSCRIBE_ID then .ok ()
  else .error (.error (.UnexpectedMessageType msg_type.SERVER_SETUP msg_type_val))

/-- What `accept` does with the first message that it receives. -/
def check_client_setup (replace : Bytes → String) (buf : Bytes) : Except Failure Unit := do
  let client_setup ← parse_client_setup replace buf
  if ClientSetup.DRAFT_17 ∉ client_setup.versions then throw (.error .VersionNegotiationFailed)

def server_setup_bytes : Bytes :=
  encode_varint msg_type.SERVER_SETUP ++ encode_varint ClientSetup.DRAFT_17 ++ encode_varint 0x03

namespace MoqSession

def new : MoqSession := ⟨.Idle, []⟩

/-- The result of a call and the session it leaves behind. -/
abbrev Call := Except Failure Unit × MoqSession

def setup (replace : Bytes → String) (transport : Transport) (self : MoqSession) : Call :=
  if self.state ≠ .Idle then (.error (.error (.InvalidState "Idle" self.state.debug)), self)
  else
    let self := { self with state := .SettingUp }
    match transport.stream with
    | .error e => (.error (.error (.TransportError ("open control stream: " ++ e))), self)
    | .ok () =>
      match transport.write with
      | .error e => (.error (.error (.TransportError ("send CLIENT_SETUP: " ++ e))), self)
      | .ok () =>
        let self := { self with sent := self.sent ++ [ClientSetup.voip_default.encode] }
        match read_control "SERVER_SETUP" transport.read >>= check_server_setup replace with
        | .error e => (.error e, self)
        | .ok () => (.ok (), { self with state := .Active })

def accept (replace : Bytes → String) (transport : Transport) (self : MoqSession) : Call :=
  if self.state ≠ .Idle then (.error (.error (.InvalidState "Idle" self.state.debug)), self)
  else
    let self := { self with state := .SettingUp }
    match transport.stream with
    | .error e => (.error (.error (.TransportError ("accept control stream: " ++ e))), self)
    | .ok () =>
      match read_control "CLIENT_SETUP" transport.read >>= check_client_setup replace with
      | .error e => (.error e, self)
      | .ok () =>
        match transport.write with
        | .error e => (.error (.error (.TransportError ("send SERVER_SETUP: " ++ e))), self)
        | .ok () => (.ok (), { self with state := .Active, sent := self.sent ++ [server_setup_bytes] })

end MoqSession

end voip_client.moq
