import Voip.Wire.Leb128
import Voip.Wire.QuicVarint

namespace voip_client.masque

open wire

/-- The errors of the tunnel that decoding a capsule can return. -/
inductive MasqueError where
  | Http2Error (text : String)
  deriving DecidableEq, Repr

/-- How a call ends: it returns a value or an error, or it panics. -/
inductive Outcome (α : Type) where
  | Ok (value : α)
  | Err (error : MasqueError)
  | panic
  deriving DecidableEq, Repr

/-- The loop of `encode_varint`. -/
def encode_varint_loop : Nat → Nat → Bytes
  | 0, _ => []
  | fuel + 1, value =>
    let byte := value &&& 0x7F
    let value := value >>> 7
    if value ≠ 0 then UInt8.ofNat (byte ||| 0x80) :: encode_varint_loop fuel value
    else [UInt8.ofNat byte]

def encode_varint (value : Nat) : Bytes := encode_varint_loop (value + 1) value

/-- The loop of `varint_len`. -/
def varint_len_loop : Nat → Nat → Nat → Nat
  | 0, _, len => len
  | fuel + 1, v, len => if v > 0x7F then varint_len_loop fuel (v >>> 7) (len + 1) else len

def varint_len (value : Nat) : Nat := varint_len_loop value value 1

def encode_datagram_capsule (quic_packet : Bytes) : Bytes :=
  let quarter_stream_id := 0
  let payload_len := varint_len quarter_stream_id + quic_packet.length
  encode_varint 0 ++ encode_varint payload_len ++ encode_varint quarter_stream_id ++ quic_packet

/-- The number and the bytes it takes, or two zeros when the data ends too early. -/
def decode_h2_varint (data : Bytes) : Nat × Nat :=
  match data with
  | [] => (0, 0)
  | first :: _ =>
    match first.toNat >>> 6 with
    | 0 => (first.toNat &&& 0x3F, 1)
    | 1 => if data.length < 2 then (0, 0) else (ofBe (data.take 2) &&& 0x3FFF, 2)
    | 2 => if data.length < 4 then (0, 0) else (ofBe (data.take 4) &&& 0x3FFFFFFF, 4)
    | _ => if data.length < 8 then (0, 0) else (ofBe (data.take 8) &&& 0x3FFFFFFFFFFFFFFF, 8)

def decode_datagram_capsule (data : Bytes) : Outcome Bytes :=
  let (capsule_type, ct_len) := decode_h2_varint data
  let pos := ct_len
  if capsule_type ≠ 0 then
    .Err (.Http2Error ("expected DATAGRAM capsule type 0, got " ++ toString capsule_type))
  else
    let (capsule_len, cl_len) := decode_h2_varint (data.drop pos)
    let pos := pos + cl_len
    let (_quarter_stream_id, qs_len) := decode_h2_varint (data.drop pos)
    let pos := pos + qs_len
    let finish := pos + capsule_len - qs_len
    if finish > data.length then
      .Err (.Http2Error ("capsule payload truncated: expected " ++ toString (finish - pos) ++
        " bytes, have " ++ toString (data.length - pos)))
    -- a slice whose end lies before its start
    else if finish < pos then .panic
    else .Ok ((data.take finish).drop pos)

end voip_client.masque
