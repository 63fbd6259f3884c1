import Voip.Core.Crypto

namespace voip_client.proxy

open wire voip_core.crypto

inductive ProxyTokenError where
  | InvalidSignature
  | Expired (expires_at : UInt64)
  | Base64DecodeError (reason : String)
  | DeserializationError (reason : String)
  deriving DecidableEq, Repr

structure ProxyToken where
  peer_id : String
  proxy_url : String
  expires_at : UInt64
  issued_at : UInt64
  signature : Bytes
  deriving DecidableEq

def CHARSET : List Char := "ABCDEFGHIJKLMNOPQRSTUVWXYZabcdefghijklmnopqrstuvwxyz0123456789+/".toList

def charset_digit (value : UInt32) : Char := CHARSET.getD value.toNat 'A'

/-- Missing bytes of the last chunk count as zero, and its missing digits are padding. -/
def base64_encode : Bytes → List Char
  | [] => []
  | [b0] =>
    let triple := b0.toUInt32 <<< 16 ||| (0 : UInt32) <<< 8 ||| 0
    [charset_digit (triple >>> 18 &&& 0x3F), charset_digit (triple >>> 12 &&& 0x3F), '=', '=']
  | [b0, b1] =>
    let triple := b0.toUInt32 <<< 16 ||| b1.toUInt32 <<< 8 ||| 0
    [charset_digit (triple >>> 18 &&& 0x3F), charset_digit (triple >>> 12 &&& 0x3F),
      charset_digit (triple >>> 6 &&& 0x3F), '=']
  | b0 :: b1 :: b2 :: rest =>
    let triple := b0.toUInt32 <<< 16 ||| b1.toUInt32 <<< 8 ||| b2.toUInt32
    charset_digit (triple >>> 18 &&& 0x3F) :: charset_digit (triple >>> 12 &&& 0x3F) ::
      charset_digit (triple >>> 6 &&& 0x3F) :: charset_digit (triple &&& 0x3F) :: base64_encode rest

/-- The loop of `base64_decode` from position `i`: `bits` bits of `buffer` are still to be
output. -/
def base64_decode_loop : List Char → Nat → UInt32 → UInt32 → Except String Bytes
  | [], _, _, _ => .ok []
  | c :: rest, i, buffer, bits =>
    match CHARSET.idxOf? c with
    | none =>
      .error ("Invalid base64 character at position " ++ toString i ++ ": '" ++ String.singleton c ++ "'")
    | some val =>
      let buffer := buffer <<< 6 ||| UInt32.ofNat val
      let bits := bits + 6
      if 8 ≤ bits then do
        let bits := bits - 8
        return (buffer >>> bits).toUInt8 :: (← base64_decode_loop rest (i + 1) buffer bits)
      else base64_decode_loop rest (i + 1) buffer bits

def base64_decode (input : List Char) : Except String Bytes :=
  base64_decode_loop (input.reverse.dropWhile (· == '=')).reverse 0 0 0

/-- The next `width` bytes as a big-endian number, and the position after them. -/
def read_be (width : Nat) (name : String) (buf : Bytes) (pos : Nat) :
    Except ProxyTokenError (Nat × Nat) :=
  if buf.length < pos + width then .error (.DeserializationError ("Buffer underflow reading " ++ name))
  else .ok (ofBe ((buf.drop pos).take width), pos + width)

def read_u16_be : Bytes → Nat → Except ProxyTokenError (Nat × Nat) := read_be 2 "u16"

def read_u64_be : Bytes → Nat → Except ProxyTokenError (Nat × Nat) := read_be 8 "u64"

/-- `utf8_error` is the text of the error for bytes that are not UTF-8. -/
def read_string (utf8_error : Bytes → String) (buf : Bytes) (pos len : Nat) :
    Except ProxyTokenError (String × Nat) :=
  if buf.length < pos + len then
    .error (.DeserializationError ("Buffer underflow reading string: need " ++ toString len ++
      " bytes at position " ++ toString pos))
  else
    let bytes := (buf.drop pos).take len
    match String.fromUTF8? ⟨bytes.toArray⟩ with
    | none => .error (.DeserializationError ("Invalid UTF-8: " ++ utf8_error bytes))
    | some s => .ok (s, pos + len)

namespace ProxyToken

def signing_message (peer_id proxy_url : String) (expires_at issued_at : UInt64) : Bytes :=
  be 4 (utf8 peer_id).length ++ utf8 peer_id ++ be 4 (utf8 proxy_url).length ++ utf8 proxy_url ++
    be 8 expires_at.toNat ++ be 8 issued_at.toNat

def sign (ed25519 : Ed25519) (signing_key : Bytes) (peer_id proxy_url : String)
    (ttl_secs now : UInt64) : ProxyToken :=
  let expires_at := if now.toNat + ttl_secs.toNat < 2 ^ 64 then now + ttl_secs else .ofNat (2 ^ 64 - 1)
  let message := signing_message peer_id proxy_url expires_at now
  { peer_id, proxy_url, expires_at, issued_at := now, signature := ed25519.sign signing_key message }

def verify (ed25519 : Ed25519) (verifying_key : Bytes) (self : ProxyToken) : Bool :=
  let message := signing_message self.peer_id self.proxy_url self.expires_at self.issued_at
  self.signature.length = 64 && ed25519.verify verifying_key message self.signature

def is_expired (now : UInt64) (self : ProxyToken) : Bool := self.expires_at ≤ now

def encode (self : ProxyToken) : List Char :=
  base64_encode (be 2 (utf8 self.peer_id).length ++ utf8 self.peer_id ++
    be 2 (utf8 self.proxy_url).length ++ utf8 self.proxy_url ++ be 8 self.expires_at.toNat ++
    be 8 self.issued_at.toNat ++ self.signature)

def decode (utf8_error : Bytes → String) (encoded : List Char) : Except ProxyTokenError ProxyToken := do
  let buf ← (base64_decode encoded).mapError .Base64DecodeError
  let (peer_id_len, pos) ← read_u16_be buf 0
  let (peer_id, pos) ← read_string utf8_error buf pos peer_id_len
  let (url_len, pos) ← read_u16_be buf pos
  let (proxy_url, pos) ← read_string utf8_error buf pos url_len
  let (expires_at, pos) ← read_u64_be buf pos
  let (issued_at, pos) ← read_u64_be buf pos
  let remaining := buf.length - pos
  if remaining ≠ 64 then
    throw (.DeserializationError ("Invalid signature length: expected 64, got " ++ toString remaining))
  return { peer_id, proxy_url, expires_at := .ofNat expires_at, issued_at := .ofNat issued_at,
           signature := buf.drop pos }

end ProxyToken

/-- The check of the proxy: the cheap expiry test comes first. -/
def TokenVerifier.verify (ed25519 : Ed25519) (verifying_key : Bytes) (now : UInt64) (token : ProxyToken) :
    Except ProxyTokenError Unit :=
  if token.is_expired now then .error (.Expired token.expires_at)
  else if !token.verify ed25519 verifying_key then .error .InvalidSignature
  else .ok ()

end voip_client.proxy
