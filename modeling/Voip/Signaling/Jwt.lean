import Voip.Core.Crypto
import Voip.Signaling.Error
import Mathlib.Data.List.Basic

namespace voip_signaling.jwt

open wire error voip_core.crypto

structure JwtClaims where
  sub : String
  iat : Nat
  exp : Nat
  nbf : Nat
  pub_key : String
  deriving DecidableEq, Repr

/-- The JSON form of the claims and the texts of the errors that name a cause. -/
structure Serde where
  to_string : JwtClaims → Except String String
  from_slice : Bytes → Except String JwtClaims
  debug_char : UInt8 → String

/-- The six-bit digit with the given value, in the URL-safe alphabet. -/
def base64url_digit (value : UInt32) : Char :=
  ("ABCDEFGHIJKLMNOPQRSTUVWXYZabcdefghijklmnopqrstuvwxyz0123456789-_".toList.getD value.toNat 'A')

def base64url_encode : Bytes → List Char
  | [] => []
  | [b0] =>
    let b0 := b0.toUInt32
    [base64url_digit (b0 >>> 2 &&& 0x3F), base64url_digit ((b0 &&& 0x03) <<< 4)]
  | [b0, b1] =>
    let (b0, b1) := (b0.toUInt32, b1.toUInt32)
    [base64url_digit (b0 >>> 2 &&& 0x3F), base64url_digit ((b0 &&& 0x03) <<< 4 ||| (b1 >>> 4 &&& 0x0F)),
      base64url_digit ((b1 &&& 0x0F) <<< 2)]
  | b0 :: b1 :: b2 :: rest =>
    let (b0, b1, b2) := (b0.toUInt32, b1.toUInt32, b2.toUInt32)
    base64url_digit (b0 >>> 2 &&& 0x3F) :: base64url_digit ((b0 &&& 0x03) <<< 4 ||| (b1 >>> 4 &&& 0x0F)) ::
      base64url_digit ((b1 &&& 0x0F) <<< 2 ||| (b2 >>> 6 &&& 0x03)) :: base64url_digit (b2 &&& 0x3F) ::
      base64url_encode rest

/-- The table of `base64url_decode`, whose negative entries are `none`. -/
def decode_table (byte : UInt8) : Option UInt32 :=
  if 65 ≤ byte ∧ byte ≤ 90 then some (byte - 65).toUInt32
  else if 97 ≤ byte ∧ byte ≤ 122 then some (byte - 97 + 26).toUInt32
  else if 48 ≤ byte ∧ byte ≤ 57 then some (byte - 48 + 52).toUInt32
  else if byte = 45 then some 62
  else if byte = 95 then some 63
  else none

/-- The loop of `base64url_decode`: `bits` bits of `buffer` are still to be output. -/
def base64url_decode_loop (serde : Serde) : Bytes → UInt32 → UInt32 → Except String Bytes
  | [], _, _ => .ok []
  | byte :: rest, buffer, bits =>
    match decode_table byte with
    | none => .error ("invalid base64url character: " ++ serde.debug_char byte)
    | some value =>
      let buffer := buffer <<< 6 ||| value
      let bits := bits + 6
      if 8 ≤ bits then do
        let bits := bits - 8
        return (buffer >>> bits).toUInt8 :: (← base64url_decode_loop serde rest buffer bits)
      else base64url_decode_loop serde rest buffer bits

def base64url_decode (serde : Serde) (input : List Char) : Except String Bytes :=
  base64url_decode_loop serde (utf8 (String.ofList (input.reverse.dropWhile (· == '=')).reverse)) 0 0

def JWT_HEADER : String := "eyJhbGciOiJFZERTQSIsInR5cCI6IkpXVCJ9"

def create_jwt (serde : Serde) (ed25519 : Ed25519) (signing_key : Bytes) (peer_id : String)
    (expiry_secs now : Nat) : Except SignalingError String := do
  let claims : JwtClaims :=
    { sub := peer_id, iat := now, exp := (now + expiry_secs) % 2 ^ 64, nbf := now, pub_key := peer_id }
  let payload_json ← (serde.to_string claims).mapError fun e =>
    .Internal ("failed to serialize claims: " ++ e)
  let payload_b64 := base64url_encode (utf8 payload_json)
  let signing_input := JWT_HEADER ++ "." ++ String.ofList payload_b64
  let signature := ed25519.sign signing_key (utf8 signing_input)
  let sig_b64 := base64url_encode signature
  return JWT_HEADER ++ "." ++ String.ofList payload_b64 ++ "." ++ String.ofList sig_b64

/-- The checks on the claims of a token whose signature is valid. -/
def check_claims (claims : JwtClaims) (now : Nat) : Except SignalingError JwtClaims :=
  if claims.exp < now then .error (.InvalidJwt "token expired")
  else if claims.sub ≠ claims.pub_key then
    .error (.InvalidJwt "sub claim does not match pub_key claim")
  else if now < claims.nbf then .error (.InvalidJwt "token not yet valid")
  else .ok claims

def verify_jwt (serde : Serde) (ed25519 : Ed25519) (verifying_key : Bytes) (token : String)
    (now : Nat) : Except SignalingError JwtClaims :=
  match token.toList.splitOn '.' with
  | [header, payload_b64, sig_b64] =>
    if header ≠ JWT_HEADER.toList then .error (.InvalidJwt "invalid JWT header")
    else do
      let sig_bytes ← (base64url_decode serde sig_b64).mapError fun e =>
        .InvalidJwt ("invalid signature encoding: " ++ e)
      if sig_bytes.length ≠ 64 then throw (.InvalidJwt "invalid signature length")
      let signing_input := String.ofList (header ++ '.' :: payload_b64)
      if !ed25519.verify verifying_key (utf8 signing_input) sig_bytes then
        throw (.InvalidJwt "invalid JWT signature")
      let payload_bytes ← (base64url_decode serde payload_b64).mapError fun e =>
        .InvalidJwt ("invalid payload encoding: " ++ e)
      let claims ← (serde.from_slice payload_bytes).mapError fun e =>
        .InvalidJwt ("invalid claims JSON: " ++ e)
      check_claims claims now
  | _ => .error (.InvalidJwt "invalid JWT format")

end voip_signaling.jwt
