import Voip.Wire.Bytes

namespace voip_core

open wire

namespace error

inductive KeyMaterialError where
  | OddLength
  | InvalidHexCharacter (c : UInt8)
  | WrongLength
  | InvalidPoint
  deriving DecidableEq, Repr

inductive VoipError where
  | InvalidKeyMaterial (reason : KeyMaterialError)
  deriving DecidableEq, Repr

end error

namespace crypto

open error

/-- The operations of `ed25519_dalek`. Keys and signatures are their byte strings;
`valid_point` tells which 32 bytes are a public key. -/
structure Ed25519 where
  verifying_key : Bytes → Bytes
  sign : Bytes → Bytes → Bytes
  verify : Bytes → Bytes → Bytes → Bool
  valid_point : Bytes → Bool

/-- The signature made for a message has its 64 bytes and verifies for no other message. -/
structure Ed25519.Binds (scheme : Ed25519) (signing_key message : Bytes) : Prop where
  length_sign : (scheme.sign signing_key message).length = 64
  eq_of_verify : ∀ other, scheme.verify (scheme.verifying_key signing_key) other
    (scheme.sign signing_key message) = true → other = message

/-- The signatures of the given messages have 64 bytes and verify. -/
structure Ed25519.Signs (scheme : Ed25519) (signing_key : Bytes) (signed : List Bytes) : Prop where
  length_sign : ∀ message ∈ signed, (scheme.sign signing_key message).length = 64
  verify_sign : ∀ message ∈ signed,
    scheme.verify (scheme.verifying_key signing_key) message (scheme.sign signing_key message) = true

/-- An ideal scheme once the given messages have been signed: no other message has a signature that
verifies. -/
structure Ed25519.Ideal (scheme : Ed25519) (signing_key : Bytes) (signed : List Bytes) : Prop
    extends scheme.Signs signing_key signed where
  mem_of_verify : ∀ message signature,
    scheme.verify (scheme.verifying_key signing_key) message signature = true → message ∈ signed

/-- Every signature has its 64 bytes and verifies under the matching public key. -/
structure Ed25519.Correct (scheme : Ed25519) : Prop where
  length_sign : ∀ signing_key message, (scheme.sign signing_key message).length = 64
  verify_sign : ∀ signing_key message,
    scheme.verify (scheme.verifying_key signing_key) message (scheme.sign signing_key message) = true

/-- A scheme with one signature, which verifies for one message. -/
def Ed25519.single (message : Bytes) : Ed25519 where
  verifying_key := id
  sign := fun _ _ => List.replicate 64 0
  verify := fun _ other signature => other = message && signature = List.replicate 64 0
  valid_point := fun _ => true

theorem Ed25519.binds_single (signing_key message : Bytes) : (single message).Binds signing_key message where
  length_sign := List.length_replicate
  eq_of_verify other hother := by simpa [single] using hother

theorem Ed25519.ideal_single (signing_key message : Bytes) :
    (single message).Ideal signing_key [message] where
  length_sign _ _ := List.length_replicate
  verify_sign other hother := by simpa [single] using hother
  mem_of_verify other signature hother := by
    simp only [single, Bool.and_eq_true, decide_eq_true_eq] at hother
    exact List.mem_singleton.mpr hother.1

/-- A scheme without keys in which one message has a chosen signature and all others have the
signature that follows it byte by byte. -/
def Ed25519.chosen (message signature : Bytes) : Ed25519 where
  verifying_key := id
  sign := fun _ other => if other = message then signature else signature.map (· + 1)
  verify := fun _ other candidate =>
    candidate = if other = message then signature else signature.map (· + 1)
  valid_point := fun _ => true

theorem Ed25519.correct_chosen (message : Bytes) {signature : Bytes} (hlength : signature.length = 64) :
    (chosen message signature).Correct where
  length_sign _ other := by
    simp only [chosen]
    split <;> simp [hlength]
  verify_sign _ _ := by simp [chosen]

/-- The chosen signature verifies for its message only. -/
theorem Ed25519.verify_chosen {message signature verifying_key other : Bytes} (hsignature : signature ≠ []) :
    (chosen message signature).verify verifying_key other signature = true ↔ other = message := by
  have hnext : signature ≠ signature.map (· + 1) := by
    cases signature with
    | nil => contradiction
    | cons byte rest => simp
  by_cases hother : other = message
  · simp [chosen, hother]
  · simp [chosen, hother, hnext]

def char_from_hex (c : UInt8) : Except VoipError UInt8 :=
  if 48 ≤ c ∧ c ≤ 57 then .ok (c - 48)
  else if 97 ≤ c ∧ c ≤ 102 then .ok (c - 97 + 10)
  else if 65 ≤ c ∧ c ≤ 70 then .ok (c - 65 + 10)
  else .error (.InvalidKeyMaterial (.InvalidHexCharacter c))

/-- The loop of `hex_decode` over two-byte chunks. -/
def hex_decode_chunks : Bytes → Except VoipError Bytes
  | high :: low :: rest => do
    let high ← char_from_hex high
    let low ← char_from_hex low
    let bytes ← hex_decode_chunks rest
    return (high <<< 4 ||| low) :: bytes
  | _ => .ok []

def hex_decode (s : Bytes) : Except VoipError Bytes :=
  if s.length % 2 ≠ 0 then .error (.InvalidKeyMaterial .OddLength) else hex_decode_chunks s

def parse_peer_id (ed25519 : Ed25519) (peer_id : String) : Except VoipError Bytes := do
  let bytes ← hex_decode (utf8 peer_id)
  if bytes.length ≠ 32 then throw (.InvalidKeyMaterial .WrongLength)
  if !ed25519.valid_point bytes then throw (.InvalidKeyMaterial .InvalidPoint)
  return bytes

end crypto

end voip_core
