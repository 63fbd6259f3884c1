import Voip.Dht.Authenticity
import Voip.Dht.Conversion

namespace voip_dht.record

open wire error result voip_core.crypto
open voip_core.proto

/-- A record that was signed passes its own check. -/
theorem PeerRecord.verify_sign {ed25519 : Ed25519} (hcorrect : ed25519.Correct) (signing_key : Bytes)
    (record : PeerRecord) :
    (record.sign ed25519 signing_key).verify ed25519 (ed25519.verifying_key signing_key) = .ok () := by
  rw [verify, verify_signature_eq_ok]
  exact ⟨hcorrect.length_sign _ _, hcorrect.verify_sign signing_key record.signing_input⟩

theorem ProxyRecord.verify_sign {ed25519 : Ed25519} (hcorrect : ed25519.Correct) (signing_key : Bytes)
    (record : ProxyRecord) :
    (record.sign ed25519 signing_key).verify ed25519 (ed25519.verifying_key signing_key) = .ok () := by
  rw [verify, verify_signature_eq_ok]
  exact ⟨hcorrect.length_sign _ _, hcorrect.verify_sign signing_key record.signing_input⟩

theorem PeerRecord.decode_encode {codec : Codec} {record : PeerRecord}
    (hcodec : codec.peer_record record.to_proto.encode_to_vec = .ok record.to_proto) :
    decode codec record.encode = .ok record := by
  have hdecode : decode codec record.encode = .ok (from_proto record.to_proto) := by
    rw [decode, encode, hcodec]
    rfl
  rw [hdecode, record.from_proto_to_proto]

theorem ProxyRecord.decode_encode {codec : Codec} {record : ProxyRecord}
    (hcodec : codec.proxy_record record.to_proto.encode_to_vec = .ok record.to_proto) :
    decode codec record.encode = .ok record := by
  rw [decode, encode, hcodec]
  rfl

/-- On one message, the verifier of protobuf records says yes exactly when the native record
made from it passes its check. -/
def VerifiersAgree (ed25519 : Ed25519) (verifying_key : Bytes) (message : signaling.PeerRecord) : Prop :=
  verify_peer_record ed25519 verifying_key message = .ok true ↔
    (PeerRecord.from_proto message).verify ed25519 verifying_key = .ok ()

/-- The bytes that the native verifier checks are those of the message exactly when the
message is canonical. -/
theorem PeerRecord.signing_input_from_proto_iff (message : signaling.PeerRecord) :
    (from_proto message).signing_input = { message with signature := [] }.encode_to_vec ↔
      Canonical message := by
  rw [← to_proto_with_empty_sig_from_proto_iff]
  constructor
  · exact signaling.PeerRecord.encode_to_vec_inj
  · intro heq
    rw [signing_input, heq]

theorem verifiersAgree_iff_verify {ed25519 : Ed25519} {verifying_key : Bytes}
    {message : signaling.PeerRecord} :
    VerifiersAgree ed25519 verifying_key message ↔
      (message.signature.length = 64 →
        (ed25519.verify verifying_key { message with signature := [] }.encode_to_vec message.signature = true ↔
          ed25519.verify verifying_key (PeerRecord.from_proto message).signing_input message.signature = true)) := by
  rw [VerifiersAgree, verify_peer_record, verify_bytes_eq_ok_true, PeerRecord.verify,
    verify_signature_eq_ok]
  exact and_congr_right_iff

/-- The two verifiers agree on a message, whatever the key, exactly when its signature cannot
be one or all its enumerations hold known values. -/
theorem peer_record_verifiers_agree_iff (message : signaling.PeerRecord) :
    (∀ ed25519 : Ed25519, ed25519.Correct → ∀ verifying_key,
        VerifiersAgree ed25519 verifying_key message) ↔
      message.signature.length ≠ 64 ∨ PeerRecord.Canonical message := by
  rw [← PeerRecord.signing_input_from_proto_iff, ← imp_iff_not_or]
  simp only [verifiersAgree_iff_verify]
  constructor
  · intro hagree hlength
    -- a scheme in which the signature received is the one of the bytes received
    have hnonempty : message.signature ≠ [] := by
      intro hempty
      simp [hempty] at hlength
    have hsame := hagree _ (Ed25519.correct_chosen { message with signature := [] }.encode_to_vec hlength)
      [] hlength
    rw [Ed25519.verify_chosen hnonempty, Ed25519.verify_chosen hnonempty] at hsame
    exact hsame.mp rfl
  · intro hinput ed25519 _ verifying_key hlength
    rw [hinput hlength]

/-- A record whose status comes from a later version, correctly signed: one verifier accepts
what the other rejects. -/
theorem unknown_status_verifiers_disagree :
    let message : signaling.PeerRecord :=
      { (PeerRecord.forged "peer" "::1").to_proto with status := 3, signature := List.replicate 64 7 }
    let ed25519 := Ed25519.chosen { message with signature := [] }.encode_to_vec message.signature
    ed25519.Correct ∧ ¬VerifiersAgree ed25519 [] message ∧
      verify_peer_record ed25519 [] message = .ok true := by
  refine ⟨Ed25519.correct_chosen _ (by simp), ?_, by decide +kernel⟩
  rw [verifiersAgree_iff_verify]
  decide +kernel

end voip_dht.record
