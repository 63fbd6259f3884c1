import Voip.Dht.Record
import Voip.Result.Except
import Mathlib.Data.List.Basic

namespace voip_dht.record

open wire error result voip_core.crypto
open voip_core.proto

theorem verify_signature_eq_ok {ed25519 : Ed25519} {verifying_key message signature : Bytes}
    {key kind : String} :
    verify_signature ed25519 verifying_key key kind message signature = .ok () ↔
      signature.length = 64 ∧ ed25519.verify verifying_key message signature = true := by
  unfold verify_signature
  simp only [ite_error_eq_ok, not_not]
  constructor
  · rintro ⟨-, hlength, hverified⟩
    exact ⟨hlength, by simpa using hverified⟩
  · rintro ⟨hlength, hverified⟩
    refine ⟨?_, hlength, by simp [hverified]⟩
    rintro rfl
    simp at hlength

/-- The check of the standalone verifiers. A signature that does not fit is an answer here,
not an error. -/
def verify_bytes (ed25519 : Ed25519) (verifying_key : Bytes) (key kind : String)
    (message signature : Bytes) : Except DhtError Bool :=
  if signature = [] then .error (.InvalidSignature key)
  else if signature.length ≠ 64 then .error (.InvalidSignatureLegacy (kind ++ ": signature error"))
  else .ok (ed25519.verify verifying_key message signature)

/-- The standalone check says yes exactly where the methods succeed on the same bytes. -/
theorem verify_bytes_eq_ok_true {ed25519 : Ed25519} {verifying_key message signature : Bytes}
    {key kind : String} :
    verify_bytes ed25519 verifying_key key kind message signature = .ok true ↔
      signature.length = 64 ∧ ed25519.verify verifying_key message signature = true := by
  unfold verify_bytes
  simp only [ite_error_eq_ok, not_not, Except.ok.injEq]
  constructor
  · rintro ⟨-, hchecked⟩
    exact hchecked
  · rintro ⟨hlength, hverified⟩
    refine ⟨?_, hlength, hverified⟩
    rintro rfl
    simp at hlength

def sign_peer_record (ed25519 : Ed25519) (signing_key : Bytes) (record : signaling.PeerRecord) :
    signaling.PeerRecord :=
  { record with
    signature := ed25519.sign signing_key { record with signature := [] }.encode_to_vec }

def verify_peer_record (ed25519 : Ed25519) (verifying_key : Bytes) (record : signaling.PeerRecord) :
    Except DhtError Bool :=
  verify_bytes ed25519 verifying_key record.peer_id "PeerRecord"
    { record with signature := [] }.encode_to_vec record.signature

def sign_proxy_record (ed25519 : Ed25519) (signing_key : Bytes) (record : signaling.ProxyRecord) :
    signaling.ProxyRecord :=
  { record with
    signature := ed25519.sign signing_key { record with signature := [] }.encode_to_vec }

def verify_proxy_record (ed25519 : Ed25519) (verifying_key : Bytes) (record : signaling.ProxyRecord) :
    Except DhtError Bool :=
  verify_bytes ed25519 verifying_key record.node_id "ProxyRecord"
    { record with signature := [] }.encode_to_vec record.signature

def username_signing_input (username peer_id : String) : Bytes := utf8 (username ++ ":" ++ peer_id)

def sign_username_record (ed25519 : Ed25519) (signing_key : Bytes) (record : UsernameRecord) :
    UsernameRecord :=
  { record with
    signature := ed25519.sign signing_key (username_signing_input record.username record.peer_id) }

def verify_username_record (ed25519 : Ed25519) (verifying_key : Bytes) (record : UsernameRecord) :
    Except DhtError Bool :=
  verify_bytes ed25519 verifying_key "UsernameRecord" "UsernameRecord"
    (username_signing_input record.username record.peer_id) record.signature

namespace UsernameRecord

/-- The two ways to check a username record agree. -/
theorem verify_username_record_eq_ok_true {ed25519 : Ed25519} {verifying_key : Bytes}
    {record : UsernameRecord} :
    verify_username_record ed25519 verifying_key record = .ok true ↔
      record.verify ed25519 verifying_key = .ok () := by
  rw [verify_username_record, verify_bytes_eq_ok_true, verify, verify_signature_eq_ok]
  rfl

def SameMapping (first second : UsernameRecord) : Prop :=
  first.username = second.username ∧ first.peer_id = second.peer_id

/-- What is signed for this record is signed for no other mapping, so that its signatures
verify for no other one, whichever way they are checked. -/
structure Unambiguous (record : UsernameRecord) : Prop where
  signing_input : ∀ other : UsernameRecord, other.signing_input = record.signing_input →
    SameMapping other record
  signature : ∀ (ed25519 : Ed25519) (signing_key : Bytes),
    ed25519.Binds signing_key record.signing_input → ∀ other : UsernameRecord,
    other.signature = (record.sign ed25519 signing_key).signature →
    (other.verify ed25519 (ed25519.verifying_key signing_key) = .ok () ∨
      verify_username_record ed25519 (ed25519.verifying_key signing_key) other = .ok true) →
    SameMapping other record

theorem signing_input_eq_iff {first second : UsernameRecord} :
    first.signing_input = second.signing_input ↔
      first.username.toList ++ ':' :: first.peer_id.toList =
        second.username.toList ++ ':' :: second.peer_id.toList := by
  rw [signing_input, signing_input, utf8_inj, ← String.toList_inj]
  simp

/-- A text without the separator leaves no other way to split what is signed. -/
theorem sameMapping_of_signing_input {record other : UsernameRecord}
    (husername : ':' ∉ record.username.toList) (hpeer : ':' ∉ record.peer_id.toList)
    (heq : other.signing_input = record.signing_input) : SameMapping other record := by
  rw [signing_input_eq_iff] at heq
  obtain ⟨hfirst, -, hsecond⟩ :=
    (List.append_cons_inj_of_notMem husername hpeer).mp heq.symm
  exact ⟨String.toList_inj.mp hfirst.symm, String.toList_inj.mp hsecond.symm⟩

/-- A separator in one of the texts is another place to split at. -/
theorem exists_other_of_mem {record : UsernameRecord}
    (hcolon : ':' ∈ record.username.toList ∨ ':' ∈ record.peer_id.toList) :
    ∃ other : UsernameRecord, other.signing_input = record.signing_input ∧
      ¬SameMapping other record := by
  rcases hcolon with hcolon | hcolon
  · obtain ⟨front, back, hsplit⟩ := List.append_of_mem hcolon
    let other : UsernameRecord :=
      ⟨String.ofList front, String.ofList (back ++ ':' :: record.peer_id.toList), []⟩
    refine ⟨other, signing_input_eq_iff.mpr ?_, ?_⟩
    · simp [other, hsplit]
    · rintro ⟨hsame, -⟩
      have hlist := congrArg String.toList hsame
      simp [other, hsplit] at hlist
  · obtain ⟨front, back, hsplit⟩ := List.append_of_mem hcolon
    let other : UsernameRecord :=
      ⟨String.ofList (record.username.toList ++ ':' :: front), String.ofList back, []⟩
    refine ⟨other, signing_input_eq_iff.mpr ?_, ?_⟩
    · simp [other, hsplit]
    · rintro ⟨hsame, -⟩
      have hlist := congrArg String.toList hsame
      simp [other] at hlist

/-- The signed bytes determine the mapping exactly when neither text of the record contains
the separator. -/
theorem unambiguous_iff (record : UsernameRecord) :
    record.Unambiguous ↔ ':' ∉ record.username.toList ∧ ':' ∉ record.peer_id.toList := by
  constructor
  · intro hunambiguous
    rw [← not_or]
    intro hcolon
    obtain ⟨other, heq, hdiffers⟩ := exists_other_of_mem hcolon
    exact hdiffers (hunambiguous.signing_input other heq)
  · rintro ⟨husername, hpeer⟩
    refine ⟨fun other => sameMapping_of_signing_input husername hpeer, ?_⟩
    intro ed25519 signing_key hbinds other hsignature hverified
    rw [verify_username_record_eq_ok_true, or_self, verify, verify_signature_eq_ok, hsignature] at hverified
    exact sameMapping_of_signing_input husername hpeer (hbinds.eq_of_verify _ hverified.2)

/-- Two different mappings whose signed bytes are the same. -/
theorem username_separator_collision :
    ¬(⟨"a:b", "c", []⟩ : UsernameRecord).Unambiguous ∧
      (⟨"a", "b:c", []⟩ : UsernameRecord).signing_input = (⟨"a:b", "c", []⟩ : UsernameRecord).signing_input := by
  have heq : (⟨"a", "b:c", []⟩ : UsernameRecord).signing_input =
      (⟨"a:b", "c", []⟩ : UsernameRecord).signing_input := by
    decide
  refine ⟨fun hunambiguous => ?_, heq⟩
  have hsame := (hunambiguous.signing_input _ heq).1
  simp at hsame

end UsernameRecord

end voip_dht.record
