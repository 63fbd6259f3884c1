import Voip.Core.RecordText
import Voip.Dht.Standalone

namespace voip_dht.record

open wire error voip_core.crypto
open voip_core.proto

/-- The three kinds of records. -/
inductive SignedRecord where
  | Peer (record : PeerRecord)
  | Proxy (record : ProxyRecord)
  | Username (record : UsernameRecord)

namespace SignedRecord

inductive Kind where
  | Peer
  | Proxy
  | Username
  deriving DecidableEq

def kind : SignedRecord → Kind
  | Peer _ => .Peer
  | Proxy _ => .Proxy
  | Username _ => .Username

def signing_input : SignedRecord → Bytes
  | Peer record => record.signing_input
  | Proxy record => record.signing_input
  | Username record => record.signing_input

/-- The signature that is made for a record. -/
def sign (ed25519 : Ed25519) (signing_key : Bytes) : SignedRecord → Bytes
  | Peer record => (record.sign ed25519 signing_key).signature
  | Proxy record => (record.sign ed25519 signing_key).signature
  | Username record => (record.sign ed25519 signing_key).signature

/-- A signature verifies for a record, by its method or by the standalone function. -/
def Accepts (ed25519 : Ed25519) (verifying_key signature : Bytes) : SignedRecord → Prop
  | Peer record =>
    { record with signature }.verify ed25519 verifying_key = .ok () ∨
      verify_peer_record ed25519 verifying_key { record with signature }.to_proto = .ok true
  | Proxy record =>
    { record with signature }.verify ed25519 verifying_key = .ok () ∨
      verify_proxy_record ed25519 verifying_key { record with signature }.to_proto = .ok true
  | Username record =>
    { record with signature }.verify ed25519 verifying_key = .ok () ∨
      verify_username_record ed25519 verifying_key { record with signature } = .ok true

theorem sign_eq (ed25519 : Ed25519) (signing_key : Bytes) (record : SignedRecord) :
    record.sign ed25519 signing_key = ed25519.sign signing_key record.signing_input := by
  cases record <;> rfl

theorem verify_of_accepts {ed25519 : Ed25519} {verifying_key signature : Bytes} {record : SignedRecord}
    (haccepts : record.Accepts ed25519 verifying_key signature) :
    ed25519.verify verifying_key record.signing_input signature = true := by
  cases record with
  | Peer record =>
    obtain hverify | hverify := haccepts
    · exact (verify_signature_eq_ok.mp hverify).2
    · exact (verify_bytes_eq_ok_true.mp hverify).2
  | Proxy record =>
    obtain hverify | hverify := haccepts
    · exact (verify_signature_eq_ok.mp hverify).2
    · exact (verify_bytes_eq_ok_true.mp hverify).2
  | Username record =>
    obtain hverify | hverify := haccepts
    · exact (verify_signature_eq_ok.mp hverify).2
    · exact (verify_bytes_eq_ok_true.mp hverify).2

/-- Different bytes are signed for the two records, and neither's signature verifies for the
other under a scheme that binds it to its message. -/
structure Apart (first second : SignedRecord) : Prop where
  signing_input : first.signing_input ≠ second.signing_input
  first_signature : ∀ (ed25519 : Ed25519) (signing_key : Bytes),
    ed25519.Binds signing_key first.signing_input →
    ¬second.Accepts ed25519 (ed25519.verifying_key signing_key) (first.sign ed25519 signing_key)
  second_signature : ∀ (ed25519 : Ed25519) (signing_key : Bytes),
    ed25519.Binds signing_key second.signing_input →
    ¬first.Accepts ed25519 (ed25519.verifying_key signing_key) (second.sign ed25519 signing_key)

theorem not_accepts {first second : SignedRecord} (hne : first.signing_input ≠ second.signing_input)
    {ed25519 : Ed25519} {signing_key : Bytes} (hbinds : ed25519.Binds signing_key first.signing_input) :
    ¬second.Accepts ed25519 (ed25519.verifying_key signing_key) (first.sign ed25519 signing_key) := by
  intro haccepts
  have hverify := verify_of_accepts haccepts
  rw [sign_eq] at hverify
  exact hne (hbinds.eq_of_verify _ hverify).symm

theorem apart_iff {first second : SignedRecord} :
    first.Apart second ↔ first.signing_input ≠ second.signing_input := by
  constructor
  · exact Apart.signing_input
  · intro hne
    exact ⟨hne, fun _ _ => not_accepts hne, fun _ _ => not_accepts hne.symm⟩

/-- A record is apart from all records of the other kinds. -/
def Separated (record : SignedRecord) : Prop := ∀ other, other.kind ≠ record.kind → record.Apart other

end SignedRecord

/-- The fields of the two records that share a number hold the same, and the others have their
defaults. A repeated address looks like a region, a status like a lifetime. -/
structure Matches (peer : PeerRecord) (proxy : ProxyRecord) : Prop where
  id : peer.peer_id = proxy.node_id
  name : peer.display_name = proxy.proxy_url
  ipv6 : proxy.capacity = 0 ∧ peer.ipv6_addresses = []
  ipv4 : peer.ipv4_reflexive = if proxy.region = "" then [] else [proxy.region]
  nat : proxy.latency_hint_ms = 0 ∧ peer.nat_info = none
  tracks : proxy.timestamp = 0 ∧ peer.tracks = []
  status : signaling.unsigned peer.status.to_proto.as_i32 = proxy.ttl_seconds.toNat
  timestamp : peer.timestamp = 0 ∧ proxy.cert_fingerprint = ""
  ttl : peer.ttl_seconds = 0

theorem signing_input_eq_iff_fields {peer : PeerRecord} {proxy : ProxyRecord} :
    peer.signing_input = proxy.signing_input ↔
      peer.to_proto_with_empty_sig.fields = proxy.to_proto_with_empty_sig.fields := by
  rw [PeerRecord.signing_input, ProxyRecord.signing_input, ← signaling.PeerRecord.encodeFields_fields,
    ← signaling.ProxyRecord.encodeFields_fields]
  constructor
  · exact proto.encodeFields_inj (signaling.PeerRecord.sized_fields _) (signaling.ProxyRecord.sized_fields _)
  · exact congrArg _

theorem matches_of_signing_input {peer : PeerRecord} {proxy : ProxyRecord}
    (heq : peer.signing_input = proxy.signing_input) : Matches peer proxy := by
  have hfields (field : Nat) :=
    congrArg (List.filter fun entry => entry.1 = field) (signing_input_eq_iff_fields.mp heq)
  have hid := hfields 1
  have hname := hfields 2
  have hipv6 := hfields 3
  have hipv4 := hfields 4
  have hnat := hfields 5
  have htracks := hfields 6
  have hstatus := hfields 7
  have htimestamp := hfields 8
  have httl := hfields 9
  simp [signaling.PeerRecord.fields, signaling.ProxyRecord.fields, PeerRecord.to_proto_with_empty_sig,
    ProxyRecord.to_proto_with_empty_sig, proto.stringField_inj, proto.repeatedField_eq_uintField,
    proto.repeatedField_eq_stringField, proto.messageField_eq_uintField, proto.uintField_eq_stringField,
    proto.bytesField_nil, proto.uintField_eq_nil] at hid hname hipv6 hipv4 hnat htracks hstatus htimestamp httl
  have hzero32 {value : UInt32} (hvalue : value.toNat = 0) : value = 0 := UInt32.toNat_inj.mp hvalue
  have hzero64 {value : UInt64} (hvalue : value.toNat = 0) : value = 0 := UInt64.toNat_inj.mp hvalue
  exact {
    id := hid
    name := hname
    ipv6 := hipv6.imp_left hzero32
    ipv4 := hipv4
    nat := hnat.imp_left hzero32
    tracks := htracks.imp_left hzero64
    status := proto.uintField_inj.mp hstatus
    timestamp := htimestamp.imp_left hzero64
    ttl := hzero32 httl }

theorem Matches.signing_input {peer : PeerRecord} {proxy : ProxyRecord} (hmatches : Matches peer proxy) :
    peer.signing_input = proxy.signing_input := by
  have hregion : proto.repeatedField 4 (peer.ipv4_reflexive.map utf8) = proto.stringField 4 proxy.region :=
    proto.repeatedField_eq_stringField.mpr hmatches.ipv4
  have hstatus : proto.intField 7 peer.status.to_proto.as_i32.toInt =
      proto.uintField 7 proxy.ttl_seconds.toNat :=
    proto.uintField_inj.mpr hmatches.status
  have hzero (field : Nat) : proto.uintField field 0 = [] := rfl
  have hempty : proto.stringField 8 "" = [] := rfl
  have hrepeated (field : Nat) : proto.repeatedField field [] = [] := rfl
  have habsent : proto.messageField 5 none = [] := rfl
  rw [signing_input_eq_iff_fields]
  simp [signaling.PeerRecord.fields, signaling.ProxyRecord.fields, PeerRecord.to_proto_with_empty_sig,
    ProxyRecord.to_proto_with_empty_sig, hmatches.id, hmatches.name, hmatches.ipv6, hregion, hmatches.nat,
    hmatches.tracks, hstatus, hmatches.timestamp, hmatches.ttl, hzero, hempty, hrepeated, habsent,
    proto.bytesField_nil]

/-- Some proxy record has the same encoding: at most one address, which is not empty, and
nothing else but texts and status. -/
def PeerRecord.FitsProxy (record : PeerRecord) : Prop :=
  record.ipv6_addresses = [] ∧ (record.ipv4_reflexive = [] ∨ ∃ region ≠ "", record.ipv4_reflexive = [region]) ∧
    record.nat_info = none ∧ record.tracks = [] ∧ record.timestamp = 0 ∧ record.ttl_seconds = 0

/-- Some peer record has the same encoding: a lifetime that is the number of a status, and
nothing else but texts. -/
def ProxyRecord.FitsPeer (record : ProxyRecord) : Prop :=
  record.capacity = 0 ∧ record.latency_hint_ms = 0 ∧ record.timestamp = 0 ∧ record.cert_fingerprint = "" ∧
    record.ttl_seconds ≤ 2

theorem exists_proxy_iff {peer : PeerRecord} :
    (∃ proxy : ProxyRecord, peer.signing_input = proxy.signing_input) ↔ peer.FitsProxy := by
  constructor
  · rintro ⟨proxy, heq⟩
    have hmatches := matches_of_signing_input heq
    refine ⟨hmatches.ipv6.2, ?_, hmatches.nat.2, hmatches.tracks.2, hmatches.timestamp.1, hmatches.ttl⟩
    have hipv4 := hmatches.ipv4
    split at hipv4
    next => exact .inl hipv4
    next hregion => exact .inr ⟨proxy.region, hregion, hipv4⟩
  · rintro ⟨hipv6, hipv4, hnat, htracks, htimestamp, httl⟩
    have hstatus : signaling.unsigned peer.status.to_proto.as_i32 =
        (UInt32.ofNat (signaling.unsigned peer.status.to_proto.as_i32)).toNat := by
      cases peer.status <;> decide
    let proxy (region : String) : ProxyRecord :=
      { node_id := peer.peer_id, proxy_url := peer.display_name, capacity := 0, region
        latency_hint_ms := 0, timestamp := 0
        ttl_seconds := .ofNat (signaling.unsigned peer.status.to_proto.as_i32)
        cert_fingerprint := "", signature := [] }
    have hmatches (region : String) (hregion : peer.ipv4_reflexive = if region = "" then [] else [region]) :
        Matches peer (proxy region) :=
      ⟨rfl, rfl, ⟨rfl, hipv6⟩, hregion, ⟨rfl, hnat⟩, ⟨rfl, htracks⟩, hstatus, ⟨htimestamp, rfl⟩, httl⟩
    obtain hnone | ⟨region, hregion, hone⟩ := hipv4
    · exact ⟨proxy "", (hmatches "" hnone).signing_input⟩
    · exact ⟨proxy region, (hmatches region (by rw [if_neg hregion, hone])).signing_input⟩

theorem exists_peer_iff {proxy : ProxyRecord} :
    (∃ peer : PeerRecord, peer.signing_input = proxy.signing_input) ↔ proxy.FitsPeer := by
  constructor
  · rintro ⟨peer, heq⟩
    have hmatches := matches_of_signing_input heq
    refine ⟨hmatches.ipv6.1, hmatches.nat.1, hmatches.tracks.1, hmatches.timestamp.2, ?_⟩
    have hsmall : signaling.unsigned peer.status.to_proto.as_i32 ≤ 2 := by
      cases peer.status <;> decide
    rw [UInt32.le_iff_toNat_le, ← hmatches.status]
    exact hsmall
  · rintro ⟨hcapacity, hlatency, htimestamp, hcert, httl⟩
    have hstatus : ∃ status : PeerStatus,
        signaling.unsigned status.to_proto.as_i32 = proxy.ttl_seconds.toNat := by
      have hsmall : proxy.ttl_seconds.toNat ≤ 2 := UInt32.le_iff_toNat_le.mp httl
      obtain hzero | hone | htwo : proxy.ttl_seconds.toNat = 0 ∨ proxy.ttl_seconds.toNat = 1 ∨
          proxy.ttl_seconds.toNat = 2 := by omega
      · exact ⟨.Online, hzero ▸ by decide⟩
      · exact ⟨.Offline, hone ▸ by decide⟩
      · exact ⟨.InCall, htwo ▸ by decide⟩
    obtain ⟨status, hstatus⟩ := hstatus
    let peer : PeerRecord :=
      { peer_id := proxy.node_id, display_name := proxy.proxy_url, ipv6_addresses := []
        ipv4_reflexive := if proxy.region = "" then [] else [proxy.region], nat_info := none, tracks := []
        status, timestamp := 0, ttl_seconds := 0, signature := [] }
    have hmatches : Matches peer proxy :=
      ⟨rfl, rfl, ⟨hcapacity, rfl⟩, rfl, ⟨hlatency, rfl⟩, ⟨htimestamp, rfl⟩, hstatus, ⟨rfl, hcert⟩, rfl⟩
    exact ⟨peer, hmatches.signing_input⟩

/-- Some username record has the same signed bytes: every number and length in the encoding is
written as valid UTF-8, and there is a colon in it. -/
def PeerRecord.FitsUsername (record : PeerRecord) : Prop :=
  Separable signaling.colon record.to_proto_with_empty_sig.numbers record.to_proto_with_empty_sig.texts

def ProxyRecord.FitsUsername (record : ProxyRecord) : Prop :=
  Separable signaling.colon record.to_proto_with_empty_sig.numbers record.to_proto_with_empty_sig.texts

/-- A username record is signed as two texts that are joined by a colon. -/
theorem exists_username_iff {bytes : Bytes} {numbers : List Nat} {texts : List String}
    (hspells : Spells signaling.colon bytes numbers texts) :
    (∃ record : UsernameRecord, bytes = record.signing_input) ↔ Separable signaling.colon numbers texts := by
  rw [← hspells.exists_joined]
  constructor
  · rintro ⟨record, rfl⟩
    exact ⟨record.username, record.peer_id, rfl⟩
  · rintro ⟨username, peer_id, rfl⟩
    exact ⟨⟨username, peer_id, []⟩, rfl⟩

/-- A record is separated when no record of another kind is signed with the same bytes. -/
theorem SignedRecord.separated_iff {record : SignedRecord} :
    record.Separated ↔ ∀ other : SignedRecord, other.kind ≠ record.kind →
      record.signing_input ≠ other.signing_input := by
  simp only [Separated, apart_iff]

theorem PeerRecord.separated_iff (record : PeerRecord) :
    (SignedRecord.Peer record).Separated ↔ ¬record.FitsProxy ∧ ¬record.FitsUsername := by
  have husername : _ ↔ record.FitsUsername := exists_username_iff
    (signaling.PeerRecord.spells_encode_to_vec (show record.to_proto_with_empty_sig.signature = [] from rfl))
  rw [SignedRecord.separated_iff, ← exists_proxy_iff, ← husername]
  constructor
  · intro hseparated
    refine ⟨?_, ?_⟩
    · rintro ⟨proxy, heq⟩
      exact hseparated (.Proxy proxy) (by simp [SignedRecord.kind]) heq
    · rintro ⟨username, heq⟩
      exact hseparated (.Username username) (by simp [SignedRecord.kind]) heq
  · rintro ⟨hproxy, husername⟩ other hkind heq
    cases other with
    | Peer peer => exact hkind rfl
    | Proxy proxy => exact hproxy ⟨proxy, heq⟩
    | Username username => exact husername ⟨username, heq⟩

theorem ProxyRecord.separated_iff (record : ProxyRecord) :
    (SignedRecord.Proxy record).Separated ↔ ¬record.FitsPeer ∧ ¬record.FitsUsername := by
  have husername : _ ↔ record.FitsUsername := exists_username_iff
    (signaling.ProxyRecord.spells_encode_to_vec (show record.to_proto_with_empty_sig.signature = [] from rfl))
  rw [SignedRecord.separated_iff, ← exists_peer_iff, ← husername]
  constructor
  · intro hseparated
    refine ⟨?_, ?_⟩
    · rintro ⟨peer, heq⟩
      exact hseparated (.Peer peer) (by simp [SignedRecord.kind]) heq.symm
    · rintro ⟨username, heq⟩
      exact hseparated (.Username username) (by simp [SignedRecord.kind]) heq
  · rintro ⟨hpeer, husername⟩ other hkind heq
    cases other with
    | Peer peer => exact hpeer ⟨peer, heq.symm⟩
    | Proxy proxy => exact hkind rfl
    | Username username => exact husername ⟨username, heq⟩

/-- Which peer and proxy records are signed with bytes that are signed for no record of
another kind. Two records of different kinds include at least one of them. -/
theorem domain_separation_iff (peer : PeerRecord) (proxy : ProxyRecord) :
    ((SignedRecord.Peer peer).Separated ↔ ¬peer.FitsProxy ∧ ¬peer.FitsUsername) ∧
    ((SignedRecord.Proxy proxy).Separated ↔ ¬proxy.FitsPeer ∧ ¬proxy.FitsUsername) := by
  constructor
  · exact peer.separated_iff
  · exact proxy.separated_iff

/-- A proxy record, a peer record and a username record that are signed with the same bytes. -/
theorem relay_signed_alike :
    let proxy : ProxyRecord :=
      { node_id := "relay", proxy_url := "https://evil.example", capacity := 0, region := ""
        latency_hint_ms := 0, timestamp := 0, ttl_seconds := 0, cert_fingerprint := "", signature := [] }
    let peer : PeerRecord :=
      { peer_id := "relay", display_name := "https://evil.example", ipv6_addresses := [], ipv4_reflexive := []
        nat_info := none, tracks := [], status := .Online, timestamp := 0, ttl_seconds := 0, signature := [] }
    let username : UsernameRecord := ⟨"\n\x05relay\x12\x14https", "//evil.example", []⟩
    proxy.signing_input = peer.signing_input ∧ proxy.signing_input = username.signing_input ∧
      ¬(SignedRecord.Proxy proxy).Separated ∧ ¬(SignedRecord.Peer peer).Separated := by
  intro proxy peer username
  have hpeer : proxy.signing_input = peer.signing_input := by decide
  have husername : proxy.signing_input = username.signing_input := by decide
  refine ⟨hpeer, husername, ?_, ?_⟩
  · intro hseparated
    exact (hseparated (.Peer peer) (by decide)).signing_input hpeer
  · intro hseparated
    exact (hseparated (.Proxy proxy) (by decide)).signing_input hpeer.symm

end voip_dht.record
