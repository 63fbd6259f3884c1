import Voip.Dht.Discovery
import Voip.Result.Except

namespace voip_dht.discovery

open wire error record result voip_core.crypto voip_core.proto

/-- A check passes under the public key that an identifier encodes. -/
def VerifiesUnder (ed25519 : Ed25519) (id : String) (verify : Bytes → Except DhtError Unit) : Prop :=
  ∃ verifying_key, parse_peer_id ed25519 id = .ok verifying_key ∧ verify verifying_key = .ok ()

/-- The record is about this peer, who has signed it. -/
def AuthenticPeer (ed25519 : Ed25519) (peer_id : String) (record : PeerRecord) : Prop :=
  record.peer_id = peer_id ∧
    VerifiesUnder ed25519 peer_id fun verifying_key => record.verify ed25519 verifying_key

/-- The record is about this username, and the peer it names has signed it. -/
def AuthenticUsername (ed25519 : Ed25519) (username : String) (record : UsernameRecord) : Prop :=
  record.username = username ∧
    VerifiesUnder ed25519 record.peer_id fun verifying_key => record.verify ed25519 verifying_key

/-- The record is about this node, which has signed it. -/
def AuthenticProxy (ed25519 : Ed25519) (node_id : String) (record : ProxyRecord) : Prop :=
  record.node_id = node_id ∧
    VerifiesUnder ed25519 node_id fun verifying_key => record.verify ed25519 verifying_key

namespace DiscoveryService

/-- The DHT delivers in time, under the key of a peer, bytes that decode to a record which
is not expired. -/
def HoldsPeer (self : DiscoveryService) (peer_id : String) (record : PeerRecord) : Prop :=
  ∃ data, timeout self.dht_timeout_ms (self.dht_node.get_peer_record peer_id) = some (.ok data) ∧
    PeerRecord.decode self.codec data = .ok record ∧
    record.is_expired (self.dht_node.get_peer_record peer_id).now_secs = false

/-- The DHT delivers in time, under the key of a username, bytes that decode to a record. -/
def HoldsUsername (self : DiscoveryService) (username : String) (record : UsernameRecord) : Prop :=
  ∃ data, timeout self.dht_timeout_ms (self.dht_node.get_username_record username) = some (.ok data) ∧
    UsernameRecord.decode self.codec data = .ok record

/-- The DHT delivers, under the key of a proxy, bytes that decode to a record which is not
expired. -/
def HoldsProxy (self : DiscoveryService) (node_id : String) (record : ProxyRecord) : Prop :=
  ∃ data, (self.dht_node.get_proxy_record node_id).result = .ok data ∧
    ProxyRecord.decode self.codec data = .ok record ∧
    record.is_expired (self.dht_node.get_proxy_record node_id).now_secs = false

/-- The DHT path returns whatever unexpired record decodes. -/
theorem discover_peer_dht_eq_ok {self : DiscoveryService} {peer_id : String} {record : PeerRecord} :
    self.discover_peer_dht peer_id = .ok record ↔ self.HoldsPeer peer_id record := by
  unfold discover_peer_dht HoldsPeer
  dsimp only
  cases timeout self.dht_timeout_ms (self.dht_node.get_peer_record peer_id) with
  | none => simp
  | some result =>
    cases result with
    | error e => simp
    | ok data =>
      simp only [bind_eq_ok, Option.some.injEq, Except.ok.injEq, exists_eq_left']
      constructor
      · rintro ⟨decoded, hdecode, hchecked⟩
        split at hchecked
        next => simp at hchecked
        next hlive =>
          simp only [pure_eq_ok] at hchecked
          subst hchecked
          exact ⟨hdecode, by simpa using hlive⟩
      · rintro ⟨hdecode, hlive⟩
        exact ⟨record, hdecode, by simp [hlive]⟩

theorem resolve_username_dht_eq_ok {self : DiscoveryService} {username : String}
    {record : PeerRecord} :
    self.resolve_username_dht username = .ok record ↔
      ∃ username_record, self.HoldsUsername username username_record ∧
        self.HoldsPeer username_record.peer_id record := by
  unfold resolve_username_dht HoldsUsername
  simp only [bind_eq_ok, discover_peer_dht_eq_ok]
  cases timeout self.dht_timeout_ms (self.dht_node.get_username_record username) with
  | none => simp
  | some result =>
    cases result with
    | error e => simp
    | ok data => simp

theorem find_proxy_dht_eq_some {self : DiscoveryService} {node_id : String} {record : ProxyRecord} :
    self.find_proxy_dht node_id = some record ↔ self.HoldsProxy node_id record := by
  unfold find_proxy_dht HoldsProxy
  dsimp only
  cases (self.dht_node.get_proxy_record node_id).result with
  | error e => simp
  | ok data =>
    cases hdecode : ProxyRecord.decode self.codec data with
    | error e => simp [hdecode]
    | ok decoded =>
      simp only [Option.ite_none_left_eq_some, Option.some.injEq, Except.ok.injEq, exists_eq_left',
        Bool.not_eq_true, hdecode]
      constructor
      · rintro ⟨hlive, rfl⟩
        exact ⟨rfl, hlive⟩
      · rintro ⟨rfl, hlive⟩
        exact ⟨hlive, rfl⟩

/-- The proxies returned are the records found, one for each node that has one. -/
theorem mem_discover_proxy_dht {self : DiscoveryService} {node_ids : List String}
    {proxies : List ProxyRecord} (hproxies : self.discover_proxy_dht node_ids = .ok proxies)
    {record : ProxyRecord} :
    record ∈ proxies ↔ ∃ node_id ∈ node_ids, self.HoldsProxy node_id record := by
  injection hproxies with hproxies
  rw [← hproxies, List.mem_mergeSort, List.mem_filterMap]
  simp only [find_proxy_dht_eq_some]

end DiscoveryService

/-- Every record that the three DHT lookups return is the one asked for and signed by its
owner. -/
structure Authentic (ed25519 : Ed25519) (service : DiscoveryService) (peer_id username : String)
    (node_ids : List String) : Prop where
  peer : ∀ record, service.discover_peer_dht peer_id = .ok record → AuthenticPeer ed25519 peer_id record
  username : ∀ username_record record, service.HoldsUsername username username_record →
    service.resolve_username_dht username = .ok record →
    AuthenticUsername ed25519 username username_record ∧
      AuthenticPeer ed25519 username_record.peer_id record
  proxies : ∀ proxies, service.discover_proxy_dht node_ids = .ok proxies → ∀ record ∈ proxies,
    ∀ node_id ∈ node_ids, service.HoldsProxy node_id record → AuthenticProxy ed25519 node_id record

/-- What the DHT holds under the keys looked up is genuine: an unexpired record that
decodes there was signed by the owner of the identifier it is stored for. -/
structure GenuineContent (ed25519 : Ed25519) (service : DiscoveryService) (peer_id username : String)
    (node_ids : List String) : Prop where
  peer : ∀ record, service.HoldsPeer peer_id record → AuthenticPeer ed25519 peer_id record
  username : ∀ username_record record, service.HoldsUsername username username_record →
    service.HoldsPeer username_record.peer_id record →
    AuthenticUsername ed25519 username username_record ∧
      AuthenticPeer ed25519 username_record.peer_id record
  proxies : ∀ node_id ∈ node_ids, ∀ record, service.HoldsProxy node_id record →
    AuthenticProxy ed25519 node_id record

/-- No lookup checks a signature or an identifier, so the results are authentic exactly
when the content of the DHT already was. -/
theorem authentic_iff_genuine_content (ed25519 : Ed25519) (service : DiscoveryService)
    (peer_id username : String) (node_ids : List String) :
    Authentic ed25519 service peer_id username node_ids ↔
      GenuineContent ed25519 service peer_id username node_ids := by
  constructor
  · rintro ⟨hpeer, husername, hproxies⟩
    refine ⟨fun record hholds => hpeer record (DiscoveryService.discover_peer_dht_eq_ok.mpr hholds),
      fun username_record record huser hholds => ?_, fun node_id hnode record hholds => ?_⟩
    · apply husername username_record record huser
      exact DiscoveryService.resolve_username_dht_eq_ok.mpr ⟨username_record, huser, hholds⟩
    · have hfound : service.discover_proxy_dht node_ids = .ok _ := rfl
      have hmem := (DiscoveryService.mem_discover_proxy_dht hfound).mpr ⟨node_id, hnode, hholds⟩
      exact hproxies _ hfound record hmem node_id hnode hholds
  · rintro ⟨hpeer, husername, hproxies⟩
    refine ⟨fun record hfound => hpeer record (DiscoveryService.discover_peer_dht_eq_ok.mp hfound),
      fun username_record record huser hfound => ?_,
      fun proxies hfound record hmem node_id hnode hholds => hproxies node_id hnode record hholds⟩
    obtain ⟨resolved, hresolved, hholds⟩ := DiscoveryService.resolve_username_dht_eq_ok.mp hfound
    obtain ⟨data, hdata, hdecode⟩ := huser
    obtain ⟨data', hdata', hdecode'⟩ := hresolved
    have heq : resolved = username_record := by
      have hsame : data' = data := by simpa [hdata] using hdata'.symm
      rw [hsame, hdecode] at hdecode'
      simpa using hdecode'.symm
    rw [heq] at hholds
    exact husername username_record record ⟨data, hdata, hdecode⟩ hholds

end voip_dht.discovery

namespace voip_dht.record

open wire voip_core.proto

/-- The generated decoders, for a DHT that holds no username records. -/
def Codec.generated : Codec where
  peer_record data :=
    (signaling.PeerRecord.decode data).elim (.error "failed to decode Protobuf message") .ok
  proxy_record data :=
    (signaling.ProxyRecord.decode data).elim (.error "failed to decode Protobuf message") .ok
  username_record _ := .error "expected value at line 1 column 1"

/-- A record that anyone can write for a peer. -/
def PeerRecord.forged (peer_id address : String) : PeerRecord where
  peer_id := peer_id
  display_name := "Alice"
  ipv6_addresses := [address]
  ipv4_reflexive := []
  nat_info := none
  tracks := []
  status := .Online
  timestamp := 1700000000
  ttl_seconds := 3600
  signature := []

end voip_dht.record

namespace voip_dht.discovery

open wire error record voip_core.crypto

/-- A privacy-first client whose DHT answers every query with the same bytes and whose
signaling server is unreachable. -/
def DiscoveryService.answered (data : Bytes) : DiscoveryService where
  codec := .generated
  dht_node := { sha256 := id, get_record := fun _ => ⟨.ok data, 0, 1700000000⟩ }
  signaling :=
    { lookup_peer := fun _ => ⟨.error (.Http "connection refused"), 0, 1700000000⟩
      lookup_username := fun _ => ⟨.error (.Http "connection refused"), 0, 1700000000⟩
      get_proxies := .error (.Http "connection refused") }
  privacy_first := true
  dht_timeout_ms := 5000

/-- A peer whose id is a public key. -/
def alice : String := "d75a980182b10ab7d54bfed3c964073a0ee172f3daa62325af021a68f707511a"

/-- A discovery accepts a record that carries no signature at all. -/
theorem not_authentic_of_forged_record :
    (DiscoveryService.answered (PeerRecord.forged alice "2001:db8::bad").encode).discover_peer alice =
        .ok (.forged alice "2001:db8::bad") ∧
      ∀ ed25519 username node_ids, ¬Authentic ed25519
        (.answered (PeerRecord.forged alice "2001:db8::bad").encode) alice username node_ids := by
  have hfound : (DiscoveryService.answered
      (PeerRecord.forged alice "2001:db8::bad").encode).discover_peer_dht alice =
        .ok (.forged alice "2001:db8::bad") := by
    decide +kernel
  refine ⟨by rw [DiscoveryService.discover_peer, hfound]; rfl,
    fun ed25519 username node_ids hauthentic => ?_⟩
  obtain ⟨-, key, -, hverify⟩ := hauthentic.peer _ hfound
  simp [PeerRecord.verify, verify_signature, PeerRecord.forged] at hverify

end voip_dht.discovery
