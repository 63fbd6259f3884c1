import Voip.Dht.Authenticity
import Voip.Machine.Checked

namespace voip_dht.record

open checked

/-- The end of a record's life is a number of 64 bits. -/
def Fits (timestamp : UInt64) (ttl_seconds : UInt32) : Prop :=
  timestamp.toNat + ttl_seconds.toNat < 2 ^ 64

/-- A record's life has ended, whatever the size of the numbers. -/
def Outlived (timestamp : UInt64) (ttl_seconds : UInt32) (now : UInt64) : Prop :=
  timestamp.toNat + ttl_seconds.toNat < now.toNat

instance (timestamp : UInt64) (ttl_seconds : UInt32) (now : UInt64) :
    Decidable (Outlived timestamp ttl_seconds now) :=
  inferInstanceAs (Decidable (timestamp.toNat + ttl_seconds.toNat < now.toNat))

/-- `timestamp + ttl_seconds as u64` with its fault. -/
def life_end_checked (timestamp : UInt64) (ttl_seconds : UInt32) : Except Fault UInt64 := do
  return .ofNat (← add 64 timestamp.toNat ttl_seconds.toNat)

def life_ended_checked (now timestamp : UInt64) (ttl_seconds : UInt32) : Except Fault Bool := do
  return (← life_end_checked timestamp ttl_seconds) < now

def PeerRecord.expires_at_checked (self : PeerRecord) : Except Fault UInt64 :=
  life_end_checked self.timestamp self.ttl_seconds

def PeerRecord.is_expired_checked (now : UInt64) (self : PeerRecord) : Except Fault Bool :=
  life_ended_checked now self.timestamp self.ttl_seconds

def ProxyRecord.expires_at_checked (self : ProxyRecord) : Except Fault UInt64 :=
  life_end_checked self.timestamp self.ttl_seconds

def ProxyRecord.is_expired_checked (now : UInt64) (self : ProxyRecord) : Except Fault Bool :=
  life_ended_checked now self.timestamp self.ttl_seconds

variable {timestamp now : UInt64} {ttl_seconds : UInt32}

theorem ofNat_life_end :
    UInt64.ofNat (timestamp.toNat + ttl_seconds.toNat) = timestamp + ttl_seconds.toUInt64 := by
  apply UInt64.toNat_inj.mp
  simp [UInt64.toNat_add]

/-- The wrapping comparison is that of the numbers. -/
theorem Fits.lt_iff (hfits : Fits timestamp ttl_seconds) :
    timestamp + ttl_seconds.toUInt64 < now ↔ Outlived timestamp ttl_seconds now := by
  rw [← ofNat_life_end, UInt64.lt_iff_toNat_lt, UInt64.toNat_ofNat_of_lt' hfits]
  rfl

theorem life_end_guarded :
    Guarded (life_end_checked timestamp ttl_seconds) (timestamp + ttl_seconds.toUInt64)
      (Fits timestamp ttl_seconds) :=
  add_guarded.bind fun _ => congrArg Except.ok ofNat_life_end

theorem life_ended_guarded :
    Guarded (life_ended_checked now timestamp ttl_seconds) (timestamp + ttl_seconds.toUInt64 < now : Bool)
      (Fits timestamp ttl_seconds) :=
  life_end_guarded.bind fun _ => rfl

/-- An expiry check that acts on its answer, and names the end of the life of an expired record. -/
theorem life_ended_guarded_ite {α : Type} (ended : UInt64 → α) (live : α) :
    Guarded
      (do
        if ← life_ended_checked now timestamp ttl_seconds then
          return ended (← life_end_checked timestamp ttl_seconds)
        else
          return live)
      (if timestamp + ttl_seconds.toUInt64 < now then ended (timestamp + ttl_seconds.toUInt64) else live)
      (Fits timestamp ttl_seconds) := by
  refine life_ended_guarded.bind fun hfits => ?_
  rw [life_end_guarded.eq_ok hfits]
  by_cases hended : timestamp + ttl_seconds.toUInt64 < now
  · simp [hended, Bind.bind, Except.bind, pure, Except.pure]
  · simp [hended, pure, Except.pure]

end voip_dht.record

namespace voip_dht.discovery

open wire error record checked

namespace DiscoveryService

/-- `discover_peer_dht` with the faults of its additions. -/
def discover_peer_dht_checked (self : DiscoveryService) (peer_id : String) :
    Except Fault (Except DhtError PeerRecord) :=
  let answer := self.dht_node.get_peer_record peer_id
  match timeout self.dht_timeout_ms answer with
  | some (.ok data) =>
    match PeerRecord.decode self.codec data with
    | .ok record => do
      if ← record.is_expired_checked answer.now_secs then
        return .error (.RecordExpired peer_id (← record.expires_at_checked))
      else
        return .ok record
    | .error e => .ok (.error e)
  | some (.error e) => .ok (.error e)
  | none => .ok (.error (.LookupTimeout peer_id self.dht_timeout_ms))

/-- What the loop of `discover_proxy_dht` pushes for one node. The warning about an expired record
names the end of its life. -/
def find_proxy_dht_checked (self : DiscoveryService) (node_id : String) :
    Except Fault (Option ProxyRecord) :=
  let answer := self.dht_node.get_proxy_record node_id
  match answer.result with
  | .ok data =>
    match ProxyRecord.decode self.codec data with
    | .ok record => do
      if ← record.is_expired_checked answer.now_secs then
        let _expired_at ← record.expires_at_checked
        return none
      else
        return some record
    | .error _ => .ok none
  | .error _ => .ok none

def discover_proxy_dht_checked (self : DiscoveryService) (node_ids : List String) :
    Except Fault (Except DhtError (List ProxyRecord)) := do
  let proxies ← filterMap self.find_proxy_dht_checked node_ids
  return .ok (proxies.mergeSort fun first second => first.latency_hint_ms ≤ second.latency_hint_ms)

/-- A candidate that `select_proxy` leaves among those it compares. -/
def keep_live_checked (now : UInt64) (candidate : ProxyRecord) : Except Fault (Option ProxyRecord) := do
  if ← candidate.is_expired_checked now then return none else return some candidate

def select_proxy_checked (now : UInt64) (candidates : List ProxyRecord)
    (max_region_distance : Option String) : Except Fault (Option ProxyRecord) := do
  let live ← filterMap (keep_live_checked now) candidates
  return min_by_key ProxyRecord.latency_hint_ms ((live.filter
    fun p => p.capacity > 0).filter fun p => max_region_distance.isNone || p.region.isEmpty)

/-- The DHT answers in time with bytes that decode to this record. -/
def FindsPeer (self : DiscoveryService) (peer_id : String) (record : PeerRecord) : Prop :=
  ∃ data, timeout self.dht_timeout_ms (self.dht_node.get_peer_record peer_id) = some (.ok data) ∧
    PeerRecord.decode self.codec data = .ok record

def FindsProxy (self : DiscoveryService) (node_id : String) (record : ProxyRecord) : Prop :=
  ∃ data, (self.dht_node.get_proxy_record node_id).result = .ok data ∧
    ProxyRecord.decode self.codec data = .ok record

variable {self : DiscoveryService} {peer_id node_id : String}

theorem forall_findsPeer {data : Bytes} {record : PeerRecord} {P : PeerRecord → Prop}
    (hanswer : timeout self.dht_timeout_ms (self.dht_node.get_peer_record peer_id) = some (.ok data))
    (hdecode : PeerRecord.decode self.codec data = .ok record) :
    (∀ found, self.FindsPeer peer_id found → P found) ↔ P record := by
  simp [FindsPeer, hanswer, hdecode]

theorem forall_findsProxy {data : Bytes} {record : ProxyRecord} {P : ProxyRecord → Prop}
    (hanswer : (self.dht_node.get_proxy_record node_id).result = .ok data)
    (hdecode : ProxyRecord.decode self.codec data = .ok record) :
    (∀ found, self.FindsProxy node_id found → P found) ↔ P record := by
  simp [FindsProxy, hanswer, hdecode]

/-- What a lookup makes of the record that it finds. -/
theorem discover_peer_dht_of_finds {record : PeerRecord} (hfinds : self.FindsPeer peer_id record) :
    self.discover_peer_dht peer_id =
      if record.expires_at < (self.dht_node.get_peer_record peer_id).now_secs then
        .error (.RecordExpired peer_id record.expires_at)
      else .ok record := by
  obtain ⟨data, hanswer, hdecode⟩ := hfinds
  simp only [discover_peer_dht, hanswer, hdecode, PeerRecord.is_expired, decide_eq_true_eq]
  rfl

theorem find_proxy_dht_of_finds {record : ProxyRecord} (hfinds : self.FindsProxy node_id record) :
    self.find_proxy_dht node_id =
      if record.expires_at < (self.dht_node.get_proxy_record node_id).now_secs then none
      else some record := by
  obtain ⟨data, hanswer, hdecode⟩ := hfinds
  simp only [find_proxy_dht, hanswer, hdecode, ProxyRecord.is_expired, decide_eq_true_eq]

/-- A lookup of a peer has no fault just when the record that it finds has none. -/
theorem discover_peer_dht_guarded (self : DiscoveryService) (peer_id : String) :
    Guarded (self.discover_peer_dht_checked peer_id) (self.discover_peer_dht peer_id)
      (∀ record, self.FindsPeer peer_id record → Fits record.timestamp record.ttl_seconds) := by
  cases hanswer : timeout self.dht_timeout_ms (self.dht_node.get_peer_record peer_id) with
  | none =>
    refine .of_eq_ok ?_ (by simp [FindsPeer, hanswer])
    simp only [discover_peer_dht_checked, discover_peer_dht, hanswer]
  | some result =>
    cases result with
    | error e =>
      refine .of_eq_ok ?_ (by simp [FindsPeer, hanswer])
      simp only [discover_peer_dht_checked, discover_peer_dht, hanswer]
    | ok data =>
      cases hdecode : PeerRecord.decode self.codec data with
      | error e =>
        refine .of_eq_ok ?_ (by simp [FindsPeer, hanswer, hdecode])
        simp only [discover_peer_dht_checked, discover_peer_dht, hanswer, hdecode]
        rfl
      | ok record =>
        rw [forall_findsPeer hanswer hdecode, discover_peer_dht_of_finds ⟨data, hanswer, hdecode⟩]
        simp only [discover_peer_dht_checked, hanswer, hdecode]
        exact life_ended_guarded_ite (fun expired_at => Except.error (DhtError.RecordExpired peer_id expired_at))
          (.ok record)

theorem find_proxy_dht_guarded (self : DiscoveryService) (node_id : String) :
    Guarded (self.find_proxy_dht_checked node_id) (self.find_proxy_dht node_id)
      (∀ record, self.FindsProxy node_id record → Fits record.timestamp record.ttl_seconds) := by
  cases hanswer : (self.dht_node.get_proxy_record node_id).result with
  | error e =>
    refine .of_eq_ok ?_ (by simp [FindsProxy, hanswer])
    simp only [find_proxy_dht_checked, find_proxy_dht, hanswer]
  | ok data =>
    cases hdecode : ProxyRecord.decode self.codec data with
    | error e =>
      refine .of_eq_ok ?_ (by simp [FindsProxy, hanswer, hdecode])
      simp only [find_proxy_dht_checked, find_proxy_dht, hanswer, hdecode]
    | ok record =>
      rw [forall_findsProxy hanswer hdecode, find_proxy_dht_of_finds ⟨data, hanswer, hdecode⟩]
      simp only [find_proxy_dht_checked, hanswer, hdecode]
      exact life_ended_guarded_ite (fun _ => none) (some record)

theorem discover_proxy_dht_guarded (self : DiscoveryService) (node_ids : List String) :
    Guarded (self.discover_proxy_dht_checked node_ids) (self.discover_proxy_dht node_ids)
      (∀ node_id ∈ node_ids, ∀ record, self.FindsProxy node_id record →
        Fits record.timestamp record.ttl_seconds) :=
  (Guarded.filterMap self.find_proxy_dht_guarded).bind fun _ => rfl

theorem keep_live_guarded (now : UInt64) (candidate : ProxyRecord) :
    Guarded (keep_live_checked now candidate) (Option.guard (fun p => !p.is_expired now) candidate)
      (Fits candidate.timestamp candidate.ttl_seconds) := by
  refine life_ended_guarded.bind fun _ => ?_
  change (if candidate.is_expired now then _ else _) = _
  cases hexpired : candidate.is_expired now <;> simp [Option.guard, hexpired]

theorem select_proxy_guarded (now : UInt64) (candidates : List ProxyRecord)
    (max_region_distance : Option String) :
    Guarded (select_proxy_checked now candidates max_region_distance)
      (select_proxy now candidates max_region_distance)
      (∀ candidate ∈ candidates, Fits candidate.timestamp candidate.ttl_seconds) := by
  refine (Guarded.filterMap (keep_live_guarded now)).bind fun _ => ?_
  rw [List.filterMap_eq_filter]
  rfl

/-- The expiry checks of a peer lookup, of a discovery of proxies and of a selection among
candidates add without overflow and drop just the records whose life has ended. -/
structure ExactExpiry (service : DiscoveryService) (peer_id : String) (node_ids : List String)
    (candidates : List ProxyRecord) (max_region_distance : Option String) (now : UInt64) : Prop where
  peer_safe : service.discover_peer_dht_checked peer_id = .ok (service.discover_peer_dht peer_id)
  peer_exact : ∀ record, service.FindsPeer peer_id record → service.discover_peer_dht peer_id =
    if Outlived record.timestamp record.ttl_seconds (service.dht_node.get_peer_record peer_id).now_secs then
      .error (.RecordExpired peer_id (.ofNat (record.timestamp.toNat + record.ttl_seconds.toNat)))
    else .ok record
  proxies_safe : service.discover_proxy_dht_checked node_ids = .ok (service.discover_proxy_dht node_ids)
  proxies_exact : ∀ node_id ∈ node_ids, ∀ record, service.FindsProxy node_id record →
    service.find_proxy_dht node_id =
      if Outlived record.timestamp record.ttl_seconds (service.dht_node.get_proxy_record node_id).now_secs then
        none
      else some record
  select_safe : select_proxy_checked now candidates max_region_distance =
    .ok (select_proxy now candidates max_region_distance)
  select_exact : ∀ candidate ∈ candidates,
    candidate.is_expired now = decide (Outlived candidate.timestamp candidate.ttl_seconds now)

/-- Expiry is exact just when the end of every record's life is a number of 64 bits. -/
theorem exactExpiry_iff (self : DiscoveryService) (peer_id : String) (node_ids : List String)
    (candidates : List ProxyRecord) (max_region_distance : Option String) (now : UInt64) :
    self.ExactExpiry peer_id node_ids candidates max_region_distance now ↔
      (∀ record, self.FindsPeer peer_id record → Fits record.timestamp record.ttl_seconds) ∧
      (∀ node_id ∈ node_ids, ∀ record, self.FindsProxy node_id record →
        Fits record.timestamp record.ttl_seconds) ∧
      ∀ candidate ∈ candidates, Fits candidate.timestamp candidate.ttl_seconds := by
  constructor
  · intro hexact
    exact ⟨(self.discover_peer_dht_guarded peer_id).eq_ok_iff.mp hexact.peer_safe,
      (self.discover_proxy_dht_guarded node_ids).eq_ok_iff.mp hexact.proxies_safe,
      (select_proxy_guarded now candidates max_region_distance).eq_ok_iff.mp hexact.select_safe⟩
  · rintro ⟨hpeer, hproxies, hcandidates⟩
    refine ⟨(self.discover_peer_dht_guarded peer_id).eq_ok hpeer, fun record hfinds => ?_,
      (self.discover_proxy_dht_guarded node_ids).eq_ok hproxies, fun node_id hnode record hfinds => ?_,
      (select_proxy_guarded now candidates max_region_distance).eq_ok hcandidates,
      fun candidate hcandidate => ?_⟩
    · rw [discover_peer_dht_of_finds hfinds, ofNat_life_end]
      simp only [PeerRecord.expires_at, (hpeer record hfinds).lt_iff]
    · rw [find_proxy_dht_of_finds hfinds]
      simp only [ProxyRecord.expires_at, (hproxies node_id hnode record hfinds).lt_iff]
    · simp only [ProxyRecord.is_expired, ProxyRecord.expires_at, (hcandidates candidate hcandidate).lt_iff]

end DiscoveryService

/-- A record whose timestamp is the last one of 64 bits. -/
def endless : PeerRecord := { PeerRecord.forged alice "2001:db8::bad" with timestamp := 18446744073709551615 }

/-- Anyone can store a record whose life ends after the last second of 64 bits. A build without
overflow checks takes it for expired. -/
theorem not_exactExpiry_of_last_timestamp :
    (DiscoveryService.answered endless.encode).discover_peer_dht_checked alice = .error .overflow ∧
      (DiscoveryService.answered endless.encode).discover_peer_dht alice = .error (.RecordExpired alice 3599) ∧
      ¬(DiscoveryService.answered endless.encode).ExactExpiry alice [] [] none 1700000000 := by
  have hchecked :
      (DiscoveryService.answered endless.encode).discover_peer_dht_checked alice = .error .overflow := by
    decide +kernel
  refine ⟨hchecked, by decide +kernel, fun hexact => ?_⟩
  cases hchecked.symm.trans hexact.peer_safe

end voip_dht.discovery
