import Voip.Client.NatClassify
import Mathlib.Tactic.SplitIfs

namespace voip_client.nat_probe

open voip_core.config voip_core.types

structure NATProbeCache where
  probes : List NATProbeResult
  average_delta : Int32
  delta_variance : Int32
  confidence : PredictionConfidence
  cache_timestamp : UInt64
  cache_ttl_seconds : UInt32
  deriving DecidableEq

def build_cache (config : TraversalConfig) (now_ms : UInt64) (results : List NATProbeResult)
    (nat_info : NATInfo) : NATProbeCache :=
  let deltas := port_deltas (external_ports results)
  { probes := results
    average_delta := if deltas.isEmpty then 0 else avg_delta deltas
    delta_variance := nat_probe.delta_variance deltas
    confidence := (nat_info.prediction.map (·.confidence)).getD .Random
    cache_timestamp := now_ms
    cache_ttl_seconds := config.nat_cache_ttl_secs.toUInt32 }

/-- The margins that the reader of the cache has written into it. -/
def cached_margin : PredictionConfidence → Int32
  | .Sequential => 3
  | .PseudoSequential => 8
  | .Random => 0

def cached_nat_type : PredictionConfidence → NATType
  | .Sequential => .SymmetricSequential
  | .PseudoSequential => .SymmetricPseudo
  | .Random => .SymmetricRandom

def cached_to_nat_info (cache : NATProbeCache) : NATInfo :=
  if all_same (external_ports cache.probes) then { nat_type := .Cone, prediction := none }
  else if cache.confidence = .Random then { nat_type := .SymmetricRandom, prediction := none }
  else
    { nat_type := cached_nat_type cache.confidence
      prediction := cache.probes.getLast?.map fun last =>
        predict_from last cache.average_delta cache.confidence (cached_margin cache.confidence)
          (last.timestamp_ms / 1000) }

inductive NatProbeError where
  | NotConnected
  | ProbeTimeout (ip : String)
  | MigrationFailed (ip reason : String)
  | InsufficientProbes (got need : Nat)
  deriving DecidableEq

structure NATProber where
  config : TraversalConfig
  cache : Option NATProbeCache

/-- The readings of the clock during a probe: one for the prediction, one for the cache. -/
structure Clock where
  now_secs : UInt64
  now_ms : UInt64

/-- Whether a cache has been written less than its time to live ago. The subtraction of the
source saturates. -/
def NATProbeCache.Fresh (cache : NATProbeCache) (now_ms : UInt64) : Prop :=
  now_ms.toNat - cache.cache_timestamp.toNat < cache.cache_ttl_seconds.toNat * 1000

instance (cache : NATProbeCache) (now_ms : UInt64) : Decidable (cache.Fresh now_ms) :=
  inferInstanceAs (Decidable (_ < _))

def NATProber.cached_nat_info (prober : NATProber) (now_ms : UInt64) : Option NATInfo :=
  prober.cache.bind fun cache => if cache.Fresh now_ms then some (cached_to_nat_info cache) else none

def NATProber.ips_to_probe (prober : NATProber) : List String :=
  prober.config.signaling_server_ips.take prober.config.path_probe_count.toNat

section

-- what the network makes of the probe of an address
variable (probe_single_path : String → Nat → Except NatProbeError NATProbeResult)

/-- The results of the paths that answered, in the order of the addresses. -/
def NATProber.collect (prober : NATProber) : List NATProbeResult :=
  prober.ips_to_probe.zipIdx.filterMap fun (server_ip, i) => (probe_single_path server_ip i).toOption

def NATProber.probe (prober : NATProber) (clock : Clock) : Except NatProbeError NATInfo × NATProber :=
  if prober.ips_to_probe.isEmpty then (.error .NotConnected, prober)
  else
    let results := prober.collect probe_single_path
    if results.length < 3 then (.error (.InsufficientProbes results.length 3), prober)
    else
      let nat_info := classify_nat prober.config clock.now_secs results
      (.ok nat_info, { prober with cache := some (build_cache prober.config clock.now_ms results nat_info) })

end

/-- What a peer is told about the ports of a NAT. -/
def predicted_ports (info : NATInfo) : Option (UInt32 × UInt32) :=
  info.prediction.map fun prediction => (prediction.predicted_port_start, prediction.predicted_port_end)

/-- Two classifications that differ at most in when and where they were made. -/
def Alike (info other : NATInfo) : Prop :=
  info.nat_type = other.nat_type ∧ predicted_ports info = predicted_ports other

/-- The probes for which the reader of the cache has the answer of the classification: the first
comes from an IPv4 address, and the configured margin that applies to the spread of the ports is
the one written into the reader. -/
structure CacheSpeaksFor (config : TraversalConfig) (results : List NATProbeResult) : Prop where
  ipv4 : ∀ first ∈ results.head?, is_ipv6 first = false
  sequential : all_same (external_ports results) = false →
    let spread := delta_variance (port_deltas (external_ports results))
    spread = 0 ∨ spread ≤ config.nat_delta_variance_threshold.toInt32 →
      config.prediction_margin_sequential = 3
  pseudo : all_same (external_ports results) = false →
    let spread := delta_variance (port_deltas (external_ports results))
    spread ≠ 0 → ¬ spread ≤ config.nat_delta_variance_threshold.toInt32 →
      spread ≤ config.nat_delta_variance_threshold.toInt32 * 3 → config.prediction_margin_pseudo = 8

theorem int32_max_eq (a b : Int32) : max a b = if a ≤ b then b else a := rfl

theorem int32_min_eq (a b : Int32) : min a b = if a ≤ b then a else b := rfl

private theorem int32_toUInt32_inj {a b : Int32} (h : a.toUInt32 = b.toUInt32) : a = b := by
  cases a
  cases b
  exact congrArg _ h

/-- A range tells its margin, whatever the centre: the clamps never hide both ends, even when
the 32-bit arithmetic wraps. -/
theorem port_range_inj {center margin fixed : Int32} (hfixed : 0 ≤ fixed.toInt ∧ fixed.toInt ≤ 8)
    (hrange : port_range center fixed = port_range center margin) : margin = fixed := by
  obtain ⟨hstart, hend⟩ := Prod.mk.injEq .. ▸ hrange
  have hstart := congrArg Int32.toInt (int32_toUInt32_inj hstart)
  have hend := congrArg Int32.toInt (int32_toUInt32_inj hend)
  have hcenter := And.intro center.le_toInt center.toInt_lt
  have hmargin := And.intro margin.le_toInt margin.toInt_lt
  rw [← Int32.toInt_inj]
  simp only [int32_max_eq, int32_min_eq, apply_ite Int32.toInt, Int32.le_iff_toInt_le,
    Int32.toInt_sub, Int32.toInt_add, Int.bmod_def, show (1024 : Int32).toInt = 1024 from rfl,
    show (65535 : Int32).toInt = 65535 from rfl] at hstart hend
  omega

theorem cached_margin_bounds (confidence : PredictionConfidence) :
    0 ≤ (cached_margin confidence).toInt ∧ (cached_margin confidence).toInt ≤ 8 := by
  cases confidence <;> decide

theorem classify_spread_fst (config : TraversalConfig) (variance : Int32) :
    (classify_spread config variance).1 = cached_nat_type (classify_spread config variance).2 := by
  unfold classify_spread
  dsimp only
  split_ifs <;> rfl

-- probes from IPv4 addresses whose ports are not all the same
section differing

variable {config : TraversalConfig} {results : List NATProbeResult}

/-- The confidence that the spread of the ports deserves. -/
def spread_confidence (config : TraversalConfig) (results : List NATProbeResult) : PredictionConfidence :=
  (classify_spread config (delta_variance (port_deltas (external_ports results)))).2

theorem port_deltas_ne_nil (hdiffer : all_same (external_ports results) = false) :
    (port_deltas (external_ports results)).isEmpty = false := by
  unfold port_deltas
  unfold all_same at hdiffer
  cases hwindows : windows (external_ports results) with
  | nil => simp [hwindows] at hdiffer
  | cons w rest => rfl

theorem classify_nat_of_differing (hne : results ≠ []) (now_secs : UInt64)
    (hipv4 : ∀ first ∈ results.head?, is_ipv6 first = false)
    (hdiffer : all_same (external_ports results) = false) :
    classify_nat config now_secs results =
      { nat_type := cached_nat_type (spread_confidence config results)
        prediction :=
          if spread_confidence config results ≠ .Random then
            some (compute_prediction config now_secs results hne
              (avg_delta (port_deltas (external_ports results))) (spread_confidence config results))
          else none } := by
  cases results with
  | nil => contradiction
  | cons first rest =>
    have hipv4 : is_ipv6 first = false := hipv4 first rfl
    simp only [classify_nat, hipv4, hdiffer, port_deltas_ne_nil hdiffer, Bool.false_eq_true, if_false,
      classify_spread_fst]
    rfl

/-- The reader of the cache makes the same prediction, with a margin of its own. -/
theorem cached_to_nat_info_of_differing (hne : results ≠ []) (clock : Clock)
    (hipv4 : ∀ first ∈ results.head?, is_ipv6 first = false)
    (hdiffer : all_same (external_ports results) = false) :
    cached_to_nat_info (build_cache config clock.now_ms results (classify_nat config clock.now_secs results)) =
      { nat_type := cached_nat_type (spread_confidence config results)
        prediction :=
          if spread_confidence config results ≠ .Random then
            some (predict_from (results.getLast hne) (avg_delta (port_deltas (external_ports results)))
              (spread_confidence config results) (cached_margin (spread_confidence config results))
              ((results.getLast hne).timestamp_ms / 1000))
          else none } := by
  rw [classify_nat_of_differing hne clock.now_secs hipv4 hdiffer]
  generalize spread_confidence config results = confidence
  by_cases hrandom : confidence = .Random
  · subst hrandom
    simp [build_cache, cached_to_nat_info, hdiffer, cached_nat_type]
  · have hlast : results.getLast? = some (results.getLast hne) := List.getLast?_eq_some_getLast hne
    simp only [hrandom, ne_eq, not_false_eq_true, if_true, build_cache, cached_to_nat_info, hdiffer,
      Bool.false_eq_true, if_false, port_deltas_ne_nil hdiffer, Option.map_some, Option.getD_some,
      compute_prediction, predict_from, hlast]

/-- The cache keeps the confidence of the classification, not the margin that it used. -/
theorem alike_iff_margin (hne : results ≠ []) (clock : Clock)
    (hipv4 : ∀ first ∈ results.head?, is_ipv6 first = false)
    (hdiffer : all_same (external_ports results) = false) :
    let fresh := classify_nat config clock.now_secs results
    Alike (cached_to_nat_info (build_cache config clock.now_ms results fresh)) fresh ↔
      prediction_margin config (spread_confidence config results) =
        cached_margin (spread_confidence config results) := by
  intro fresh
  rw [cached_to_nat_info_of_differing hne clock hipv4 hdiffer,
    show fresh = _ from classify_nat_of_differing hne clock.now_secs hipv4 hdiffer]
  generalize spread_confidence config results = confidence
  by_cases hrandom : confidence = .Random
  · subst hrandom
    exact iff_of_true ⟨rfl, rfl⟩ rfl
  · simp only [hrandom, ne_eq, not_false_eq_true, if_true, compute_prediction, predict_from, Alike, predicted_ports,
      Option.map_some, true_and, Option.some.injEq, Prod.mk.eta]
    exact ⟨fun hrange => port_range_inj (cached_margin_bounds confidence) hrange, fun h => by rw [h]⟩

theorem cacheSpeaksFor_iff_margin (hipv4 : ∀ first ∈ results.head?, is_ipv6 first = false)
    (hdiffer : all_same (external_ports results) = false) :
    CacheSpeaksFor config results ↔
      prediction_margin config (spread_confidence config results) =
        cached_margin (spread_confidence config results) := by
  have hmargin (margin fixed : UInt32) : margin.toInt32 = fixed.toInt32 ↔ margin = fixed :=
    ⟨congrArg Int32.toUInt32, congrArg UInt32.toInt32⟩
  unfold spread_confidence classify_spread
  dsimp only
  split_ifs with hsmall hbounded
  · rw [show prediction_margin config .Sequential = cached_margin .Sequential ↔ _ from hmargin _ 3]
    exact ⟨fun h => h.sequential hdiffer hsmall,
      fun h => ⟨hipv4, fun _ _ => h, fun _ hne hlarge => (hsmall.elim hne hlarge).elim⟩⟩
  · rw [show prediction_margin config .PseudoSequential = cached_margin .PseudoSequential ↔ _ from hmargin _ 8]
    rw [not_or] at hsmall
    exact ⟨fun h => h.pseudo hdiffer hsmall.1 hsmall.2 hbounded,
      fun h => ⟨hipv4, fun _ hle => (hle.elim hsmall.1 hsmall.2).elim, fun _ _ _ _ => h⟩⟩
  · exact ⟨fun _ => rfl,
      fun _ => ⟨hipv4, fun _ hle => (hsmall hle).elim, fun _ _ _ hle => (hbounded hle).elim⟩⟩

end differing

/-- Of addresses that are all reached through one port the cache says that the NAT is a cone. -/
theorem alike_iff_of_all_same {config : TraversalConfig} {results : List NATProbeResult} (hne : results ≠ [])
    (clock : Clock) (hsame : all_same (external_ports results) = true) :
    let fresh := classify_nat config clock.now_secs results
    Alike (cached_to_nat_info (build_cache config clock.now_ms results fresh)) fresh ↔
      ∀ first ∈ results.head?, is_ipv6 first = false := by
  cases results with
  | nil => contradiction
  | cons first rest =>
    cases hipv6 : is_ipv6 first <;>
      simp [classify_nat, hipv6, hsame, build_cache, cached_to_nat_info, Alike, predicted_ports]

theorem cached_to_nat_info_ne_none (cache : NATProbeCache) : (cached_to_nat_info cache).nat_type ≠ .None := by
  unfold cached_to_nat_info
  split_ifs
  · nofun
  · nofun
  · cases cache.confidence <;> nofun

theorem alike_iff_cacheSpeaksFor {config : TraversalConfig} {results : List NATProbeResult} (hne : results ≠ [])
    (clock : Clock) :
    let fresh := classify_nat config clock.now_secs results
    Alike (cached_to_nat_info (build_cache config clock.now_ms results fresh)) fresh ↔
      CacheSpeaksFor config results := by
  by_cases hipv4 : ∀ first ∈ results.head?, is_ipv6 first = false
  · cases hsame : all_same (external_ports results) with
    | true =>
      exact (alike_iff_of_all_same hne clock hsame).trans
        ⟨fun h => ⟨h, fun h => by simp [hsame] at h, fun h => by simp [hsame] at h⟩, fun h => h.ipv4⟩
    | false => exact (alike_iff_margin hne clock hipv4 hsame).trans (cacheSpeaksFor_iff_margin hipv4 hsame).symm
  · -- an IPv6 peer is classified as having no NAT, which no cache is ever read as
    refine iff_of_false (fun halike => cached_to_nat_info_ne_none _ (halike.1.trans ?_)) (fun h => hipv4 h.ipv4)
    cases results with
    | nil => contradiction
    | cons first rest =>
      have hipv6 : is_ipv6 first = true := by simpa using hipv4
      simp only [classify_nat, hipv6, if_true]

theorem probe_of_enough (prober : NATProber)
    (probe_single_path : String → Nat → Except NatProbeError NATProbeResult) (clock : Clock)
    {results : List NATProbeResult} (hresults : prober.collect probe_single_path = results)
    (hthree : 3 ≤ results.length) :
    let fresh := classify_nat prober.config clock.now_secs results
    prober.probe probe_single_path clock =
      (.ok fresh, { prober with cache := some (build_cache prober.config clock.now_ms results fresh) }) := by
  have hips : prober.ips_to_probe.isEmpty = false := by
    cases hips : prober.ips_to_probe with
    | nil => simp [← hresults, NATProber.collect, hips] at hthree
    | cons => rfl
  simp only [NATProber.probe, hips, hresults, Bool.false_eq_true, if_false, if_neg (Nat.not_lt.mpr hthree)]

/-- A probe with enough answers fills the cache, and until it expires the cache gives the type and
the port range of that probe exactly when it speaks for the answers. -/
theorem cached_nat_info_agrees_iff (prober : NATProber)
    (probe_single_path : String → Nat → Except NatProbeError NATProbeResult) (clock : Clock) (later_ms : UInt64)
    (results : List NATProbeResult) (hresults : prober.collect probe_single_path = results)
    (hthree : 3 ≤ results.length)
    (hfresh : later_ms.toNat - clock.now_ms.toNat < prober.config.nat_cache_ttl_secs.toUInt32.toNat * 1000) :
    ∃ fresh cached, (prober.probe probe_single_path clock).1 = .ok fresh ∧
      (prober.probe probe_single_path clock).2.cached_nat_info later_ms = some cached ∧
      (Alike cached fresh ↔ CacheSpeaksFor prober.config results) := by
  have hne : results ≠ [] := List.ne_nil_of_length_pos (by omega)
  rw [probe_of_enough prober probe_single_path clock hresults hthree]
  exact ⟨_, _, rfl, if_pos hfresh, alike_iff_cacheSpeaksFor hne clock⟩

/-- What three probes from an address and three ports give. -/
def answer_from (external_ip : String) (ports : Nat → UInt16) (server_ip : String) (i : Nat) :
    Except NatProbeError NATProbeResult :=
  .ok { server_ip := server_ip, local_port := 0, external_ip := external_ip, external_port := ports i,
        timestamp_ms := 1000, rtt_ms := 10 }

def three_paths : NATProber where
  config := { TraversalConfig.default with signaling_server_ips := ["198.51.100.1", "198.51.100.2", "198.51.100.3"] }
  cache := none

theorem cached_nat_info_agrees_of_sequential_ports :
    ∃ fresh cached,
      (three_paths.probe (answer_from "203.0.113.7" fun i => 40000 + UInt16.ofNat i) ⟨1, 1000⟩).1 = .ok fresh ∧
      (three_paths.probe (answer_from "203.0.113.7" fun i => 40000 + UInt16.ofNat i) ⟨1, 1000⟩).2.cached_nat_info
        2000 = some cached ∧
      Alike cached fresh := by
  obtain ⟨fresh, cached, hfresh, hcached, hiff⟩ := cached_nat_info_agrees_iff three_paths
    (answer_from "203.0.113.7" fun i => 40000 + UInt16.ofNat i) ⟨1, 1000⟩ 2000 _ rfl (by decide) (by decide)
  exact ⟨fresh, cached, hfresh, hcached, hiff.mpr ⟨by decide, fun _ _ => rfl, fun _ _ _ _ => rfl⟩⟩

/-- Three probes from one IPv6 address: no NAT at first, a cone as read from the cache. -/
theorem cached_nat_info_forgets_ipv6 :
    ∃ fresh cached,
      (three_paths.probe (answer_from "2001:db8::7" fun _ => 40000) ⟨1, 1000⟩).1 = .ok fresh ∧
      (three_paths.probe (answer_from "2001:db8::7" fun _ => 40000) ⟨1, 1000⟩).2.cached_nat_info 2000 =
        some cached ∧
      fresh.nat_type = .None ∧ cached.nat_type = .Cone := by
  exact ⟨{ nat_type := .None, prediction := none }, { nat_type := .Cone, prediction := none }, by decide⟩

end voip_client.nat_probe
