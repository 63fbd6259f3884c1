import Voip.Dht.Expiry

namespace voip_dht.discovery

open voip_dht.record

/-- A proxy whose life has not ended and that takes connections. -/
def Available (now : UInt64) (candidate : ProxyRecord) : Prop :=
  ¬ Outlived candidate.timestamp candidate.ttl_seconds now ∧ 0 < candidate.capacity

/-- An available proxy in the region that is asked for. -/
def Eligible (now : UInt64) (region : Option String) (candidate : ProxyRecord) : Prop :=
  Available now candidate ∧ ∀ name, region = some name → candidate.region = name

namespace DiscoveryService

/-- The selection gives an eligible proxy of the lowest latency, and nothing only where there is
none. -/
structure SelectsBest (now : UInt64) (candidates : List ProxyRecord) (region : Option String) :
    Prop where
  safe : select_proxy_checked now candidates region = .ok (select_proxy now candidates region)
  best : ∀ proxy, select_proxy now candidates region = some proxy →
    proxy ∈ candidates ∧ Eligible now region proxy ∧
      ∀ candidate ∈ candidates, Eligible now region candidate →
        proxy.latency_hint_ms ≤ candidate.latency_hint_ms
  complete : select_proxy now candidates region = none →
    ∀ candidate ∈ candidates, ¬ Eligible now region candidate

variable {now : UInt64} {candidates : List ProxyRecord} {region : Option String}

/-- The candidates that the selection compares. -/
def considered (now : UInt64) (candidates : List ProxyRecord) (region : Option String) :
    List ProxyRecord :=
  ((candidates.filter fun p => !p.is_expired now).filter fun p => p.capacity > 0).filter
    fun p => region.isNone || p.region.isEmpty

/-- The name of the region is not looked at: any name leaves just the proxies without one. -/
theorem mem_considered
    (hfits : ∀ candidate ∈ candidates, Fits candidate.timestamp candidate.ttl_seconds)
    {candidate : ProxyRecord} :
    candidate ∈ considered now candidates region ↔
      candidate ∈ candidates ∧ Available now candidate ∧ (region = none ∨ candidate.region = "") := by
  have hexpired : candidate ∈ candidates → (candidate.is_expired now = false ↔
      ¬ Outlived candidate.timestamp candidate.ttl_seconds now) := by
    intro hmem
    rw [← (hfits candidate hmem).lt_iff, ProxyRecord.is_expired, decide_eq_false_iff_not]
    rfl
  simp only [considered, List.mem_filter, Bool.not_eq_true', decide_eq_true_eq, Bool.or_eq_true,
    Option.isNone_iff_eq_none, String.isEmpty_iff, Available, gt_iff_lt]
  constructor
  · rintro ⟨⟨⟨hmem, hlive⟩, hcapacity⟩, hregion⟩
    exact ⟨hmem, ⟨(hexpired hmem).1 hlive, hcapacity⟩, hregion⟩
  · rintro ⟨hmem, ⟨hlive, hcapacity⟩, hregion⟩
    exact ⟨⟨⟨hmem, (hexpired hmem).2 hlive⟩, hcapacity⟩, hregion⟩

/-- The best proxy is selected just when no addition of a lifetime overflows and, where a region is
named, no available proxy is without a region or in that very region. -/
theorem selectsBest_iff (now : UInt64) (candidates : List ProxyRecord) (region : Option String) :
    SelectsBest now candidates region ↔
      (∀ candidate ∈ candidates, Fits candidate.timestamp candidate.ttl_seconds) ∧
      ∀ name, region = some name → name ≠ "" → ∀ candidate ∈ candidates,
        Available now candidate → candidate.region ≠ "" ∧ candidate.region ≠ name := by
  have hguarded := select_proxy_guarded now candidates region
  constructor
  · intro hbest
    have hfits := hguarded.eq_ok_iff.mp hbest.safe
    refine ⟨hfits, ?_⟩
    rintro name rfl hname candidate hmem havailable
    cases hselect : select_proxy now candidates (some name) with
    | some proxy =>
      -- What is selected has no region, which is not the one asked for.
      have hproxy := (mem_considered hfits).1 (firstLeast_of_min_by_key hselect).mem
      have hregion := (hbest.best proxy hselect).2.1.2 name rfl
      simp_all
    | none =>
      have hempty : considered now candidates (some name) = [] := min_by_key_eq_none.1 hselect
      have hnone := (mem_considered hfits).not.1 (List.eq_nil_iff_forall_not_mem.1 hempty candidate)
      refine ⟨fun hregion => hnone ⟨hmem, havailable, .inr hregion⟩, fun hregion => ?_⟩
      refine hbest.complete hselect candidate hmem ⟨havailable, ?_⟩
      rintro _ ⟨⟩
      exact hregion
  · rintro ⟨hfits, hregion⟩
    -- What is compared is what is eligible, unless there is neither.
    have hconsidered : ∀ candidate ∈ candidates,
        candidate ∈ considered now candidates region ↔ Eligible now region candidate := by
      intro candidate hmem
      rw [mem_considered hfits]
      cases region with
      | none => simp [Eligible, hmem]
      | some name =>
        by_cases hname : name = ""
        · simp [Eligible, hmem, hname]
        · have hother := hregion name rfl hname candidate hmem
          simp only [Eligible, hmem, true_and, reduceCtorEq, false_or, Option.some.injEq,
            forall_eq']
          exact and_congr_right fun havailable =>
            iff_of_false (hother havailable).1 (hother havailable).2
    refine ⟨hguarded.eq_ok hfits, fun proxy hselect => ?_, fun hselect candidate hmem heligible => ?_⟩
    · have hleast : order.FirstLeast ProxyRecord.latency_hint_ms (considered now candidates region) proxy :=
        firstLeast_of_min_by_key hselect
      have hmem := ((mem_considered hfits).1 hleast.mem).1
      exact ⟨hmem, (hconsidered proxy hmem).1 hleast.mem, fun candidate hcandidate heligible =>
        hleast.least candidate ((hconsidered candidate hcandidate).2 heligible)⟩
    · have hempty : considered now candidates region = [] := min_by_key_eq_none.1 hselect
      have hin := (hconsidered candidate hmem).2 heligible
      rw [hempty] at hin
      cases hin

end DiscoveryService

def proxy_in (region : String) (latency_hint_ms : UInt32) : ProxyRecord where
  node_id := "proxy-1"
  proxy_url := "https://proxy.example:443"
  capacity := 100
  region
  latency_hint_ms
  timestamp := 1700000000
  ttl_seconds := 3600
  cert_fingerprint := ""
  signature := []

/-- A proxy in the region asked for is passed over, alone as well as for a slower one without a
region. -/
theorem not_selectsBest_of_named_region :
    DiscoveryService.select_proxy 1700000001 [proxy_in "eu" 10] (some "eu") = none ∧
      DiscoveryService.select_proxy 1700000001 [proxy_in "eu" 10, proxy_in "" 90] (some "eu") =
        some (proxy_in "" 90) ∧
      ¬ DiscoveryService.SelectsBest 1700000001 [proxy_in "eu" 10] (some "eu") := by
  have hnone : DiscoveryService.select_proxy 1700000001 [proxy_in "eu" 10] (some "eu") = none := by
    decide
  refine ⟨hnone, by decide, fun hbest => ?_⟩
  refine hbest.complete hnone (proxy_in "eu" 10) List.mem_cons_self ⟨⟨by decide, by decide⟩, ?_⟩
  rintro _ ⟨⟩
  rfl

end voip_dht.discovery
