import Voip.Dht.Discovery

namespace voip_client.proxy

open voip_core.proto.signaling

/-- The part of the handler that says which proxies to try. -/
structure TunnelRecoveryHandler where
  cached_proxies : List ProxyRecord
  last_proxy_url : Option String

namespace TunnelRecoveryHandler

def recovery_proxy_order (self : TunnelRecoveryHandler) : List ProxyRecord :=
  let proxies :=
    match self.last_proxy_url with
    | some last_url => (self.cached_proxies.find? fun p => p.proxy_url = last_url).toList
    | none => []
  let others := self.cached_proxies.filter fun p =>
    match self.last_proxy_url with
    | some url => p.proxy_url ≠ url
    | none => true
  proxies ++ others.mergeSort fun first second => first.latency_hint_ms ≤ second.latency_hint_ms

end TunnelRecoveryHandler

structure CachedProxy where
  record : ProxyRecord
  cached_at : Nat

/-- Instants and the lifetime are counted in nanoseconds. -/
structure ProxyCache where
  proxies : List CachedProxy
  last_used : Option String
  created_at : Nat
  ttl : Nat

namespace ProxyCache

def update (now : Nat) (proxies : List ProxyRecord) (self : ProxyCache) : ProxyCache :=
  { self with proxies := proxies.map (⟨·, now⟩), created_at := now }

/-- Time that has not passed counts as none. -/
def is_valid (now : Nat) (self : ProxyCache) : Bool :=
  now - self.created_at < self.ttl && !self.proxies.isEmpty

def get_best (now : Nat) (self : ProxyCache) : Option ProxyRecord :=
  let lowest :=
    (voip_dht.discovery.min_by_key (·.record.latency_hint_ms) self.proxies).map (·.record)
  if !self.is_valid now then none
  else
    match self.last_used with
    | some last_url =>
      match self.proxies.find? fun p => p.record.proxy_url = last_url with
      | some cached => some cached.record
      | none => lowest
    | none => lowest

end ProxyCache

/-- The first cached record with the URL used last. -/
def preferred (cached : List ProxyRecord) (last : Option String) : Option ProxyRecord :=
  last.bind fun url => cached.find? fun p => p.proxy_url = url

/-- The cached records with another URL. -/
def alternatives (cached : List ProxyRecord) (last : Option String) : List ProxyRecord :=
  cached.filter fun p => last ≠ some p.proxy_url

/-- The preferred record comes first, then the alternatives by their latency, those of equal
latency in cached order. -/
structure RecoveryOrder (cached : List ProxyRecord) (last : Option String)
    (listed others : List ProxyRecord) : Prop where
  split : listed = (preferred cached last).toList ++ others
  perm : others.Perm (alternatives cached last)
  sorted : others.Pairwise fun first second => first.latency_hint_ms ≤ second.latency_hint_ms
  ties : ∀ latency : UInt32, (others.filter fun p => p.latency_hint_ms = latency) =
    (alternatives cached last).filter fun p => p.latency_hint_ms = latency

theorem TunnelRecoveryHandler.recovery_proxy_order_eq (self : TunnelRecoveryHandler) :
    self.recovery_proxy_order =
      (preferred self.cached_proxies self.last_proxy_url).toList ++
        (alternatives self.cached_proxies self.last_proxy_url).mergeSort
          fun first second => first.latency_hint_ms ≤ second.latency_hint_ms := by
  unfold recovery_proxy_order preferred alternatives
  cases self.last_proxy_url with
  | none => simp
  | some url => simp [eq_comm]

theorem TunnelRecoveryHandler.recoveryOrder (self : TunnelRecoveryHandler) :
    ∃ others, RecoveryOrder self.cached_proxies self.last_proxy_url self.recovery_proxy_order others :=
  ⟨_, self.recovery_proxy_order_eq, List.mergeSort_perm _ _, order.pairwise_mergeSort_key _ _,
    order.filter_mergeSort_key _ _⟩

variable {cached listed others : List ProxyRecord} {last : Option String}

theorem proxy_url_of_preferred {record : ProxyRecord} (hpreferred : preferred cached last = some record) :
    last = some record.proxy_url := by
  obtain ⟨url, hlast, hfind⟩ := Option.bind_eq_some_iff.1 hpreferred
  have hurl := List.find?_some hfind
  simp only [decide_eq_true_eq] at hurl
  rw [hlast, hurl]

/-- A record with another URL than the one used last is listed as often as it is cached. -/
theorem RecoveryOrder.count (horder : RecoveryOrder cached last listed others) {record : ProxyRecord}
    (hrecord : last ≠ some record.proxy_url) : listed.count record = cached.count record := by
  have hothers : others.count record = cached.count record := by
    rw [horder.perm.count_eq, alternatives, List.count_filter (by simpa using hrecord)]
  have hpreferred : (preferred cached last).toList.count record = 0 := by
    rw [List.count_eq_zero, Option.mem_toList]
    intro hmem
    exact hrecord (proxy_url_of_preferred hmem)
  rw [horder.split, List.count_append, hpreferred, hothers, Nat.zero_add]

/-- Without a preferred record every cached one is an alternative. -/
theorem alternatives_of_preferred_none (hpreferred : preferred cached last = none) :
    alternatives cached last = cached := by
  cases last with
  | none => simp [alternatives]
  | some url =>
    rw [preferred, Option.bind_some, List.find?_eq_none] at hpreferred
    rw [alternatives, List.filter_eq_self]
    intro record hrecord
    have hurl := hpreferred record hrecord
    simp only [decide_eq_true_eq] at hurl
    simpa using Ne.symm hurl

theorem ProxyCache.get_best_of_valid {cache : ProxyCache} {now : Nat} (hvalid : cache.is_valid now) :
    cache.get_best now =
      (preferred (cache.proxies.map (·.record)) cache.last_used).or
        ((voip_dht.discovery.min_by_key (·.record.latency_hint_ms) cache.proxies).map (·.record)) := by
  unfold ProxyCache.get_best preferred
  rw [hvalid]
  cases cache.last_used with
  | none => rfl
  | some url =>
    rw [Option.bind_some, List.find?_map, Function.comp_def]
    simp only [Bool.not_true, Bool.false_eq_true, if_false]
    cases cache.proxies.find? fun p => p.record.proxy_url = url with
    | none => rfl
    | some cached => rfl

/-- The lowest latency among the cached proxies is the head of their records sorted by it. -/
theorem ProxyCache.lowest_eq_head {cache : ProxyCache} (hproxies : cache.proxies ≠ []) :
    (voip_dht.discovery.min_by_key (·.record.latency_hint_ms) cache.proxies).map (·.record) =
      ((cache.proxies.map (·.record)).mergeSort
        fun first second => first.latency_hint_ms ≤ second.latency_hint_ms).head? := by
  have hmin : voip_dht.discovery.min_by_key
      (fun cached : CachedProxy => cached.record.latency_hint_ms) cache.proxies ≠ none :=
    voip_dht.discovery.min_by_key_eq_none.not.2 hproxies
  obtain ⟨best, hbest⟩ := Option.ne_none_iff_exists'.1 hmin
  have hsort : (cache.proxies.map (·.record)).mergeSort
      (fun first second => first.latency_hint_ms ≤ second.latency_hint_ms) ≠ [] := by
    intro hnil
    have hlength := congrArg List.length hnil
    simp [hproxies] at hlength
  obtain ⟨head, rest, hhead⟩ := List.exists_cons_of_ne_nil hsort
  have hleast : order.FirstLeast ProxyRecord.latency_hint_ms (cache.proxies.map (·.record)) best.record :=
    (voip_dht.discovery.firstLeast_of_min_by_key hbest).map
  have hfront : order.FirstLeast ProxyRecord.latency_hint_ms (cache.proxies.map (·.record)) head :=
    order.firstLeast_of_head_mergeSort _ _ (by rw [hhead]; rfl)
  rw [hbest, hhead, Option.map_some, hleast.unique hfront]
  rfl

theorem ProxyCache.get_best_eq_head {cache : ProxyCache} {now : Nat} (hvalid : cache.is_valid now)
    {handler : TunnelRecoveryHandler} (hrecords : cache.proxies.map (·.record) = handler.cached_proxies)
    (hlast : cache.last_used = handler.last_proxy_url) :
    handler.recovery_proxy_order.head? = cache.get_best now := by
  have hproxies : cache.proxies ≠ [] := by
    simp only [is_valid, Bool.and_eq_true, Bool.not_eq_true', List.isEmpty_eq_false_iff] at hvalid
    exact hvalid.2
  rw [cache.get_best_of_valid hvalid, handler.recovery_proxy_order_eq, ← hrecords, ← hlast]
  cases hpreferred : preferred (cache.proxies.map (·.record)) cache.last_used with
  | some record => rfl
  | none =>
    rw [alternatives_of_preferred_none hpreferred, cache.lowest_eq_head hproxies]
    rfl

/-- The handler lists the proxies in recovery order, and a cache that holds the same records names
the first of them as its best. -/
theorem recovery_order_agrees (handler : TunnelRecoveryHandler) :
    ∃ others,
      RecoveryOrder handler.cached_proxies handler.last_proxy_url handler.recovery_proxy_order others ∧
      (∀ record : ProxyRecord, handler.last_proxy_url ≠ some record.proxy_url →
        handler.recovery_proxy_order.count record = handler.cached_proxies.count record) ∧
      ∀ (cache : ProxyCache) (now : Nat), cache.is_valid now = true →
        cache.proxies.map (·.record) = handler.cached_proxies →
        cache.last_used = handler.last_proxy_url →
        handler.recovery_proxy_order.head? = cache.get_best now := by
  obtain ⟨others, horder⟩ := handler.recoveryOrder
  exact ⟨others, horder, fun record hrecord => horder.count hrecord,
    fun cache now hvalid hrecords hlast => cache.get_best_eq_head hvalid hrecords hlast⟩

def relay (proxy_url : String) (latency_hint_ms : UInt32) : ProxyRecord where
  node_id := proxy_url
  proxy_url
  capacity := 100
  region := ""
  latency_hint_ms
  timestamp := 1700000000
  ttl_seconds := 3600
  cert_fingerprint := ""
  signature := []

def two_relays : TunnelRecoveryHandler := ⟨[relay "a" 30, relay "b" 10], some "a"⟩

def two_relays_cache : ProxyCache :=
  ProxyCache.update 0 [relay "a" 30, relay "b" 10] ⟨[], some "a", 0, 3600⟩

theorem recovery_order_agrees_two_relays :
    two_relays_cache.is_valid 60 = true ∧
      two_relays.recovery_proxy_order.head? = two_relays_cache.get_best 60 := by
  obtain ⟨_, _, _, hbest⟩ := recovery_order_agrees two_relays
  exact ⟨by decide, hbest two_relays_cache 60 (by decide) rfl rfl⟩

end voip_client.proxy
