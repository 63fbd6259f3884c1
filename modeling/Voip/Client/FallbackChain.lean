import Voip.Client.FallbackStages

namespace voip_client.connection

open wire fallback checked voip_core.config voip_core.types voip_core.proto.signaling

/-- What the chain of fallbacks promises about a run. -/
structure FallbackContract (manager : ConnectionManager) (run : Run Batch VoipConnection) : Prop where
  no_udp : manager.udp_blocked = true → ∀ batch ∈ run.batches, batch.stage.is_udp = false
  in_order : run.batches.Pairwise fun earlier later => earlier.stage.rank ≤ later.stage.rank
  stops_at_success : run.Honest Batch.Won
  proxies : ∀ stage, stage.is_direct = false →
    (attempts_at stage run.batches).length ≤ manager.config.masque_max_proxy_attempts.toNat
  tunnel : ∀ conn, run.outcome = .ok conn → conn.TunnelFits

section masque

variable {manager : ConnectionManager} {network : Network} {connection_id : Bytes}
  {proxy_records : List ProxyRecord}

theorem masque_stage_no_udp (hblocked : manager.udp_blocked = true) :
    ∀ batch ∈ (masque_stage manager network connection_id proxy_records).batches, batch.stage.is_udp = false := by
  unfold masque_stage http3_stage
  split
  · intro batch hbatch
    simp only [hblocked, Bool.not_true, Bool.false_eq_true, if_false, Run.skip_orElse] at hbatch
    rw [http2_spec.ofStage batch hbatch]
    rfl
  · simp

theorem masque_stage_in_order :
    (masque_stage manager network connection_id proxy_records).OrderedFrom (·.stage.rank) 4 := by
  unfold masque_stage
  split
  · exact .orElse http3_stage_spec.rank
      (.of_eq http2_spec.rank) (by decide)
  · exact .of_eq (by simp)

theorem try_masque_proxies (stage : Stage) (transport : MasqueTransport) (method : ConnectionMethod) (other : Stage) :
    (attempts_at other
        (try_masque stage transport method network manager.config proxy_records connection_id).batches).length ≤
      if stage = other then manager.config.masque_max_proxy_attempts.toNat else 0 := by
  split
  next heq =>
    subst heq
    refine attempts_at_in_turn_le.trans ?_
    rw [List.length_take]
    exact Nat.min_le_left _ _
  next hne =>
    have hstage : OfStage stage
        (try_masque stage transport method network manager.config proxy_records connection_id) :=
      in_turn_ofStage
    rw [hstage.attempts_at_eq_nil hne, List.length_nil]

/-- A stage goes to the proxies that its transport may try, and to no others. -/
theorem masque_stage_proxies (stage : Stage) :
    (attempts_at stage (masque_stage manager network connection_id proxy_records).batches).length ≤
      manager.config.masque_max_proxy_attempts.toNat := by
  have hhttp3 : (attempts_at stage (http3_stage manager network connection_id proxy_records).batches).length ≤
      if Stage.MasqueHttp3 = stage then manager.config.masque_max_proxy_attempts.toNat else 0 := by
    unfold http3_stage
    split
    · exact try_masque_proxies ..
    · exact Nat.zero_le _
  have hhttp2 : (attempts_at stage
      (try_masque_http2 network manager.config proxy_records connection_id).batches).length ≤
      if Stage.MasqueHttp2 = stage then manager.config.masque_max_proxy_attempts.toNat else 0 :=
    try_masque_proxies ..
  unfold masque_stage
  split
  · refine (attempts_at_orElse_le _ _ _).trans ?_
    cases stage <;> simp only [reduceCtorEq, if_true, if_false] at hhttp3 hhttp2 <;> omega
  · exact Nat.zero_le _

theorem masque_stage_tunnel {conn : VoipConnection}
    (hok : (masque_stage manager network connection_id proxy_records).outcome = .ok conn) : conn.TunnelFits := by
  unfold masque_stage at hok
  split at hok
  · exact (Run.orElse_ok hok).elim (http3_stage_spec.tunnel conn)
      (http2_spec.tunnel conn)
  · cases hok

end masque

section chain

variable (build : Build) (parse : String → Option SocketAddr) (manager : ConnectionManager)
  (network : Network) (peer : PeerRecord) (connection_id : Bytes) (proxy_records : List ProxyRecord)

/-- The run meets a fault neither in the race of the simultaneous open nor in the prediction of
ports, as far as it comes to them. -/
structure ChainSound : Prop where
  race : EntersRace parse manager network peer →
    network.race.Settles network.accept.isSome (Connected network (peer.ipv4_reflexive.filterMap parse))
  prediction : build = .checks → ReachesPrediction parse manager network peer →
    PredictionFits peer manager.config

variable {build parse manager network peer connection_id proxy_records}

theorem establish_connection_no_udp (hblocked : manager.udp_blocked = true) :
    ∀ batch ∈ (manager.establish_connection build parse network peer connection_id proxy_records).batches,
      batch.stage.is_udp = false := by
  rw [establish_connection_eq]
  simpa [ipv6_stage, open_stage, prediction_stage, hblocked] using masque_stage_no_udp hblocked

theorem establish_connection_in_order :
    (manager.establish_connection build parse network peer connection_id proxy_records).OrderedFrom
      (·.stage.rank) 1 := by
  rw [establish_connection_eq]
  exact .orElse ipv6_stage_spec.rank (.orElse open_stage_spec.rank
    (.orElse prediction_stage_spec.rank masque_stage_in_order (by decide)) (by decide)) (by decide)

theorem establish_connection_proxies {stage : Stage} (hstage : stage.is_direct = false) :
    (attempts_at stage
        (manager.establish_connection build parse network peer connection_id proxy_records).batches).length ≤
      manager.config.masque_max_proxy_attempts.toNat := by
  have hne {direct : Stage} (hdirect : direct.is_direct = true) : direct ≠ stage := by
    rintro rfl
    simp [hdirect] at hstage
  rw [establish_connection_eq]
  refine ipv6_stage_spec.ofStage.attempts_at_next_le (hne rfl) ?_
  refine open_stage_spec.ofStage.attempts_at_next_le (hne rfl) ?_
  exact prediction_stage_spec.ofStage.attempts_at_next_le (hne rfl) (masque_stage_proxies stage)

theorem establish_connection_tunnel {conn : VoipConnection}
    (hok : (manager.establish_connection build parse network peer connection_id proxy_records).outcome = .ok conn) :
    conn.TunnelFits := by
  rw [establish_connection_eq] at hok
  rcases Run.orElse_ok hok with hok | hok
  · exact ipv6_stage_spec.tunnel conn hok
  rcases Run.orElse_ok hok with hok | hok
  · exact open_stage_spec.tunnel conn hok
  rcases Run.orElse_ok hok with hok | hok
  · exact prediction_stage_spec.tunnel conn hok
  · exact masque_stage_tunnel hok

/-- What is left of the chain after the simultaneous open is honest if it does not panic. -/
theorem prediction_orElse_honest
    (hpanicked : ((prediction_stage build parse manager network peer).orElse
      (masque_stage manager network connection_id proxy_records)).outcome ≠ .panicked) :
    ((prediction_stage build parse manager network peer).orElse
      (masque_stage manager network connection_id proxy_records)).Honest Batch.Won := by
  rcases prediction_stage_cases with ⟨-, hhonest⟩ | ⟨-, hpanics⟩
  · exact hhonest.orElse fun _ => masque_stage_honest
  · rw [Run.orElse_of_ne_failed (by simp [hpanics])] at hpanicked
    exact absurd hpanics hpanicked

/-- The chain is as honest as the race of the simultaneous open and the prediction of ports, if
they are reached. -/
theorem establish_connection_honest_iff :
    (manager.establish_connection build parse network peer connection_id proxy_records).Honest Batch.Won ↔
      ChainSound build parse manager network peer := by
  rw [establish_connection_eq]
  constructor
  · intro hchain
    have hopen (hudp : manager.udp_blocked = false)
        (hnone : ∀ i < (ipv6_addrs parse peer).length, (network.connect .Ipv6 i).conn = none) :
        (open_stage parse manager network peer).Honest Batch.Won ∧
          ((open_stage parse manager network peer).orElse
            ((prediction_stage build parse manager network peer).orElse
              (masque_stage manager network connection_id proxy_records))).Honest Batch.Won := by
      have hfailed := (ipv6_stage_failed_iff hudp).mpr hnone
      have htail := (ipv6_stage_honest.orElse_iff hfailed).mp hchain
      exact ⟨htail.of_orElse prediction_orElse_honest, htail⟩
    refine ⟨fun henters => ?_, fun hchecks hreaches => ?_⟩
    · obtain ⟨hhonest, -⟩ := hopen henters.udp henters.ipv6_failed
      exact open_stage_honest_iff.mp hhonest henters.udp henters.cone henters.reflexive
    · obtain ⟨hhonest, htail⟩ := hopen hreaches.udp hreaches.ipv6_failed
      have hfailed := (open_stage_failed_iff hreaches.udp hhonest).mpr hreaches.open_failed
      have hprediction := ((hhonest.orElse_iff hfailed).mp htail).of_orElse fun _ => masque_stage_honest
      rcases prediction_stage_cases with ⟨hfits, -⟩ | ⟨-, hpanics⟩
      · exact hfits hchecks hreaches.udp hreaches.predictable
      · exact absurd hpanics hprediction.not_panicked
  · intro hsound
    refine ipv6_stage_honest.orElse fun hipv6_failed => ?_
    have hopen : (open_stage parse manager network peer).Honest Batch.Won := by
      refine open_stage_honest_iff.mpr fun hudp hcone hreflexive => ?_
      exact hsound.race ⟨hudp, hcone, hreflexive,
        (ipv6_stage_failed_iff hudp).mp hipv6_failed⟩
    refine hopen.orElse fun hopen_failed => ?_
    rcases prediction_stage_cases with ⟨-, hhonest⟩ | ⟨hfault, -⟩
    · exact hhonest.orElse fun _ => masque_stage_honest
    · refine absurd (fun hchecks hudp hpredictable => ?_) hfault
      exact hsound.prediction hchecks ⟨hudp, hpredictable,
        (ipv6_stage_failed_iff hudp).mp hipv6_failed,
        (open_stage_failed_iff hudp hopen).mp hopen_failed⟩

variable (build parse manager network peer connection_id proxy_records)

/-- The contract holds exactly of the runs whose race of the simultaneous open settles and whose
prediction of ports fits into its words, if they are reached. -/
theorem fallback_contract_iff :
    FallbackContract manager (manager.establish_connection build parse network peer connection_id proxy_records) ↔
      ChainSound build parse manager network peer := by
  rw [← establish_connection_honest_iff]
  refine ⟨fun hcontract => hcontract.stops_at_success, fun hhonest => ?_⟩
  exact {
    no_udp := establish_connection_no_udp
    in_order := establish_connection_in_order.ordered
    stops_at_success := hhonest
    proxies := fun _ => establish_connection_proxies
    tunnel := fun _ => establish_connection_tunnel }

end chain

/-- A client behind a cone NAT. -/
def cone_manager : ConnectionManager where
  config := .default
  local_nat_info := some ⟨.Cone, none⟩
  udp_blocked := false

/-- A peer that has told one IPv4 address and nothing about its NAT. -/
def ipv4_peer : PeerRecord where
  peer_id := "bob"
  display_name := ""
  ipv6_addresses := []
  ipv4_reflexive := ["203.0.113.7:5004"]
  nat_info := none
  tracks := []
  status := 0
  timestamp := 0
  ttl_seconds := 0
  signature := []

def one_proxy : ProxyRecord where
  node_id := "node"
  proxy_url := "https://proxy.example.com:443"
  capacity := 1
  region := ""
  latency_hint_ms := 0
  timestamp := 0
  ttl_seconds := 0
  cert_fingerprint := ""
  signature := []

/-- Only the proxies answer, and the attempt to reach the peer fails while the endpoint still
waits for an incoming connection. -/
def refusing_network : Network where
  connect stage _ := ⟨0, if stage.is_direct then none else some ⟨⟨.V4 0, 443⟩⟩⟩
  accept := none
  race := { first := .connect, finished := fun _ => false, lasting := nofun, polls_other_first := false, begun := 1 }

/-- The first attempt reaches the peer, and its result is there when the wait for an incoming
connection ends. -/
def late_network : Network where
  connect stage i := ⟨0, if stage = .SimultaneousOpen ∧ i = 0 then some ⟨⟨.V4 0, 5004⟩⟩ else none⟩
  accept := none
  race := { first := .accept, finished := fun _ => true, lasting := fun _ _ => rfl, polls_other_first := false,
            begun := 1 }

/-- A peer whose NAT counts its ports upwards, close to the last one. -/
def sequential_peer : PeerRecord :=
  { ipv4_peer with
    nat_info := some
      { nat_type := 2
        prediction := some
          { external_ip := "203.0.113.7", predicted_port_start := 65520, predicted_port_end := 65526, confidence := 0,
            base_port := 65520, delta_pattern := 1, probed_at := 0, probe_method := 0 } } }

/-- A simultaneous open that fails stops the chain in front of a proxy that would have answered, and
one that succeeds can be reported as a failure. A build that checks for overflow panics over the last
ports. -/
theorem fallback_contract_broken_by_race :
    let refused := cone_manager.establish_connection .wraps parse_v4 refusing_network ipv4_peer [] [one_proxy]
    let lost := cone_manager.establish_connection .wraps parse_v4 late_network ipv4_peer [] [one_proxy]
    let overflown := ConnectionManager.establish_connection .checks parse_v4 ⟨.default, none, false⟩
      refusing_network sequential_peer [] [one_proxy]
    (refused.outcome = .panicked ∧ ¬ FallbackContract cone_manager refused) ∧
      (lost.outcome = .failed ∧ (∃ batch ∈ lost.batches, ∃ attempt ∈ batch.attempts, attempt.conn.isSome) ∧
        ¬ FallbackContract cone_manager lost) ∧
      overflown.outcome = .panicked ∧ ¬ FallbackContract ⟨.default, none, false⟩ overflown := by
  intro refused lost overflown
  have hrefused : refused.outcome = .panicked := by decide
  have hlost : lost.outcome = .failed := by decide
  have hwon : ∃ batch ∈ lost.batches, ∃ attempt ∈ batch.attempts, attempt.conn.isSome := by decide
  have hoverflown : overflown.outcome = .panicked := by decide
  exact ⟨⟨hrefused, fun hcontract => hcontract.stops_at_success.not_panicked hrefused⟩,
    ⟨hlost, hwon, fun hcontract => hcontract.stops_at_success.exists_won_iff.mp hwon hlost⟩,
    hoverflown, fun hcontract => hcontract.stops_at_success.not_panicked hoverflown⟩

end voip_client.connection
