import Voip.Client.Attempts
import Voip.Client.ProbePorts

namespace voip_client.connection

open wire fallback checked voip_core.config voip_core.types voip_core.proto.signaling

/-- A tunnel belongs to a connection exactly when its method is a relayed one. -/
def VoipConnection.TunnelFits (conn : VoipConnection) : Prop :=
  conn.masque_tunnel.isSome = true ↔ conn.method.is_relayed = true

theorem VoipConnection.new_direct_fits {method : ConnectionMethod} (hmethod : method.is_relayed = false)
    (conn : Connection) : (new_direct method conn).TunnelFits := by
  simp [TunnelFits, new_direct, hmethod]

/-- What a run of one stage of the chain comes to. -/
structure StageSpec (stage : Stage) (run : Run Batch VoipConnection) : Prop where
  ofStage : OfStage stage run
  tunnel : ∀ conn, run.outcome = .ok conn → conn.TunnelFits

theorem StageSpec.rank {stage : Stage} {run : Run Batch VoipConnection} (hrun : StageSpec stage run) :
    ∀ batch ∈ run.batches, batch.stage.rank = stage.rank :=
  fun batch hbatch => congrArg Stage.rank (hrun.ofStage batch hbatch)

theorem StageSpec.skip {stage : Stage} : StageSpec stage .skip where
  ofStage := ofStage_skip
  tunnel := nofun

theorem StageSpec.orElse {stage : Stage} {run next : Run Batch VoipConnection} (hrun : StageSpec stage run)
    (hnext : StageSpec stage next) : StageSpec stage (run.orElse next) where
  ofStage := Run.forall_mem_orElse hrun.ofStage hnext.ofStage
  tunnel conn hok := (Run.orElse_ok hok).elim (hrun.tunnel conn) (hnext.tunnel conn)

theorem StageSpec.ite {stage : Stage} {c : Bool} {run : Run Batch VoipConnection} (hrun : StageSpec stage run) :
    StageSpec stage (if c then run else .skip) := by
  cases c with
  | true => exact hrun
  | false => exact .skip

/-- The methods of a stage of direct connections. -/
theorem StageSpec.map {stage : Stage} {run : Run Batch Connection} (method : Connection → ConnectionMethod)
    (hstage : OfStage stage run) (hmethod : ∀ conn, (method conn).is_relayed = false) :
    StageSpec stage (run.map fun conn => .new_direct (method conn) conn) where
  ofStage := hstage
  tunnel conn hok := by
    obtain ⟨found, rfl⟩ := Run.map_ok hok
    exact VoipConnection.new_direct_fits (hmethod found) found

theorem StageSpec.in_turn {ι : Type} {network : Network} {stage : Stage} {start : Nat} {candidates : List ι}
    {target : ι → Target} {wrap : ι → Connection → VoipConnection}
    (hwrap : ∀ candidate conn, (wrap candidate conn).TunnelFits) :
    StageSpec stage (in_turn network stage start candidates target wrap) where
  ofStage := in_turn_ofStage
  tunnel conn hok := by
    obtain ⟨candidate, found, rfl⟩ := in_turn_ok hok
    exact hwrap candidate found

section stages

variable (build : Build) (parse : String → Option SocketAddr) (manager : ConnectionManager)
  (network : Network) (peer : PeerRecord) (connection_id : Bytes) (proxy_records : List ProxyRecord)

def ipv6_stage : Run Batch VoipConnection :=
  if !peer.ipv6_addresses.isEmpty && !manager.udp_blocked then
    if !peer.ipv4_reflexive.isEmpty then try_happy_eyeballs parse network peer
    else try_ipv6_direct parse network peer
  else .skip

/-- Whether one side is behind a cone NAT, as far as is known. -/
def has_cone : Bool :=
  manager.local_nat_info.any (·.nat_type = .Cone) || (proto_nat_info_to_native peer.nat_info).nat_type = .Cone

def open_stage : Run Batch VoipConnection :=
  if has_cone manager peer && !manager.udp_blocked then try_simultaneous_open parse network peer else .skip

def has_predictable : Bool :=
  manager.local_nat_info.any (·.nat_type.is_predictable) ||
    (proto_nat_info_to_native peer.nat_info).nat_type.is_predictable

def prediction_stage : Run Batch VoipConnection :=
  if has_predictable manager peer && !manager.udp_blocked then
    try_port_prediction build parse network manager.config peer manager.local_nat_info
  else .skip

def http3_stage : Run Batch VoipConnection :=
  if !manager.udp_blocked then try_masque_http3 network manager.config proxy_records connection_id else .skip

def masque_stage : Run Batch VoipConnection :=
  if manager.config.masque_fallback_enabled && !proxy_records.isEmpty then
    (http3_stage manager network connection_id proxy_records).orElse
      (try_masque_http2 network manager.config proxy_records connection_id)
  else .skip

/-- The numbers of the peer's prediction fit into the words in which its ports are counted. -/
def PredictionFits (config : TraversalConfig) : Prop :=
  ∀ prediction, (proto_nat_info_to_native peer.nat_info).prediction = some prediction →
    RangeFits config.prediction_max_probes.toNat (prediction.predicted_port_start.toNat % 2 ^ 16)
      (prediction.predicted_port_end.toNat % 2 ^ 16)

/-- The addresses that the IPv6 stage tries: if there is any IPv6 entry, the IPv4 ones as well. -/
def ipv6_addrs : List SocketAddr :=
  if peer.ipv6_addresses.isEmpty then [] else (peer.ipv6_addresses ++ peer.ipv4_reflexive).filterMap parse

/-- The race is entered: one side is a cone, the peer has a reflexive address and no attempt of
the IPv6 stage succeeds. -/
structure EntersRace : Prop where
  udp : manager.udp_blocked = false
  cone : has_cone manager peer = true
  reflexive : peer.ipv4_reflexive.filterMap parse ≠ []
  ipv6_failed : ∀ i < (ipv6_addrs parse peer).length, (network.connect .Ipv6 i).conn = none

/-- Nothing comes of the simultaneous open, if it is tried. -/
def OpenFails : Prop :=
  has_cone manager peer = true → peer.ipv4_reflexive.filterMap parse ≠ [] →
    network.accept = none ∧ ∀ i < 2 * (peer.ipv4_reflexive.filterMap parse).length,
      (network.connect .SimultaneousOpen i).conn = none

/-- The prediction of ports is reached: one side is predictable, and nothing came of the stages
before. -/
structure ReachesPrediction : Prop where
  udp : manager.udp_blocked = false
  predictable : has_predictable manager peer = true
  ipv6_failed : ∀ i < (ipv6_addrs parse peer).length, (network.connect .Ipv6 i).conn = none
  open_failed : OpenFails parse manager network peer

variable {build parse manager network peer connection_id proxy_records}

theorem establish_connection_eq :
    manager.establish_connection build parse network peer connection_id proxy_records =
      (ipv6_stage parse manager network peer).orElse ((open_stage parse manager network peer).orElse
        ((prediction_stage build parse manager network peer).orElse
          (masque_stage manager network connection_id proxy_records))) := rfl

theorem ipv6_stage_spec : StageSpec .Ipv6 (ipv6_stage parse manager network peer) := by
  unfold ipv6_stage
  refine .ite ?_
  split
  · exact .map _ at_once_ofStage fun conn => by split <;> rfl
  · exact .in_turn fun _ => VoipConnection.new_direct_fits rfl

theorem open_stage_spec : StageSpec .SimultaneousOpen (open_stage parse manager network peer) := by
  unfold open_stage try_simultaneous_open
  refine .ite ?_
  dsimp only
  split
  · exact .skip
  · refine .orElse (.map (fun _ => .Ipv4Cone) ?_ fun _ => rfl) (.in_turn fun _ => VoipConnection.new_direct_fits rfl)
    simp [OfStage, try_simultaneous_open_full]

theorem probe_range_ofStage (config : TraversalConfig) (target_ip : String) (port_start port_end : UInt16) :
    OfStage .PortPrediction (probe_range build parse network config target_ip port_start port_end) := by
  unfold probe_range
  split
  · exact at_once_ofStage
  · simp [OfStage, Run.panic]

theorem prediction_stage_spec : StageSpec .PortPrediction (prediction_stage build parse manager network peer) := by
  unfold prediction_stage try_port_prediction
  refine .ite ?_
  dsimp only
  split
  · exact .skip
  · split
    · exact .map (fun _ => .Ipv4Prediction) (probe_range_ofStage _ _ _ _) fun _ => rfl
    · exact .skip

theorem try_masque_spec {stage : Stage} {transport : MasqueTransport} {method : ConnectionMethod}
    (hmethod : method.is_relayed = true) :
    StageSpec stage (try_masque stage transport method network manager.config proxy_records connection_id) :=
  .in_turn fun _ _ => by simp [VoipConnection.TunnelFits, VoipConnection.new_masque, hmethod]

theorem http3_stage_spec : StageSpec .MasqueHttp3 (http3_stage manager network connection_id proxy_records) :=
  .ite <| try_masque_spec rfl

theorem http2_spec :
    StageSpec .MasqueHttp2 (try_masque_http2 network manager.config proxy_records connection_id) :=
  try_masque_spec rfl

theorem ipv6_stage_honest : (ipv6_stage parse manager network peer).Honest Batch.Won := by
  unfold ipv6_stage
  split
  · split
    · exact (Run.honest_map _ _).mpr at_once_honest
    · exact in_turn_honest
  · exact Run.honest_skip

theorem probe_range_cases (config : TraversalConfig) (target_ip : String) (port_start port_end : UInt16) :
    ((build = .checks → RangeFits config.prediction_max_probes.toNat port_start.toNat port_end.toNat) ∧
        ∃ addrs, probe_range build parse network config target_ip port_start port_end =
          at_once network .PortPrediction addrs) ∨
      (¬ (build = .checks → RangeFits config.prediction_max_probes.toNat port_start.toNat port_end.toNat) ∧
        probe_range build parse network config target_ip port_start port_end = .panic) := by
  rw [← exists_probe_ports_iff]
  unfold probe_range
  split
  next ports hports => exact .inl ⟨⟨ports, hports⟩, _, rfl⟩
  next fault hfault => exact .inr ⟨by simp [hfault], rfl⟩

/-- The stage panics if it comes to a range that does not fit, and is honest otherwise. -/
theorem prediction_stage_cases :
    ((build = .checks → manager.udp_blocked = false → has_predictable manager peer = true →
        PredictionFits peer manager.config) ∧
      (prediction_stage build parse manager network peer).Honest Batch.Won) ∨
    (¬ (build = .checks → manager.udp_blocked = false → has_predictable manager peer = true →
        PredictionFits peer manager.config) ∧
      (prediction_stage build parse manager network peer).outcome = .panicked) := by
  unfold prediction_stage try_port_prediction PredictionFits
  cases hpredictable : has_predictable manager peer && !manager.udp_blocked with
  | false =>
    refine .inl ⟨fun _ hudp hpredicts => ?_, Run.honest_skip⟩
    simp [hudp, hpredicts] at hpredictable
  | true =>
    obtain ⟨hpredicts, hudp⟩ : has_predictable manager peer = true ∧ manager.udp_blocked = false := by
      simpa using hpredictable
    cases (proto_nat_info_to_native peer.nat_info).prediction with
    | none =>
      refine .inl ⟨fun _ _ _ => nofun, ?_⟩
      simp only [if_true]
      split <;> exact Run.honest_skip
    | some prediction =>
      simp only [Option.isNone_some, Bool.false_and, Bool.false_eq_true, if_false, if_true, hudp, hpredicts,
        forall_const, Option.some.injEq, forall_eq', Run.honest_map, ← UInt32.toNat_toUInt16]
      obtain ⟨hfits, addrs, hrange⟩ | ⟨hfault, hrange⟩ := probe_range_cases manager.config prediction.external_ip
        prediction.predicted_port_start.toUInt16 prediction.predicted_port_end.toUInt16
      · rw [hrange]
        exact .inl ⟨hfits, at_once_honest⟩
      · rw [hrange]
        exact .inr ⟨hfault, rfl⟩

theorem http3_stage_honest : (http3_stage manager network connection_id proxy_records).Honest Batch.Won := by
  unfold http3_stage
  split
  · exact in_turn_honest
  · exact Run.honest_skip

theorem masque_stage_honest : (masque_stage manager network connection_id proxy_records).Honest Batch.Won := by
  unfold masque_stage
  split
  · exact http3_stage_honest.orElse fun _ => in_turn_honest
  · exact Run.honest_skip

/-- The stage tries its addresses at once or, without IPv4 ones, in turn. -/
theorem ipv6_stage_cases (hudp : manager.udp_blocked = false) :
    (∃ wrap, ipv6_stage parse manager network peer =
      (at_once network .Ipv6 (ipv6_addrs parse peer)).map wrap) ∨
    ∃ wrap, ipv6_stage parse manager network peer =
      in_turn network .Ipv6 0 (ipv6_addrs parse peer) .peer wrap := by
  unfold ipv6_stage ipv6_addrs
  cases peer.ipv6_addresses.isEmpty with
  | true => exact .inr ⟨fun _ => .new_direct .Ipv6Direct, rfl⟩
  | false =>
    simp only [hudp, Bool.not_false, Bool.and_self, if_true, Bool.false_eq_true, if_false]
    cases hipv4 : peer.ipv4_reflexive.isEmpty with
    | false =>
      rw [if_pos (by simp), try_happy_eyeballs, ← List.filterMap_append]
      exact .inl ⟨_, rfl⟩
    | true =>
      rw [if_neg (by simp), try_ipv6_direct, List.isEmpty_iff.mp hipv4, List.append_nil]
      exact .inr ⟨_, rfl⟩

theorem ipv6_stage_failed_iff (hudp : manager.udp_blocked = false) :
    (ipv6_stage parse manager network peer).outcome = .failed ↔
      ∀ i < (ipv6_addrs parse peer).length, (network.connect .Ipv6 i).conn = none := by
  rcases ipv6_stage_cases hudp with ⟨wrap, heq⟩ | ⟨wrap, heq⟩
  · rw [heq, Run.map_outcome_eq_failed, at_once_failed_iff]
  · simp only [heq, in_turn_failed_iff, Nat.zero_add]

theorem open_stage_honest_iff :
    (open_stage parse manager network peer).Honest Batch.Won ↔
      (manager.udp_blocked = false → has_cone manager peer = true → peer.ipv4_reflexive.filterMap parse ≠ [] →
        network.race.Settles network.accept.isSome
          (Connected network (peer.ipv4_reflexive.filterMap parse))) := by
  unfold open_stage try_simultaneous_open
  dsimp only
  split
  next henters =>
    obtain ⟨hcone, hudp⟩ : has_cone manager peer = true ∧ manager.udp_blocked = false := by simpa using henters
    split
    next hempty => simp [Run.honest_skip, List.isEmpty_iff.mp hempty]
    next haddrs =>
      have hfallback : (in_turn network .SimultaneousOpen (peer.ipv4_reflexive.filterMap parse).length
          (peer.ipv4_reflexive.filterMap parse) Target.peer
          fun _ => VoipConnection.new_direct .Ipv4Cone).Honest Batch.Won := in_turn_honest
      rw [List.isEmpty_iff] at haddrs
      simp only [hudp, hcone, ne_eq, haddrs, not_false_eq_true, forall_const,
        ← try_simultaneous_open_full_honest_iff, ← Run.honest_map (VoipConnection.new_direct .Ipv4Cone)]
      exact ⟨Run.Honest.of_orElse fun _ => hfallback, fun hfull => hfull.orElse fun _ => hfallback⟩
  next henters =>
    have henters : has_cone manager peer = true → manager.udp_blocked = true := by simpa using henters
    refine iff_of_true Run.honest_skip fun hudp hcone _ => ?_
    simp [henters hcone] at hudp

theorem open_stage_failed_iff (hudp : manager.udp_blocked = false)
    (hhonest : (open_stage parse manager network peer).Honest Batch.Won) :
    (open_stage parse manager network peer).outcome = .failed ↔ OpenFails parse manager network peer := by
  have hsettles := open_stage_honest_iff.mp hhonest hudp
  unfold open_stage try_simultaneous_open OpenFails
  cases hcone : has_cone manager peer with
  | false => simp
  | true =>
    simp only [hudp, Bool.not_false, Bool.and_self, if_true, forall_const, List.isEmpty_iff]
    split
    next hempty => simp [hempty]
    next haddrs =>
      have hfull := try_simultaneous_open_full_failed_iff network _ (hsettles hcone haddrs)
      rw [Run.orElse_failed_iff, Run.map_outcome_eq_failed, hfull, in_turn_failed_iff, Connected]
      simp only [ne_eq, haddrs, not_false_eq_true, forall_const, not_exists, not_and,
        Option.not_isSome_iff_eq_none, and_assoc]
      refine and_congr_right fun _ => ?_
      constructor
      · rintro ⟨hconnects, hagain⟩ i hi
        by_cases hfirst : i < (peer.ipv4_reflexive.filterMap parse).length
        · exact hconnects i hfirst
        · have hi := hagain (i - (peer.ipv4_reflexive.filterMap parse).length) (by omega)
          rwa [Nat.add_sub_cancel' (by omega)] at hi
      · intro hall
        exact ⟨fun i hi => hall i (by omega), fun i hi => hall _ (by omega)⟩

end stages

end voip_client.connection
