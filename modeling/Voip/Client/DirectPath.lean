import Voip.Client.FallbackChain

namespace voip_client.masque

open voip_core.types

/-- Whether a relay is needed, from the types of the two NATs. -/
def detect_masque_need (local_nat_type peer_nat_type : NATType) (udp_blocked : Bool) : Bool :=
  if udp_blocked then true
  else if local_nat_type = .SymmetricRandom ∧ peer_nat_type = .SymmetricRandom then true
  else if local_nat_type = .None ∨ peer_nat_type = .None then false
  else if local_nat_type = .Cone ∨ peer_nat_type = .Cone then false
  else if local_nat_type.is_predictable || peer_nat_type.is_predictable then false
  else true

end voip_client.masque

namespace voip_client.connection

open wire fallback checked masque voip_core.config voip_core.types voip_core.proto.signaling

/-- The first attempts of a run go to the peer. -/
def StartsDirect (run : Run Batch VoipConnection) : Prop :=
  ∃ batch, run.batches.head? = some batch ∧ batch.stage.is_direct = true

instance (run : Run Batch VoipConnection) : Decidable (StartsDirect run) :=
  decidable_of_iff (run.batches.head?.any (·.stage.is_direct) = true) (Option.any_eq_true _ _)

/-- A direct stage that tries something comes first. -/
theorem startsDirect_orElse_iff {stage : Stage} {run next : Run Batch VoipConnection} (hstage : OfStage stage run)
    (hdirect : stage.is_direct = true) (hnil : run.batches = [] → run.outcome = .failed) :
    StartsDirect (run.orElse next) ↔ run.batches ≠ [] ∨ StartsDirect next := by
  unfold StartsDirect
  rw [Run.orElse_batches_head? hnil]
  cases hbatches : run.batches with
  | nil => simp
  | cons batch rest =>
    have hbatch : batch.stage = stage := hstage batch (hbatches ▸ List.mem_cons_self)
    simp [hbatch, hdirect]

/-- A stage before relays comes first if it tries something, whether it panics or not. -/
theorem startsDirect_orElse_relays_iff {stage : Stage} {run next : Run Batch VoipConnection}
    (hstage : OfStage stage run) (hdirect : stage.is_direct = true) (hnext : ¬ StartsDirect next) :
    StartsDirect (run.orElse next) ↔ run.batches ≠ [] := by
  by_cases hnil : run.batches = [] → run.outcome = .failed
  · rw [startsDirect_orElse_iff hstage hdirect hnil]
    exact or_iff_left hnext
  · obtain ⟨hbatches, hfailed⟩ := Classical.not_imp.mp hnil
    rw [Run.orElse_of_ne_failed hfailed, StartsDirect, hbatches]
    simp

section stages

variable (build : Build) (parse : String → Option SocketAddr) (manager : ConnectionManager)
  (network : Network) (peer : PeerRecord) (connection_id : Bytes) (proxy_records : List ProxyRecord)

/-- The addresses that port prediction tries, in a build that does not panic over their ports. -/
def predicted_addrs (config : TraversalConfig) : List SocketAddr :=
  match (proto_nat_info_to_native peer.nat_info).prediction with
  | some prediction =>
    match probe_ports build config prediction.predicted_port_start.toUInt16
        prediction.predicted_port_end.toUInt16 with
    | .ok ports => ports.filterMap fun port => parse (prediction.external_ip ++ ":" ++ toString port.toNat)
    | .error _ => []
  | none => []

/-- Something for the direct stages to start with: an IPv6 entry, a cone NAT on one side, or a
prediction by the peer of ports that the build can count and that can be tried, if the ports of one
side can be predicted. -/
def DirectlyReachable : Prop :=
  peer.ipv6_addresses ≠ [] ∨ has_cone manager peer = true ∨
    (has_predictable manager peer = true ∧ predicted_addrs build parse peer manager.config ≠ [])

variable {build parse manager network peer connection_id proxy_records}

theorem in_turn_batches_eq_nil {ι α : Type} (stage : Stage) (start : Nat) (candidates : List ι)
    (target : ι → Target) (wrap : ι → Connection → α) :
    (in_turn network stage start candidates target wrap).batches = [] ↔ candidates = [] := by
  rw [in_turn, Run.firstOf_batches_eq_nil, List.map_eq_nil_iff, List.zipIdx_eq_nil_iff]

theorem at_once_batches_eq_nil (stage : Stage) (addrs : List SocketAddr) :
    (at_once network stage addrs).batches = [] ↔ addrs = [] := by
  unfold at_once
  split
  next haddrs => simp [haddrs]
  next haddrs => simp [haddrs, Run.single]

theorem ipv6_stage_batches_eq_nil (hudp : manager.udp_blocked = false) :
    (ipv6_stage parse manager network peer).batches = [] ↔ ipv6_addrs parse peer = [] := by
  rcases ipv6_stage_cases hudp with ⟨wrap, heq⟩ | ⟨wrap, heq⟩
  · rw [heq, Run.map_batches, at_once_batches_eq_nil]
  · rw [heq, in_turn_batches_eq_nil]

/-- A simultaneous open with an address to go to makes attempts, and without one the stage is left
out. -/
theorem open_stage_cases (hudp : manager.udp_blocked = false) :
    (has_cone manager peer = true ∧ peer.ipv4_reflexive.filterMap parse ≠ [] ∧
        (open_stage parse manager network peer).batches ≠ []) ∨
      (¬ (has_cone manager peer = true ∧ peer.ipv4_reflexive.filterMap parse ≠ []) ∧
        open_stage parse manager network peer = .skip) := by
  unfold open_stage try_simultaneous_open
  by_cases haddrs : peer.ipv4_reflexive.filterMap parse = []
  · exact .inr ⟨by simp [haddrs], by simp [haddrs]⟩
  · cases hcone : has_cone manager peer with
    | false => exact .inr ⟨by simp, rfl⟩
    | true =>
      refine .inl ⟨rfl, haddrs, ?_⟩
      simp only [hudp, Bool.not_false, Bool.and_self, if_true, List.isEmpty_iff, haddrs, if_false]
      exact Run.orElse_batches_ne_nil (List.cons_ne_nil _ _)

theorem open_stage_batches_ne_nil_iff (hudp : manager.udp_blocked = false) :
    (open_stage parse manager network peer).batches ≠ [] ↔
      has_cone manager peer = true ∧ peer.ipv4_reflexive.filterMap parse ≠ [] := by
  rcases open_stage_cases hudp with ⟨hcone, haddrs, hne⟩ | ⟨hnot, hskip⟩
  · exact iff_of_true hne ⟨hcone, haddrs⟩
  · exact iff_of_false (by simp [hskip]) hnot

theorem open_stage_failed_of_nil (hudp : manager.udp_blocked = false)
    (hnil : (open_stage parse manager network peer).batches = []) :
    (open_stage parse manager network peer).outcome = .failed := by
  rcases open_stage_cases hudp with ⟨-, -, hne⟩ | ⟨-, hskip⟩
  · exact absurd hnil hne
  · rw [hskip, Run.skip_outcome]

theorem try_port_prediction_batches (config : TraversalConfig) (local_nat : Option NATInfo) :
    (try_port_prediction build parse network config peer local_nat).batches =
      (at_once network .PortPrediction (predicted_addrs build parse peer config)).batches := by
  unfold try_port_prediction predicted_addrs probe_range
  cases (proto_nat_info_to_native peer.nat_info).prediction with
  | none => simp [at_once]
  | some prediction =>
    simp only [Option.isNone_some, Bool.false_and, Bool.false_eq_true, if_false, Run.map_batches]
    cases probe_ports build config prediction.predicted_port_start.toUInt16
        prediction.predicted_port_end.toUInt16 with
    | ok ports => rfl
    | error fault => simp [at_once, Run.panic]

theorem prediction_stage_batches_eq_nil (hudp : manager.udp_blocked = false) :
    (prediction_stage build parse manager network peer).batches = [] ↔
      (has_predictable manager peer = true → predicted_addrs build parse peer manager.config = []) := by
  unfold prediction_stage
  cases has_predictable manager peer with
  | false => simp
  | true =>
    simp only [hudp, Bool.not_false, Bool.and_self, if_true, forall_const]
    rw [try_port_prediction_batches, at_once_batches_eq_nil]

theorem masque_stage_not_startsDirect :
    ¬ StartsDirect (masque_stage manager network connection_id proxy_records) := by
  rintro ⟨batch, hbatch, hdirect⟩
  have hrank : 4 ≤ batch.stage.rank := masque_stage_in_order.from_ batch (List.mem_of_mem_head? hbatch)
  cases hstage : batch.stage <;> simp_all [Stage.rank, Stage.is_direct]

/-- A direct attempt comes first exactly when one of the direct stages has an address to try. -/
theorem startsDirect_iff_addrs (hudp : manager.udp_blocked = false) :
    StartsDirect (manager.establish_connection build parse network peer connection_id proxy_records) ↔
      ipv6_addrs parse peer ≠ [] ∨
        (has_cone manager peer = true ∧ peer.ipv4_reflexive.filterMap parse ≠ []) ∨
        (has_predictable manager peer = true ∧ predicted_addrs build parse peer manager.config ≠ []) := by
  rw [establish_connection_eq,
    startsDirect_orElse_iff ipv6_stage_spec.ofStage rfl ipv6_stage_honest.failed_of_batches_eq_nil,
    startsDirect_orElse_iff open_stage_spec.ofStage rfl (open_stage_failed_of_nil hudp),
    startsDirect_orElse_relays_iff prediction_stage_spec.ofStage rfl masque_stage_not_startsDirect,
    open_stage_batches_ne_nil_iff hudp]
  simp only [ne_eq, ipv6_stage_batches_eq_nil hudp, prediction_stage_batches_eq_nil hudp, Classical.not_imp]

/-- If one of the addresses of the peer is good, every direct stage that applies has one to try. -/
theorem startsDirect_iff_directlyReachable (hudp : manager.udp_blocked = false)
    (haddr : (peer.ipv6_addresses ++ peer.ipv4_reflexive).filterMap parse ≠ []) :
    StartsDirect (manager.establish_connection build parse network peer connection_id proxy_records) ↔
      DirectlyReachable build parse manager peer := by
  rw [startsDirect_iff_addrs hudp, DirectlyReachable]
  by_cases hipv6 : peer.ipv6_addresses = []
  · -- what is left of the addresses are the reflexive ones
    rw [hipv6, List.nil_append] at haddr
    simp [ipv6_addrs, hipv6, haddr]
  · exact iff_of_true (.inl (by simpa [ipv6_addrs, hipv6] using haddr)) (.inl hipv6)

end stages

/-- A peer that by the types of the NATs needs no relay is tried directly first. -/
def DirectPathCovered (build : Build) (parse : String → Option SocketAddr) (config : TraversalConfig)
    (local_nat : NATInfo) (network : Network) (peer : PeerRecord) (connection_id : Bytes)
    (proxy_records : List ProxyRecord) : Prop :=
  detect_masque_need local_nat.nat_type (proto_nat_info_to_native peer.nat_info).nat_type false = false →
    StartsDirect (ConnectionManager.establish_connection build parse ⟨config, some local_nat, false⟩ network peer
      connection_id proxy_records)

/-- The types of the NATs promise more than the chain keeps: it also needs something to start with. -/
theorem direct_path_covered_iff (build : Build) (parse : String → Option SocketAddr) (config : TraversalConfig)
    (local_nat : NATInfo) (network : Network) (peer : PeerRecord) (connection_id : Bytes)
    (proxy_records : List ProxyRecord)
    (haddr : ∃ text ∈ peer.ipv6_addresses ++ peer.ipv4_reflexive, (parse text).isSome) :
    DirectPathCovered build parse config local_nat network peer connection_id proxy_records ↔
      detect_masque_need local_nat.nat_type (proto_nat_info_to_native peer.nat_info).nat_type false = true ∨
        DirectlyReachable build parse ⟨config, some local_nat, false⟩ peer := by
  have haddrs : (peer.ipv6_addresses ++ peer.ipv4_reflexive).filterMap parse ≠ [] := by
    obtain ⟨text, htext, hparse⟩ := haddr
    rw [ne_eq, List.filterMap_eq_nil_iff]
    exact fun hnone => by simp [hnone text htext] at hparse
  rw [DirectPathCovered, startsDirect_iff_directlyReachable rfl haddrs]
  cases detect_masque_need local_nat.nat_type (proto_nat_info_to_native peer.nat_info).nat_type false <;> simp

theorem direct_path_covered_of_cone :
    DirectPathCovered .checks parse_v4 .default ⟨.Cone, none⟩ refusing_network ipv4_peer [] [one_proxy] :=
  (direct_path_covered_iff .checks parse_v4 .default ⟨.Cone, none⟩ refusing_network ipv4_peer [] [one_proxy]
    (by decide)).mpr (.inr (.inr (.inl rfl)))

/-- A client without NAT and a peer that has told only an IPv4 address: no relay is thought to be
needed, and yet a relay is the first thing that is tried. The same goes for a peer with predictable
ports close to the last one, where the build panics or wraps and finds no port. -/
theorem direct_path_not_covered_without_nat :
    detect_masque_need .None (proto_nat_info_to_native ipv4_peer.nat_info).nat_type false = false ∧
      (ipv4_peer.ipv4_reflexive.filterMap parse_v4).length = 1 ∧
      (∀ build, ¬ DirectPathCovered build parse_v4 .default .no_nat refusing_network ipv4_peer [] [one_proxy]) ∧
      ∀ build, ¬ DirectPathCovered build parse_v4 .default .no_nat refusing_network sequential_peer []
        [one_proxy] := by
  refine ⟨by decide, by decide, fun build hcovered => ?_, fun build hcovered => ?_⟩
  · have hdirect := hcovered (by decide)
    revert hdirect
    cases build <;> decide
  · have hdirect := hcovered (by decide)
    revert hdirect
    cases build <;> decide

end voip_client.connection
